import ApiAtlas.Json.Basic

/-!
# Reading JSON

A text is first cut into tokens, then a machine builds the value from them. The machine holds the
lists and objects that are still open, innermost first, and knows what may come next; each token is
one step, so that reading ends with the text.
-/

set_option autoImplicit false

namespace ApiAtlas.Json

/-- A token: a mark of punctuation, a text, or a bare word such as a number. -/
inductive Token where
  | mark (c : Char)
  | text (s : String)
  | word (cs : List Char)
  deriving DecidableEq, Repr

/-- A white character between tokens. -/
def isGap (c : Char) : Bool :=
  c = ' ' || c = '\n' || c = '\r' || c = '\t'

/-- A mark of punctuation. -/
def isMark (c : Char) : Bool :=
  "[]\x7b\x7d:,".toList.contains c

/-- Where cutting stands: between tokens, in a word, in a text, behind a backslash in a text, or in
the digits of a code unit. What has been read is kept last character first; `high` is the first
half of a surrogate pair. -/
inductive Scan where
  | between
  | word (read : List Char)
  | text (read : List Char) (high : Option Nat)
  | escape (read : List Char) (high : Option Nat)
  | unit (read : List Char) (high : Option Nat) (left value : Nat)

/-- The character that a letter behind a backslash stands for. -/
def unescape? : Char → Option Char
  | '"' => some '"'
  | '\\' => some '\\'
  | '/' => some '/'
  | 'b' => some (Char.ofNat 8)
  | 'f' => some (Char.ofNat 12)
  | 'n' => some '\n'
  | 'r' => some '\r'
  | 't' => some '\t'
  | _ => none

/-- The value of a hexadecimal digit. -/
def hexValue? (c : Char) : Option Nat :=
  if c.isDigit then some (c.toNat - '0'.toNat)
  else if 'a' ≤ c && c ≤ 'f' then some (c.toNat - 'a'.toNat + 10)
  else if 'A' ≤ c && c ≤ 'F' then some (c.toNat - 'A'.toNat + 10)
  else none

/-- Inside a text after a code unit: two halves make one character, a half alone is refused. -/
def afterUnit? (read : List Char) (high : Option Nat) (unit : Nat) : Option Scan :=
  match high with
  | none =>
    if 0xd800 ≤ unit && unit < 0xdc00 then some (.text read (some unit))
    else if 0xdc00 ≤ unit && unit < 0xe000 then none
    else some (.text (Char.ofNat unit :: read) none)
  | some first =>
    if 0xdc00 ≤ unit && unit < 0xe000 then
      some (.text
        (Char.ofNat (0x10000 + (first - 0xd800) * 0x400 + (unit - 0xdc00)) :: read) none)
    else none

/-- The tokens of a text. -/
def tokens? : Scan → List Char → Option (List Token)
  | .between, [] => some []
  | .word read, [] => some [.word read.reverse]
  | _, [] => none
  | .between, c :: cs =>
    if isGap c then tokens? .between cs
    else if c = '"' then tokens? (.text [] none) cs
    else if isMark c then (.mark c :: ·) <$> tokens? .between cs
    else tokens? (.word [c]) cs
  | .word read, c :: cs =>
    if isGap c then (.word read.reverse :: ·) <$> tokens? .between cs
    else if isMark c then
      (fun ts => .word read.reverse :: .mark c :: ts) <$> tokens? .between cs
    else if c = '"' then none
    else tokens? (.word (c :: read)) cs
  | .text read high, c :: cs =>
    if c = '\\' then tokens? (.escape read high) cs
    else if high.isSome then none
    else if c = '"' then (.text (String.ofList read.reverse) :: ·) <$> tokens? .between cs
    else tokens? (.text (c :: read) none) cs
  | .escape read high, c :: cs =>
    if c = 'u' then tokens? (.unit read high 4 0) cs
    else match high, unescape? c with
      | none, some d => tokens? (.text (d :: read) none) cs
      | _, _ => none
  | .unit read high left value, c :: cs =>
    match hexValue? c with
    | none => none
    | some d =>
      let value := value * 16 + d
      if left ≤ 1 then
        match afterUnit? read high value with
        | some next => tokens? next cs
        | none => none
      else tokens? (.unit read high (left - 1) value) cs

/-- The number that some decimal digits write. -/
def digits? (cs : List Char) : Option Nat :=
  if cs.isEmpty || cs.any (fun c => !c.isDigit) then none
  else some (cs.foldl (fun n c => n * 10 + (c.toNat - '0'.toNat)) 0)

/-- The number that a word without a sign writes; the exponent form is not read. -/
def unsigned? (cs : List Char) : Option Json :=
  match cs.span (· ≠ '.') with
  | (whole, []) => (digits? whole).map fun n => .int n
  | (whole, _ :: fraction) =>
    match digits? whole, digits? fraction with
    | some _, some _ => (digits? (whole ++ fraction)).map fun n => .decimal n fraction.length
    | _, _ => none

/-- The value that a word writes. -/
def word? (cs : List Char) : Option Json :=
  if cs = "null".toList then some .null
  else if cs = "true".toList then some (.bool true)
  else if cs = "false".toList then some (.bool false)
  else match cs with
    | '-' :: rest =>
      match unsigned? rest with
      | some (.int n) => some (.int (-n))
      | some (.decimal m e) => some (.decimal (-m) e)
      | _ => none
    | _ => unsigned? cs

/-- A list or an object that is still open, its last item first; an object knows the key of the
field that is being read. -/
inductive Frame where
  | items (read : List Json)
  | fields (read : List (String × Json)) (key : String)

/-- What may come next. -/
inductive Expect where
  | value
  | valueOrEnd
  | key
  | keyOrEnd
  | colon
  | commaOrEnd
  | nothing
  deriving DecidableEq, Repr

/-- The machine: the open frames, what may come next, and the value once it is whole. -/
structure Machine where
  frames : List Frame
  expect : Expect
  result : Json

/-- The machine after a value is whole. -/
def Machine.give (m : Machine) (v : Json) : Machine :=
  match m.frames with
  | [] => { m with expect := .nothing, result := v }
  | .items read :: fs => { m with frames := .items (v :: read) :: fs, expect := .commaOrEnd }
  | .fields read key :: fs =>
    { m with frames := .fields ((key, v) :: read) key :: fs, expect := .commaOrEnd }

/-- The machine after the innermost list is closed. -/
def Machine.closeList? (m : Machine) : Option Machine :=
  match m.frames with
  | .items read :: fs => some ({ m with frames := fs }.give (.arr read.reverse))
  | _ => none

/-- The machine after the innermost object is closed. -/
def Machine.closeObject? (m : Machine) : Option Machine :=
  match m.frames with
  | .fields read _ :: fs => some ({ m with frames := fs }.give (.obj read.reverse))
  | _ => none

/-- The machine after a token where a value may stand. -/
def Machine.value? (m : Machine) : Token → Option Machine
  | .text s => some (m.give (.str s))
  | .word cs => (word? cs).map m.give
  | .mark c =>
    if c = '[' then some { m with frames := .items [] :: m.frames, expect := .valueOrEnd }
    else if c = '\x7b' then
      some { m with frames := .fields [] "" :: m.frames, expect := .keyOrEnd }
    else none

/-- The machine after a token where a key may stand. -/
def Machine.key? (m : Machine) : Token → Option Machine
  | .text s =>
    match m.frames with
    | .fields read _ :: fs => some { m with frames := .fields read s :: fs, expect := .colon }
    | _ => none
  | _ => none

/-- The machine after a token behind a finished item. -/
def Machine.comma? (m : Machine) (t : Token) : Option Machine :=
  match t, m.frames with
  | .mark c, .items _ :: _ =>
    if c = ',' then some { m with expect := .value }
    else if c = ']' then m.closeList? else none
  | .mark c, .fields _ _ :: _ =>
    if c = ',' then some { m with expect := .key }
    else if c = '\x7d' then m.closeObject? else none
  | _, _ => none

/-- The machine after a token. -/
def Machine.step? (m : Machine) (t : Token) : Option Machine :=
  match m.expect with
  | .value => m.value? t
  | .valueOrEnd => if t = .mark ']' then m.closeList? else m.value? t
  | .key => m.key? t
  | .keyOrEnd => if t = .mark '\x7d' then m.closeObject? else m.key? t
  | .colon => if t = .mark ':' then some { m with expect := .value } else none
  | .commaOrEnd => m.comma? t
  | .nothing => none

/-- The value that a text writes, if it writes one. -/
def parse? (s : String) : Option Json := do
  let ts ← tokens? .between s.toList
  let m ← ts.foldlM Machine.step? ⟨[], .value, .null⟩
  if m.expect = .nothing then some m.result else none

end ApiAtlas.Json
