import ApiAtlas.Text.Blank
import ApiAtlas.Text.Pieces
import ApiAtlas.Text.Word

/-!
# Tokens of constants

The tokens of a constant that is written out in full: numbers, texts between quotation marks, words,
brackets and signs. Text that holds anything else has no tokens.
-/

set_option autoImplicit false

namespace ApiAtlas.Text.Constant

/-- A token: a number, which may be imaginary, a text of characters or of bytes, a word, three dots,
or a single mark. -/
inductive Token where
  | number (imaginary : Bool)
  | text (bytes : Bool)
  | word (name : List Char)
  | dots
  | mark (c : Char)
  deriving DecidableEq, Repr

/-- A hexadecimal digit. -/
def isHexDigit (c : Char) : Bool :=
  c.isDigit || ('a' ≤ c.toLower && c.toLower ≤ 'f')

/-- Whether no two underscores follow each other. -/
def singleUnderscores : List Char → Bool
  | '_' :: '_' :: _ => false
  | _ :: r => singleUnderscores r
  | [] => true

/-- Digits with single underscores between them. -/
def isDigits (digit : Char → Bool) (s : List Char) : Bool :=
  s.head?.any digit && s.getLast?.any digit && s.all (fun c => digit c || c == '_') &&
    singleUnderscores s

/-- The digits of the bases that are told by a letter. -/
def basedDigit? (letter : Char) : Option (Char → Bool) :=
  match letter.toLower with
  | 'x' => some isHexDigit
  | 'o' => some fun c => '0' ≤ c && c ≤ '7'
  | 'b' => some fun c => c == '0' || c == '1'
  | _ => none

/-- A decimal number: digits, a point among or beside them, and an exponent. An integer does not
start with a zero, unless it is zero. -/
def isDecimal (imaginary : Bool) (s : List Char) : Bool :=
  let base := s.takeWhile fun c => c.toLower ≠ 'e'
  let exponent := s.drop base.length
  let (whole, fraction) := cut '.' base
  let isPart (p : List Char) : Bool := p.isEmpty || isDigits Char.isDigit p
  let isInteger := !base.contains '.' && exponent.isEmpty && !imaginary
  let power := exponent.drop 1
  let unsigned := if power.head?.any (oneOf "+-") then power.drop 1 else power
  isPart whole && isPart fraction && !(whole.isEmpty && fraction.isEmpty) &&
    (exponent.isEmpty || isDigits Char.isDigit unsigned) &&
    (!isInteger || whole.head? ≠ some '0' || whole.all (oneOf "0_"))

/-- The digits of a number that has a base of its own, with what is a digit there. -/
def based? (s : List Char) : Option ((Char → Bool) × List Char) :=
  match s with
  | '0' :: letter :: digits => (basedDigit? letter).map fun digit => (digit, digits)
  | _ => none

/-- The token of a number. -/
def numberToken? (s : List Char) : Option Token :=
  match based? s with
  | some (digit, digits) =>
    let bare := if digits.head? = some '_' then digits.drop 1 else digits
    if isDigits digit bare then some (.number false) else none
  | none =>
    let imaginary := s.getLast?.any (oneOf "jJ")
    if isDecimal imaginary (if imaginary then s.dropLast else s) then some (.number imaginary)
    else none

/-- The number of characters that a number takes; `before` is the character before them. A sign
belongs to a decimal number after the letter of its exponent. -/
def numberLength (isBased : Bool) (before : Char) : List Char → Nat
  | [] => 0
  | c :: r =>
    let isSign := oneOf "+-" c && before.toLower = 'e' && !isBased
    if c.isAlphanum || c = '_' || c = '.' || isSign then numberLength isBased c r + 1 else 0

/-- The number of hexadecimal digits that an escape needs after its letter. -/
def escapeSize (bytes : Bool) (letter : Char) : Nat :=
  match letter with
  | 'x' => 2
  | 'u' => if bytes then 0 else 4
  | 'U' => if bytes then 0 else 8
  | _ => 0

/-- Whether the digits that an escape needs follow its letter. -/
def isEscape (bytes : Bool) (letter : Char) (rest : List Char) : Bool :=
  let size := escapeSize bytes letter
  let digits := rest.take size
  digits.length = size && digits.all isHexDigit &&
    (size < 8 || startsWith "000".toList digits || startsWith "0010".toList digits)

/-- What follows a text that ends with some marks; nothing if the text is not well formed. -/
def afterText? (raw bytes : Bool) (close : List Char) : List Char → Option (List Char)
  | [] => none
  | '\\' :: c :: r =>
    if (!raw && !isEscape bytes c r) || (bytes && 0x80 ≤ c.toNat) then none
    else afterText? raw bytes close r
  | c :: r =>
    if startsWith close (c :: r) then some ((c :: r).drop close.length)
    else if (c = '\n' && close.length = 1) || (bytes && 0x80 ≤ c.toNat) then none
    else afterText? raw bytes close r

/-- The text after some letters and a quotation mark, and what follows it. -/
def textToken? (letters : List Char) (mark : Char) (rest : List Char) :
    Option (Token × List Char) :=
  let form := letters.map Char.toLower
  let raw := form.contains 'r'
  let bytes := form.contains 'b'
  let close := if startsWith [mark, mark] rest then [mark, mark, mark] else [mark]
  if ["", "r", "u", "b", "br", "rb"].contains (String.ofList form) then
    (afterText? raw bytes close (rest.drop (close.length - 1))).map fun r => (.text bytes, r)
  else none

/-- The first token of a text that does not start with a blank, and what follows it. -/
def first? (s : List Char) : Option (Token × List Char) :=
  match s with
  | [] => none
  | '.' :: '.' :: '.' :: r => some (.dots, r)
  | c :: r =>
    if c.isDigit || (c = '.' && r.head?.any Char.isDigit) then
      let size := numberLength (based? s).isSome ' ' s
      (numberToken? (s.take size)).map fun t => (t, s.drop size)
    else if isWord c then
      let name := s.takeWhile isWord
      match s.drop name.length with
      | mark :: rest =>
        if oneOf "\"'" mark then textToken? name mark rest else some (.word name, mark :: rest)
      | [] => some (.word name, [])
    else if oneOf "\"'" c then textToken? [] c r
    else if oneOf "()\x7b\x7d,:+-" c then some (.mark c, r)
    else none

/-- How deep inside brackets the text after a token is. -/
def depthAfter (depth : Nat) : Token → Nat
  | .mark c =>
    if oneOf "(\x7b" c then depth + 1 else if oneOf ")\x7d" c then depth - 1 else depth
  | _ => depth

/-- The tokens of a text, found in at most some number of steps. A line that ends outside all
brackets is a mark, unless a backslash hides its end. A number sign hides the rest of a line. -/
def tokens? : Nat → Nat → List Char → Option (List Token)
  | _, _, [] => some []
  | 0, _, _ => none
  | steps + 1, depth, c :: r =>
    if oneOf " \t\x0c" c || (c = '\n' && 0 < depth) then tokens? steps depth r
    else if c = '\\' && r.head? = some '\n' then tokens? steps depth (r.drop 1)
    else if c = '\n' then (tokens? steps depth r).map fun ts => .mark c :: ts
    else if c = '#' then tokens? steps depth (r.dropWhile (· ≠ '\n'))
    else do
      let (t, rest) ← first? (c :: r)
      let ts ← tokens? steps (depthAfter depth t) rest
      return t :: ts

end ApiAtlas.Text.Constant
