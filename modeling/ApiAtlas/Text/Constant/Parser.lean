import ApiAtlas.Text.Constant.Token

/-!
# Constants

A constant is a value that is written out in full: a number, a text, a truth value, nothing, or a
collection of constants. Only constants that never change can be keys or members of a set. The
functions here tell whether a text is a constant; the depth of brackets is bounded by the number of
tokens.
-/

set_option autoImplicit false

namespace ApiAtlas.Text.Constant

/-- What a constant is: a number, which may be imaginary and may have a sign, or another value,
which may be a key. -/
inductive Shape where
  | number (imaginary signed : Bool)
  | other (key : Bool)
  deriving DecidableEq, Repr

/-- Whether a constant can be a key. -/
def Shape.isKey : Shape → Bool
  | .number .. => true
  | .other key => key

/-- The texts at the start of some tokens are one text if they are all of one form. -/
def afterTexts? (bytes : Bool) : List Token → Option (List Token)
  | .text b :: ts => if b = bytes then afterTexts? bytes ts else none
  | ts => some ts

/-- What follows a word that is a constant, or the empty set. -/
def word? (name : String) (ts : List Token) : Option (Shape × List Token) :=
  if ["True", "False", "None"].contains name then some (.other true, ts)
  else
    match name, ts with
    | "set", .mark '(' :: .mark ')' :: rest => some (.other false, rest)
    | _, _ => none

mutual

/-- A constant, or the sum of a real and an imaginary number. -/
def value? : Nat → List Token → Option (Shape × List Token)
  | 0, _ => none
  | depth + 1, ts => do
    let (left, rest) ← signed? depth ts
    match left, rest with
    | .number false _, .mark c :: more =>
      if oneOf "+-" c then
        match ← atom? depth more with
        | (.number true false, rest) => some (.other true, rest)
        | _ => none
      else some (left, rest)
    | _, _ => some (left, rest)

/-- A constant, or a number with a sign. -/
def signed? : Nat → List Token → Option (Shape × List Token)
  | 0, _ => none
  | depth + 1, ts =>
    match ts with
    | .mark c :: more =>
      if oneOf "+-" c then do
        match ← atom? depth more with
        | (.number imaginary false, rest) => some (.number imaginary true, rest)
        | _ => none
      else atom? depth ts
    | _ => atom? depth ts

/-- A constant that needs no brackets around it. -/
def atom? : Nat → List Token → Option (Shape × List Token)
  | 0, _ => none
  | depth + 1, ts =>
    match ts with
    | .number imaginary :: rest => some (.number imaginary false, rest)
    | .text bytes :: rest => (afterTexts? bytes rest).map fun rest => (.other true, rest)
    | .dots :: rest => some (.other true, rest)
    | .word name :: rest => word? (String.ofList name) rest
    | .mark '(' :: .mark ')' :: rest => some (.other true, rest)
    | .mark '(' :: more => do
      let (x, rest) ← value? depth more
      match rest with
      | .mark ')' :: rest => some (x, rest)
      | _ => do
        let (keys, rest) ← items? depth ')' rest
        some (.other (x.isKey && keys), rest)
    | .mark '\x7b' :: .mark '\x7d' :: rest => some (.other false, rest)
    | .mark '\x7b' :: more => do
      let (x, rest) ← value? depth more
      if !x.isKey then none
      else
        match rest with
        | .mark ':' :: rest => do
          let (_, rest) ← value? depth rest
          let rest ← fields? depth rest
          some (.other false, rest)
        | _ => do
          let (keys, rest) ← items? depth '\x7d' rest
          if keys then some (.other false, rest) else none
    | _ => none

/-- The items after the first one, up to a closing bracket, and whether all of them can be keys. -/
def items? : Nat → Char → List Token → Option (Bool × List Token)
  | 0, _, _ => none
  | depth + 1, close, ts =>
    match ts with
    | .mark c :: more =>
      if c = close then some (true, more)
      else if c ≠ ',' then none
      else if more.head? = some (.mark close) then some (true, more.drop 1)
      else do
        let (x, rest) ← value? depth more
        let (keys, rest) ← items? depth close rest
        some (x.isKey && keys, rest)
    | _ => none

/-- The fields after the first one, up to the closing bracket. -/
def fields? : Nat → List Token → Option (List Token)
  | 0, _ => none
  | depth + 1, ts =>
    match ts with
    | .mark '\x7d' :: rest => some rest
    | .mark ',' :: .mark '\x7d' :: rest => some rest
    | .mark ',' :: more => do
      let (key, rest) ← value? depth more
      match key.isKey, rest with
      | true, .mark ':' :: rest => do
        let (_, rest) ← value? depth rest
        fields? depth rest
      | _, _ => none
    | _ => none

end

/-- Whether some tokens are one constant, or several with commas between them. -/
def isWhole (ts : List Token) : Bool :=
  let depth := 4 * ts.length + 4
  match value? depth ts with
  | some (_, []) => true
  | some (_, rest) =>
    match items? depth ')' (rest ++ [.mark ')']) with
    | some (_, []) => true
    | _ => false
  | none => false

/-- Whether a text is a constant, or several with commas between them; lines without a token may
stand before and after. -/
def isConstant (s : List Char) : Bool :=
  let isEnd (t : Token) : Bool := t == .mark '\n'
  (tokens? s.length 0 s).any fun ts =>
    isWhole ((ts.dropWhile isEnd).reverse.dropWhile isEnd).reverse

end ApiAtlas.Text.Constant
