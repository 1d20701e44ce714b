import ApiAtlas.Text.Hex

/-!
# Reading UTF-8

Bytes become text one character at a time. A byte that cannot continue the text ends the reading
with a fault, which tells the span of the offending bytes and why they are refused: they cannot
start a character, they do not continue one, or the bytes end inside a character.
-/

set_option autoImplicit false

namespace ApiAtlas.Text.Utf8

/-- Why bytes are not text. -/
inductive Reason where
  | badStart
  | badContinuation
  | unexpectedEnd
  deriving DecidableEq, Repr

/-- The bytes from `start` up to `stop` that are not text; `byte` is the first of them. -/
structure Fault where
  start : Nat
  stop : Nat
  byte : UInt8
  reason : Reason
  deriving DecidableEq, Repr

/-- The wording of a reason. -/
def Reason.text : Reason → String
  | .badStart => "invalid start byte"
  | .badContinuation => "invalid continuation byte"
  | .unexpectedEnd => "unexpected end of data"

/-- The wording of a fault; a single byte is shown, several are given by their positions. -/
def Fault.message (f : Fault) : String :=
  (if f.stop = f.start + 1 then
    "'utf-8' codec can't decode byte 0x" ++ String.ofList (hexDigits 2 f.byte.toNat) ++
      " in position " ++ toString f.start
  else
    "'utf-8' codec can't decode bytes in position " ++ toString f.start ++ "-" ++
      toString (f.stop - 1)) ++ ": " ++ f.reason.text

/-- A byte that continues a character. -/
def isTail (b : UInt8) : Bool :=
  0x80 ≤ b && b < 0xc0

/-- Whether the second byte of a character may follow the first: overlong forms, surrogates and
code points past the last one are refused here. -/
def secondAllowed (a b : UInt8) : Bool :=
  isTail b &&
    !(a == 0xe0 && b < 0xa0) && !(a == 0xed && 0xa0 ≤ b) &&
    !(a == 0xf0 && b < 0x90) && !(a == 0xf4 && 0x90 ≤ b)

/-- The payload bits of a byte that continues a character. -/
def tailBits (b : UInt8) : Nat :=
  b.toNat % 0x40

/-- The text of some bytes, of which the first stands at position `at`. -/
def decodeAt (pos : Nat) : List UInt8 → Except Fault (List Char)
  | [] => .ok []
  | a :: rest =>
    let fault (length : Nat) (why : Reason) : Except Fault (List Char) :=
      .error ⟨pos, pos + length, a, why⟩
    if a < 0x80 then
      (Char.ofNat a.toNat :: ·) <$> decodeAt (pos + 1) rest
    else if a < 0xc2 || 0xf5 ≤ a then fault 1 .badStart
    else match rest with
      | [] => fault 1 .unexpectedEnd
      | b :: rest =>
        if !secondAllowed a b then fault 1 .badContinuation
        else if a < 0xe0 then
          (Char.ofNat ((a.toNat - 0xc0) * 0x40 + tailBits b) :: ·) <$> decodeAt (pos + 2) rest
        else match rest with
          | [] => fault 2 .unexpectedEnd
          | c :: rest =>
            if !isTail c then fault 2 .badContinuation
            else if a < 0xf0 then
              (Char.ofNat (((a.toNat - 0xe0) * 0x40 + tailBits b) * 0x40 + tailBits c) :: ·) <$>
                decodeAt (pos + 3) rest
            else match rest with
              | [] => fault 3 .unexpectedEnd
              | d :: rest =>
                if !isTail d then fault 3 .badContinuation
                else
                  (Char.ofNat ((((a.toNat - 0xf0) * 0x40 + tailBits b) * 0x40 + tailBits c) * 0x40 +
                    tailBits d) :: ·) <$> decodeAt (pos + 4) rest

/-- The text of some bytes. -/
def decode (bytes : List UInt8) : Except Fault String :=
  String.ofList <$> decodeAt 0 bytes

/-- The text of the bytes from `start` up to `stop`; positions past the end are cut off. -/
def decodeSlice (bytes : List UInt8) (start stop : Nat) : Except Fault String :=
  decode ((bytes.drop start).take (stop - start))

end ApiAtlas.Text.Utf8
