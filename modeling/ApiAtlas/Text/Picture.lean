import ApiAtlas.Text.Lowercase
import ApiAtlas.Text.Pieces
import ApiAtlas.Text.Blank
import ApiAtlas.Text.PictureTable

/-!
# Pictures by name

A picture can be written as its name between two colons. A name that ends in `-text` or `-emoji`
asks for the plain or the colored form of the picture. A code that names no picture stays as it is.
-/

set_option autoImplicit false

namespace ApiAtlas.Text

/-- The pictures with their names. -/
def pictures : List (List Char × List Char) :=
  (pictureTable.splitOn "\n").flatMap fun line =>
    (line.splitOn " ").map fun entry => cut '=' entry.toList

/-- The picture with a name, in any letter case. -/
def picture? (name : List Char) : Option (List Char) :=
  pictures.lookup (lower name)

/-- The forms that a picture can be asked for in, each with the character that selects it. -/
def pictureForms : List (List Char × Char) :=
  [("-text".toList, Char.ofNat 0xfe0e), ("-emoji".toList, Char.ofNat 0xfe0f)]

/-- What is shown for the code between two colons. -/
def shownCode (code : List Char) : List Char :=
  let (name, selector) :=
    match pictureForms.find? fun form => endsWith form.1 code with
    | some form => (dropEnding form.1 code, [form.2])
    | none => (code, [])
  match picture? name with
  | some shown => shown ++ selector
  | none => [':'] ++ code ++ [':']

/-- The code that ends at the next colon, for text that stands after a colon. -/
def codeBefore? (s : List Char) : Option (List Char) :=
  let code := s.takeWhile fun c => c ≠ ':' && !isBlank c
  if (s.drop code.length).head? = some ':' then some code else none

/-- The text with its codes replaced by pictures; `skip` is what is left of a code that has been
dealt with. -/
def withPicturesFrom (skip : Nat) : List Char → List Char
  | [] => []
  | c :: r =>
    match skip with
    | k + 1 => withPicturesFrom k r
    | 0 =>
      match (if c = ':' then codeBefore? r else none) with
      | some code => shownCode code ++ withPicturesFrom (code.length + 1) r
      | none => c :: withPicturesFrom 0 r

/-- The text with its codes replaced by pictures. -/
def withPictures (s : List Char) : List Char :=
  withPicturesFrom 0 s

end ApiAtlas.Text
