import ApiAtlas.Comment.Basic
import ApiAtlas.Text.Blank
import ApiAtlas.Text.Lines
import ApiAtlas.Text.Pieces

/-!
# Reading doc comments

A doc comment is written between `/**` and `*/`. Its lines lose their leading star and the blanks
around them; a line that starts with `@` and a letter opens a tag, and the lines up to the next tag
belong to it. What stands before the first tag is the summary. An inline `{@inheritDoc Target}` in
the summary is taken out of it and becomes the first tag.
-/

set_option autoImplicit false

namespace ApiAtlas.Comment

/-- The names of the tags whose first word names the thing they describe. -/
def describingTags : List String :=
  ["param", "typeparam", "template", "property", "prop"]

/-- One line of a comment without the blanks around it, its leading star and one space after the
star. -/
def bareLine (line : List Char) : List Char :=
  let content := match Text.trim Text.isBlank line with
    | '*' :: ' ' :: rest => rest
    | '*' :: rest => rest
    | other => other
  Text.trimEnd Text.isBlank content

/-- The text between the markers of a block, of which either may be missing. -/
def betweenMarkers (raw : List Char) : List Char :=
  let body := match Text.trim Text.isBlank raw with
    | '/' :: '*' :: '*' :: rest => rest
    | '/' :: '*' :: rest => rest
    | other => other
  if Text.endsWith ['*', '/'] body then Text.dropEnding ['*', '/'] body else body

/-- The lines that a block holds. -/
def bareLines (raw : List Char) : List (List Char) :=
  (Text.splitLines (betweenMarkers raw)).map bareLine

/-- The name and the text of a line that opens a tag. -/
def tagLine? : List Char → Option (List Char × List Char)
  | '@' :: c :: rest =>
    if c.isAlpha then
      let inName (d : Char) : Bool := Text.isWord d || d == '-'
      some (c :: rest.takeWhile inName, Text.trim Text.isBlank (rest.dropWhile inName))
    else none
  | _ => none

/-- The pieces that are not empty, with line breaks between them. -/
def joinLines (lines : List (List Char)) : List Char :=
  Text.joinWith ['\n'] lines

/-- A tag from its name, the text of its line and the lines after it. -/
def tagOf (name text : List Char) (more : List (List Char)) : Tag :=
  let key := String.ofList (Text.lower name)
  let body (first : List Char) : String :=
    String.ofList (joinLines ((first :: more).filter (!·.isEmpty)))
  if describingTags.contains key && !text.isEmpty then
    let (word, rest) := Text.cut ' ' text
    ⟨key, body (Text.trim Text.isBlank (Text.trimStart (Text.oneOf "- ") rest)),
      some (String.ofList (Text.trim (Text.oneOf "[]\x7b\x7d") word))⟩
  else ⟨key, body text, none⟩

/-- The lines before the first tag, and the tags. -/
def sections : List (List Char) → List (List Char) × List Tag
  | [] => ([], [])
  | line :: rest =>
    let (free, tags) := sections rest
    match tagLine? line with
    | some (name, text) => ([], tagOf name text free :: tags)
    | none => (line :: free, tags)

/-- Whether a character stands for a small letter when case does not matter; the dotted capital
and the dotless small i both stand for i. -/
def standsFor (letter c : Char) : Bool :=
  c.toLower == letter || (letter == 'i' && (c.toNat == 0x130 || c.toNat == 0x131))

/-- The rest of a text after letters that are matched without regard to case. -/
def dropLetters? : List Char → List Char → Option (List Char)
  | [], s => some s
  | _ :: _, [] => none
  | l :: ls, c :: s => if standsFor l c then dropLetters? ls s else none

/-- The target that an inline reference at the start of a text names, and the text after it. -/
def inlineTarget? (s : List Char) : Option (List Char × List Char) :=
  match s with
  | '\x7b' :: '@' :: rest =>
    match dropLetters? "inheritdoc".toList rest with
    | some ('\x7d' :: after) => some ([], after)
    | some (c :: after) =>
      if Text.isBlank c then
        match after.dropWhile (· ≠ '\x7d') with
        | _ :: beyond => some (Text.trim Text.isBlank (after.takeWhile (· ≠ '\x7d')), beyond)
        | [] => none
      else none
    | _ => none
  | _ => none

/-- The text without its inline references, and their targets in order; `skip` characters belong
to a reference that is already taken. -/
def takeInline (skip : Nat) : List Char → List Char × List (List Char)
  | [] => ([], [])
  | c :: r =>
    match skip with
    | k + 1 => takeInline k r
    | 0 =>
      match inlineTarget? (c :: r) with
      | some (target, after) =>
        let (kept, targets) := takeInline (r.length - after.length) r
        (kept, target :: targets)
      | none =>
        let (kept, targets) := takeInline 0 r
        (c :: kept, targets)

/-- The comment that a block of text holds: none if the block is not a doc comment or says
nothing. -/
def parse? (raw : String) : Option Comment :=
  let cs := raw.toList
  if Text.startsWith "/**".toList (Text.trimStart Text.isBlank cs) then
    let (free, tags) := sections (bareLines cs)
    let summary := Text.trim Text.isBlank (joinLines free)
    let comment : Comment :=
      match takeInline 0 summary with
      | (kept, target :: _) =>
        ⟨String.ofList (Text.trim Text.isBlank kept),
          ⟨"inheritdoc", String.ofList target, none⟩ :: tags⟩
      | (_, []) => ⟨String.ofList summary, tags⟩
    if comment.isEmpty then none else some comment
  else none

end ApiAtlas.Comment
