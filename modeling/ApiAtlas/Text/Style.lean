import ApiAtlas.Text.Blank
import ApiAtlas.Text.Lowercase
import ApiAtlas.Text.Pieces
import ApiAtlas.Text.Word

/-!
# Styles

A style is defined in words: attributes, colors and a link. Definitions of one style have one normal
form; what defines no style is only brought into lower case. A color with a component left out
cannot be read at all.
-/

set_option autoImplicit false

namespace ApiAtlas.Text

/-- The words of a text, without the blanks between them. -/
def bareWords (s : List Char) : List (List Char) :=
  (splitOn ' ' (s.map fun c => if isBlank c then ' ' else c)).filter (· ≠ [])

/-- The attributes of a style in the order in which they are told, each with all its names. -/
def attributeNames : List (String × List String) :=
  [("bold", ["bold", "b"]), ("dim", ["dim", "d"]), ("italic", ["italic", "i"]),
   ("underline", ["underline", "u"]), ("blink", ["blink"]), ("blink2", ["blink2"]),
   ("reverse", ["reverse", "r"]), ("conceal", ["conceal", "c"]), ("strike", ["strike", "s"]),
   ("underline2", ["underline2", "uu"]), ("frame", ["frame"]), ("encircle", ["encircle"]),
   ("overline", ["overline", "o"])]

/-- The attribute with a name. -/
def attribute? (word : List Char) : Option String :=
  (attributeNames.find? fun a => a.2.contains (String.ofList word)).map (·.1)

/-- The colors that have a name, separated by blanks. -/
def colorTable : String :=
  "default
black red green yellow blue magenta cyan white bright_black bright_red bright_green bright_yellow
bright_blue bright_magenta bright_cyan bright_white grey0 gray0 navy_blue dark_blue blue3 blue1
dark_green deep_sky_blue4 dodger_blue3 dodger_blue2 green4 spring_green4 turquoise4
deep_sky_blue3 dodger_blue1 green3 spring_green3 dark_cyan light_sea_green deep_sky_blue2
deep_sky_blue1 spring_green2 cyan3 dark_turquoise turquoise2 green1 spring_green1
medium_spring_green cyan2 cyan1 dark_red deep_pink4 purple4 purple3 blue_violet orange4 grey37
gray37 medium_purple4 slate_blue3 royal_blue1 chartreuse4 dark_sea_green4 pale_turquoise4
steel_blue steel_blue3 cornflower_blue chartreuse3 cadet_blue sky_blue3 steel_blue1 pale_green3
sea_green3 aquamarine3 medium_turquoise chartreuse2 sea_green2 sea_green1 aquamarine1
dark_slate_gray2 dark_magenta dark_violet purple light_pink4 plum4 medium_purple3 slate_blue1
yellow4 wheat4 grey53 gray53 light_slate_grey light_slate_gray medium_purple light_slate_blue
dark_olive_green3 dark_sea_green light_sky_blue3 sky_blue2 dark_sea_green3 dark_slate_gray3
sky_blue1 chartreuse1 light_green pale_green1 dark_slate_gray1 red3 medium_violet_red magenta3
dark_orange3 indian_red hot_pink3 medium_orchid3 medium_orchid medium_purple2 dark_goldenrod
light_salmon3 rosy_brown grey63 gray63 medium_purple1 gold3 dark_khaki navajo_white3 grey69
gray69 light_steel_blue3 light_steel_blue yellow3 dark_sea_green2 light_cyan3 light_sky_blue1
green_yellow dark_olive_green2 dark_sea_green1 pale_turquoise1 deep_pink3 magenta2 hot_pink2
orchid medium_orchid1 orange3 light_pink3 pink3 plum3 violet light_goldenrod3 tan misty_rose3
thistle3 plum2 khaki3 light_goldenrod2 light_yellow3 grey84 gray84 light_steel_blue1 yellow2
dark_olive_green1 honeydew2 light_cyan1 red1 deep_pink2 deep_pink1 magenta1 orange_red1
indian_red1 hot_pink dark_orange salmon1 light_coral pale_violet_red1 orchid2 orchid1 orange1
sandy_brown light_salmon1 light_pink1 pink1 plum1 gold1 navajo_white1 misty_rose1 thistle1
yellow1 light_goldenrod1 khaki1 wheat1 cornsilk1 grey100 gray100 grey3 gray3 grey7 gray7 grey11
gray11 grey15 gray15 grey19 gray19 grey23 gray23 grey27 gray27 grey30 gray30 grey35 gray35 grey39
gray39 grey42 gray42 grey46 gray46 grey50 gray50 grey54 gray54 grey58 gray58 grey62 gray62 grey66
gray66 grey70 gray70 grey74 gray74 grey78 gray78 grey82 gray82 grey85 gray85 grey89 gray89 grey93
gray93"

/-- The colors that have a name. -/
def colorNames : List (List Char) :=
  bareWords colorTable.toList

/-- Why words define no style: one of them is not known, or it is a color that cannot be read. -/
inductive StyleFault where
  | unknown
  | broken
  deriving DecidableEq, Repr

/-- What stands between a beginning and a closing parenthesis. -/
def enclosed? (beginning : String) (word : List Char) : Option (List Char) :=
  let start := beginning.toList
  if startsWith start word && endsWith [')'] word && start.length < word.length then
    some (dropEnding [')'] (word.drop start.length))
  else none

/-- The number that some digits write. -/
def numberOf (digits : List Char) : Nat :=
  digits.foldl (fun n c => 10 * n + (c.toNat - '0'.toNat)) 0

/-- A color by the numbers of its three components. -/
def checkComponents (inside : List Char) : Except StyleFault Unit :=
  let components := splitOn ',' inside
  if !inside.all (fun c => c.isDigit || c == ',') || components.length ≠ 3 then .error .unknown
  else if components.any List.isEmpty then .error .broken
  else if components.all fun digits => numberOf digits ≤ 255 then .ok ()
  else .error .unknown

/-- Checks that a word in lower case is a color: a name, six hexadecimal digits, a number, or three
components. -/
def checkColor (word : List Char) : Except StyleFault Unit :=
  if colorNames.contains word then .ok ()
  else
    match word, enclosed? "color(" word, enclosed? "rgb(" word with
    | '#' :: digits, _, _ =>
      let isHex (c : Char) : Bool := c.isDigit || ('a' ≤ c && c ≤ 'f')
      if digits.length = 6 && digits.all isHex then .ok () else .error .unknown
    | _, some digits, _ =>
      if !digits.isEmpty && digits.length ≤ 3 && digits.all Char.isDigit && numberOf digits ≤ 255
      then .ok () else .error .unknown
    | _, _, some inside => checkComponents inside
    | _, _, _ => .error .unknown

/-- A style: its attributes with whether they are on, its colors and its link. -/
structure Style where
  attributes : List (String × Bool) := []
  color : Option (List Char) := none
  ground : Option (List Char) := none
  link : Option (List Char) := none

namespace Style

/-- What a word says about the next one: it is the color of the ground, an attribute that is off, or
the target of a link. -/
inductive Lead where
  | ground
  | off
  | link

/-- The words that say something about the next one. -/
def lead? (word : List Char) : Option Lead :=
  ([("on", .ground), ("not", .off), ("link", .link)] : List (String × Lead)).lookup
    (String.ofList word)

/-- The style with an attribute. -/
def withAttribute (s : Style) (isOn : Bool) (name : String) : Style :=
  { s with attributes := (name, isOn) :: s.attributes }

/-- The style with one more word of its definition. -/
def addWord (s : Style) (lead : Option Lead) (w : List Char) : Except StyleFault Style :=
  let word := lower w
  match lead with
  | some .ground => (checkColor word).map fun _ => { s with ground := some word }
  | some .off =>
    match attribute? w with
    | some name => .ok (s.withAttribute false name)
    | none => .error .unknown
  | some .link => .ok { s with link := some w }
  | none =>
    match attribute? word with
    | some name => .ok (s.withAttribute true name)
    | none => (checkColor word).map fun _ => { s with color := some word }

/-- The style with the words of a definition added to it; `lead` is what the word before them says
about the first one. -/
def read (s : Style) (lead : Option Lead) : List (List Char) → Except StyleFault Style
  | [] => if lead.isNone then .ok s else .error .unknown
  | w :: ws =>
    match (if lead.isNone then lead? (lower w) else none) with
    | some next => read s (some next) ws
    | none => do read (← s.addWord lead w) none ws

/-- The normal definition of a style. -/
def text (s : Style) : List Char :=
  let attributes := attributeNames.flatMap fun a =>
    match s.attributes.lookup a.1 with
    | some true => [a.1.toList]
    | some false => ["not".toList, a.1.toList]
    | none => []
  let labeled (label : String) (word : Option (List Char)) : List (List Char) :=
    match word with
    | some w => [label.toList, w]
    | none => []
  let words :=
    attributes ++ s.color.toList ++ labeled "on" s.ground ++ labeled "link" s.link
  if words.isEmpty then "none".toList else joinWith [' '] words

/-- The style that a definition defines. -/
def ofDefinition (definition : List Char) : Except StyleFault Style :=
  read {} none (bareWords definition)

/-- The normal form of a definition; there is none if a color in it cannot be read. -/
def normal? (definition : List Char) : Option (List Char) :=
  match ofDefinition definition with
  | .ok s => some s.text
  | .error .unknown => some (lower (trim isBlank definition))
  | .error .broken => none

/-- Whether a color in a definition cannot be read. -/
def isBroken (definition : List Char) : Bool :=
  match ofDefinition definition with
  | .error .broken => true
  | _ => false

end Style

end ApiAtlas.Text
