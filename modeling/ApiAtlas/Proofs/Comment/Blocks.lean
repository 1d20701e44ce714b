import ApiAtlas.Proofs.Comment.Sections

/-!
# Blocks that are read back

A `Block` is a doc comment as one writes it: the lines of a summary and tags, each with a name, for
some the name of the thing that it describes, and the lines of its text. The conditions on them are
those that a writer keeps to, so that no line breaks in two, opens a tag by accident or loses a part
of itself. Written between the markers with a star before each line, it is read back as it was
(`Block.parse_write`): stripping gives back the lines (`bareLine_starred`), and a tag is read from
its own lines (`BlockTag.sections_lines_append`).
-/

set_option autoImplicit false

namespace ApiAtlas.Comment

open Text

/-! ## What a block says -/

/-- Characters that fill one line of a block and lose nothing when the line is stripped. -/
structure IsLine (chars : List Char) : Prop where
  unbroken : ∀ c ∈ chars, isLineBreak c = false
  trimmed : IsTrimmed isBlank chars

instance (chars : List Char) : Decidable (IsLine chars) :=
  decidable_of_iff (chars.any isLineBreak = false ∧ IsTrimmed isBlank chars)
    ⟨fun h => ⟨forall_eq_false h.1, h.2⟩,
      fun h => ⟨List.any_eq_false.2 fun c hc => Bool.eq_false_iff.1 (h.unbroken c hc), h.trimmed⟩⟩

/-- A line of text, which does not look like the start of a tag. -/
structure Line where
  chars : List Char
  isLine : IsLine chars
  untagged : chars.head? ≠ some '@'

/-- A small letter, a digit, an underscore or a hyphen. -/
def IsNameChar (c : Char) : Prop :=
  c.isLower ∨ c.isDigit ∨ c = '_' ∨ c = '-'

instance (c : Char) : Decidable (IsNameChar c) :=
  inferInstanceAs (Decidable (c.isLower ∨ c.isDigit ∨ c = '_' ∨ c = '-'))

/-- The name of a tag, which starts with a letter. -/
structure TagName where
  letter : Char
  rest : List Char
  isLower : letter.isLower
  isNameChar : ∀ c ∈ rest, IsNameChar c

namespace TagName

def chars (name : TagName) : List Char :=
  name.letter :: name.rest

/-- Whether tags of this name describe a thing. -/
def Describes (name : TagName) : Prop :=
  String.ofList name.chars ∈ describingTags

instance (name : TagName) : Decidable name.Describes :=
  inferInstanceAs (Decidable (String.ofList name.chars ∈ describingTags))

end TagName

/-- The name of the thing that a tag describes: a word without brackets or braces around it. -/
structure Subject where
  chars : List Char
  ne_nil : chars ≠ []
  blankless : ∀ c ∈ chars, isBlank c = false
  unbraced : IsTrimmed (oneOf "[]\x7b\x7d") chars

/-- A tag as it is written. Only tags that describe a thing name it, and they do when they have a
text; what follows the name is not a hyphen, which would set the text off. -/
structure BlockTag where
  name : TagName
  subject : Option Subject
  text : List Line
  filled : ∀ line ∈ text, line.chars ≠ []
  describes : subject.isSome → name.Describes
  described : name.Describes → text ≠ [] → subject.isSome
  unhyphened : subject.isSome → ∀ line ∈ text.head?, line.chars.head? ≠ some '-'

namespace BlockTag

/-- The lines of the text. -/
def textLines (tag : BlockTag) : List (List Char) :=
  tag.text.map Line.chars

/-- What stands behind the tag's name on its line: the thing it describes and the first line of
the text, as far as there are any. -/
def words (tag : BlockTag) : List (List Char) :=
  tag.subject.toList.map Subject.chars ++ tag.textLines.take 1

/-- The line with the tag's name, and the further lines of its text. -/
def lines (tag : BlockTag) : List (List Char) :=
  joinWith [' '] (('@' :: tag.name.chars) :: tag.words) :: tag.textLines.drop 1

/-- The tag that is written. -/
def tag (tag : BlockTag) : Tag :=
  ⟨String.ofList tag.name.chars, String.ofList (joinLines tag.textLines),
    tag.subject.map fun subject => String.ofList subject.chars⟩

end BlockTag

/-- A doc comment as it is written. Empty lines stand only within the summary, and it holds no
inline reference. -/
structure Block where
  summary : List Line
  tags : List BlockTag
  firstFilled : ∀ line ∈ summary.head?, line.chars ≠ []
  lastFilled : ∀ line ∈ summary.getLast?, line.chars ≠ []
  plain : IsPlain (joinLines (summary.map Line.chars))

namespace Block

/-- What the block says, line by line. -/
def lines (block : Block) : List (List Char) :=
  block.summary.map Line.chars ++ block.tags.flatMap BlockTag.lines

/-- The lines with a star before each. -/
def starred (block : Block) : List (List Char) :=
  block.lines.map (" * ".toList ++ ·)

/-- The block between its markers. -/
def write (block : Block) : String :=
  String.ofList (joinLines ("/**".toList :: (block.starred ++ [" */".toList])))

/-- The comment that the block holds. -/
def comment (block : Block) : Comment :=
  ⟨String.ofList (joinLines (block.summary.map Line.chars)), block.tags.map BlockTag.tag⟩

end Block

/-! ## Names -/

variable {c : Char}

/-- Membership in a range of characters by their code points. -/
theorem toNat_between {low high : Char}
    (h : (decide (low.val ≤ c.val) && decide (c.val ≤ high.val)) = true) :
    low.toNat ≤ c.toNat ∧ c.toNat ≤ high.toNat := by
  rw [Bool.and_eq_true, decide_eq_true_eq, decide_eq_true_eq] at h
  exact ⟨UInt32.le_iff_toNat_le.1 h.1, UInt32.le_iff_toNat_le.1 h.2⟩

/-- A small letter is a letter. -/
theorem isAlpha_of_isLower (h : c.isLower) : c.isAlpha = true :=
  Bool.or_eq_true_iff.2 (.inr h)

namespace IsNameChar

/-- The code of a character of a tag's name is that of a small letter, a digit, an underscore or a
hyphen. -/
theorem toNat_cases (h : IsNameChar c) :
    (0x61 ≤ c.toNat ∧ c.toNat ≤ 0x7a) ∨ (0x30 ≤ c.toNat ∧ c.toNat ≤ 0x39) ∨
      c.toNat = 0x5f ∨ c.toNat = 0x2d := by
  rcases h with h | h | rfl | rfl
  · exact .inl (toNat_between h)
  · exact .inr (.inl (toNat_between h))
  · exact .inr (.inr (.inl (by rfl)))
  · exact .inr (.inr (.inr (by rfl)))

/-- The characters of a tag's name are printable ones. -/
theorem toNat_bounds (h : IsNameChar c) : 0x2d ≤ c.toNat ∧ c.toNat < 0x80 := by
  have hcases := h.toNat_cases
  omega

/-- Such a character is not a capital, so it is its own small letter. -/
theorem lowerChar (h : IsNameChar c) : lowerChar c = c := by
  have hcapital : ¬ ('A'.val ≤ c.val ∧ c.val ≤ 'Z'.val) := by
    rintro ⟨hlow, hhigh⟩
    have hlow : 0x41 ≤ c.toNat := UInt32.le_iff_toNat_le.1 hlow
    have hhigh : c.toNat ≤ 0x5a := UInt32.le_iff_toNat_le.1 hhigh
    have hcases := h.toNat_cases
    omega
  have hlower : c.toLower = c := dif_neg hcapital
  rw [Text.lowerChar, if_pos h.toNat_bounds.2, hlower]

/-- No character of a tag's name is a blank. -/
theorem isBlank (h : IsNameChar c) : isBlank c = false := by
  have hbounds := h.toNat_bounds
  simp only [Text.isBlank]
  grind

/-- The reading of a name goes on behind such a character. -/
theorem inName (h : IsNameChar c) : (isWord c || c == '-') = true := by
  rw [Text.isWord, if_pos h.toNat_bounds.2]
  rcases h with h | h | rfl | rfl
  · have halnum : c.isAlphanum = true := Bool.or_eq_true_iff.2 (.inl (isAlpha_of_isLower h))
    rw [halnum, Bool.true_or, Bool.true_or]
  · have halnum : c.isAlphanum = true := Bool.or_eq_true_iff.2 (.inr h)
    rw [halnum, Bool.true_or, Bool.true_or]
  · rfl
  · rfl

end IsNameChar

/-- A text of such characters is in lower case. -/
theorem lower_eq_self {s : List Char} (h : ∀ c ∈ s, IsNameChar c) : lower s = s := by
  suffices hfrom : ∀ before, lowerFrom before s = s from hfrom []
  induction s with
  | nil => exact fun _ => rfl
  | cons c s ih =>
    obtain ⟨hc, hs⟩ := List.forall_mem_cons.1 h
    have hbounds := hc.toNat_bounds
    intro before
    rw [lowerFrom, if_neg (by omega), if_neg (by omega), hc.lowerChar, ih hs]
    rfl

namespace TagName

/-- All characters of a tag's name may stand in one. -/
theorem isNameChar_chars (name : TagName) : ∀ c ∈ name.chars, IsNameChar c :=
  List.forall_mem_cons.2 ⟨.inl name.isLower, name.isNameChar⟩

/-- The name of a tag is written in small letters. -/
theorem lower_chars (name : TagName) : lower name.chars = name.chars :=
  lower_eq_self name.isNameChar_chars

/-- The name is read up to the first character that cannot belong to it. -/
theorem tagLine?_eq (name : TagName) {behind : List Char}
    (h : ∀ c ∈ behind.head?, (isWord c || c == '-') = false) :
    tagLine? ('@' :: (name.chars ++ behind)) = some (name.chars, trim isBlank behind) := by
  have halpha : name.letter.isAlpha = true := isAlpha_of_isLower name.isLower
  have hrest : ∀ c ∈ name.rest, (isWord c || c == '-') = true := fun c hc =>
    (name.isNameChar c hc).inName
  have htake : behind.takeWhile (fun d => isWord d || d == '-') = [] := by
    cases behind with
    | nil => rfl
    | cons c behind => exact List.takeWhile_cons_of_neg (Bool.eq_false_iff.1 (h c rfl))
  have hdrop : behind.dropWhile (fun d => isWord d || d == '-') = behind := trimStart_eq_self h
  rw [chars, List.cons_append, tagLine?, if_pos halpha]
  simp only [List.takeWhile_append_of_pos hrest, List.dropWhile_append_of_pos hrest, htake, hdrop,
    List.append_nil]

end TagName

/-! ## Lines -/

/-- A text without blanks fills one line. -/
theorem isLine_of_blankless {s : List Char} (h : ∀ c ∈ s, isBlank c = false) : IsLine s where
  unbroken c hc := isLineBreak_eq_false (h c hc)
  trimmed := .of_forall h

/-- Words with a space between them fill a line. -/
theorem isLine_joinWith {words : List (List Char)} (h : ∀ word ∈ words, word ≠ [] ∧ IsLine word) :
    IsLine (joinWith [' '] words) where
  unbroken c hc := by
    rcases mem_joinWith hc with hspace | ⟨word, hword, hc⟩
    · obtain rfl := List.mem_singleton.1 hspace
      rfl
    · exact (h word hword).2.unbroken c hc
  trimmed :=
    isTrimmed_joinWith [' ']
      (fun word hword => (h word (List.mem_of_mem_head? hword)).imp_right IsLine.trimmed)
      (fun word hword => (h word (List.mem_of_mem_getLast? hword)).imp_right IsLine.trimmed)

/-- A star and the blanks around it are stripped from a line. -/
theorem bareLine_starred {line : List Char} (h : IsTrimmed isBlank line) :
    bareLine (" * ".toList ++ line) = line := by
  have hstart : trimStart isBlank (" * ".toList ++ line) = '*' :: ' ' :: line := by rfl
  rw [bareLine, trim, hstart, trimEnd_cons, trimEnd_cons, trimEnd_eq_self h.last]
  cases line with
  | nil => rfl
  | cons c line =>
    rw [if_neg (List.cons_ne_nil _ _), if_neg (List.cons_ne_nil _ _)]
    exact trimEnd_eq_self h.last

/-- A line of text does not start a tag. -/
theorem Line.tagLine?_eq_none (line : Line) : tagLine? line.chars = none := by
  have h := line.untagged
  rw [tagLine?.eq_def]
  split
  · next hline => exact absurd (congrArg List.head? hline) h
  · rfl

/-- Lines that open no tag belong to what stands before the first tag. -/
theorem sections_append (text : List Line) (rest : List (List Char)) :
    sections (text.map Line.chars ++ rest) =
      (text.map Line.chars ++ (sections rest).1, (sections rest).2) := by
  induction text with
  | nil => rfl
  | cons line text ih =>
    rw [List.map_cons, List.cons_append, sections, ih, line.tagLine?_eq_none]
    rfl

/-! ## Tags -/

section

variable {name text : List Char} {more : List (List Char)}

/-- A tag that describes nothing, or says nothing, names no thing. -/
theorem tagOf_of_undescribing
    (h : String.ofList (lower name) ∈ describingTags → text = []) :
    tagOf name text more =
      ⟨String.ofList (lower name), String.ofList (joinLines ((text :: more).filter (!·.isEmpty))),
        none⟩ := by
  have hcond :
      ¬ (describingTags.contains (String.ofList (lower name)) && !text.isEmpty) = true := by
    simpa using h
  rw [tagOf, if_neg hcond]

/-- A tag that describes a thing names it first, and what follows is the text. -/
theorem tagOf_of_describing (h : String.ofList (lower name) ∈ describingTags) (subject : Subject)
    (words : List (List Char)) :
    tagOf name (joinWith [' '] (subject.chars :: words)) more =
      ⟨String.ofList (lower name),
        String.ofList (joinLines
          ((trim isBlank (trimStart (oneOf "- ") (joinWith [' '] words)) :: more).filter
            (!·.isEmpty))),
        some (String.ofList subject.chars)⟩ := by
  have hspace : ' ' ∉ subject.chars := fun hmem => Bool.noConfusion (subject.blankless ' ' hmem)
  have hne := joinWith_ne_nil subject.ne_nil [' '] words
  have hcut : cut ' ' (joinWith [' '] (subject.chars :: words)) =
      (subject.chars, joinWith [' '] words) := by
    cases words with
    | nil => exact cut_of_notMem hspace
    | cons word words =>
      rw [joinWith_cons (List.cons_ne_nil _ _), List.append_assoc]
      exact cut_append_cons hspace _
  have hcond : (describingTags.contains (String.ofList (lower name)) &&
      !(joinWith [' '] (subject.chars :: words)).isEmpty) = true := by
    simp [h, hne]
  rw [tagOf, if_pos hcond, hcut]
  simp only [trim_eq_self subject.unbraced]

end

namespace BlockTag

/-- No line of a tag's text is empty. -/
theorem textLines_ne_nil (t : BlockTag) : ∀ line ∈ t.textLines, line ≠ [] :=
  List.forall_mem_map.2 t.filled

/-- Each line of a tag's text fills one line. -/
theorem isLine_textLines (t : BlockTag) : ∀ line ∈ t.textLines, IsLine line :=
  List.forall_mem_map.2 fun line _ => line.isLine

/-- Each word behind a tag's name is there and fills at most one line. -/
theorem isLine_words (t : BlockTag) : ∀ word ∈ t.words, word ≠ [] ∧ IsLine word := by
  intro word hword
  rcases List.mem_append.1 hword with hsubject | htext
  · obtain ⟨subject, -, rfl⟩ := List.mem_map.1 hsubject
    exact ⟨subject.ne_nil, isLine_of_blankless subject.blankless⟩
  · have hmem := List.mem_of_mem_take htext
    exact ⟨t.textLines_ne_nil word hmem, t.isLine_textLines word hmem⟩

/-- Each line of a written tag fills one line. -/
theorem isLine_lines (t : BlockTag) : ∀ line ∈ t.lines, IsLine line := by
  have hname : ∀ c ∈ '@' :: t.name.chars, isBlank c = false :=
    List.forall_mem_cons.2 ⟨by rfl, fun c hc => (t.name.isNameChar_chars c hc).isBlank⟩
  refine List.forall_mem_cons.2 ⟨isLine_joinWith (List.forall_mem_cons.2 ⟨?_, t.isLine_words⟩), ?_⟩
  · exact ⟨List.cons_ne_nil _ _, isLine_of_blankless hname⟩
  · exact fun line hline => t.isLine_textLines line (List.mem_of_mem_drop hline)

/-- The opening line gives back the name and what stands behind it. -/
theorem tagLine?_opening (t : BlockTag) :
    tagLine? (joinWith [' '] (('@' :: t.name.chars) :: t.words)) =
      some (t.name.chars, joinWith [' '] t.words) := by
  by_cases hwords : t.words = []
  · have hname : tagLine? ('@' :: (t.name.chars ++ [])) = some (t.name.chars, []) :=
      t.name.tagLine?_eq fun c hc => absurd hc (Option.not_mem_none c)
    rw [List.append_nil] at hname
    rw [hwords]
    exact hname
  · have hspace : ∀ c ∈ [' '], isBlank c = true := List.forall_mem_singleton.2 (by rfl)
    have htrim : trim isBlank (' ' :: joinWith [' '] t.words) = joinWith [' '] t.words :=
      (trim_append_left hspace _).trans (trim_eq_self (isLine_joinWith t.isLine_words).trimmed)
    have hends : ∀ c ∈ (' ' :: joinWith [' '] t.words).head?, (isWord c || c == '-') = false := by
      intro c hc
      obtain rfl := Option.some.inj hc
      rfl
    have hname := t.name.tagLine?_eq hends
    rw [htrim] at hname
    rw [joinWith_cons hwords, List.append_assoc]
    exact hname

/-- The text behind the name of the thing described is kept when hyphens before it are dropped. -/
theorem trim_first (t : BlockTag) (h : t.subject.isSome) :
    trim isBlank (trimStart (oneOf "- ") (joinWith [' '] (t.textLines.take 1))) =
      joinWith [' '] (t.textLines.take 1) := by
  have hunhyphened := t.unhyphened h
  rw [textLines]
  cases htext : t.text with
  | nil => rfl
  | cons line text =>
    rw [htext] at hunhyphened
    have hstart : ∀ c ∈ line.chars.head?, oneOf "- " c = false := by
      intro c hc
      have hhyphen : c ≠ '-' := by
        rintro rfl
        exact hunhyphened line rfl hc
      have hspace : c ≠ ' ' := by
        rintro rfl
        exact Bool.noConfusion (line.isLine.trimmed.head ' ' hc)
      simp [oneOf, hhyphen, hspace]
    change trim isBlank (trimStart (oneOf "- ") line.chars) = line.chars
    rw [trimStart_eq_self hstart, trim_eq_self line.isLine.trimmed]

/-- No line of the text is empty, so none is left out of it. -/
theorem filter_textLines (t : BlockTag) :
    (joinWith [' '] (t.textLines.take 1) :: t.textLines.drop 1).filter (!·.isEmpty) =
      t.textLines := by
  have hfilled := t.textLines_ne_nil
  cases htext : t.textLines with
  | nil => rfl
  | cons line lines =>
    rw [htext] at hfilled
    refine List.filter_eq_self.2 fun l hl => ?_
    simpa using hfilled l hl

/-- What stands behind the name is split into the thing described and the text. -/
theorem tagOf_words (t : BlockTag) :
    tagOf t.name.chars (joinWith [' '] t.words) (t.textLines.drop 1) = t.tag := by
  have hlower := congrArg String.ofList t.name.lower_chars
  have hfilter := t.filter_textLines
  have hdescribes := t.describes
  have hdescribed := t.described
  rw [words, tag]
  cases hsubject : t.subject with
  | none =>
    rw [hsubject] at hdescribed
    have hempty : t.name.Describes → joinWith [' '] (t.textLines.take 1) = [] := by
      intro hname
      have htext : t.text = [] := by
        by_contra hne
        exact Bool.noConfusion (hdescribed hname hne)
      rw [textLines, htext]
      rfl
    have hundescribing : String.ofList (lower t.name.chars) ∈ describingTags →
        joinWith [' '] (t.textLines.take 1) = [] := by
      rw [hlower]
      exact hempty
    change tagOf _ (joinWith [' '] (t.textLines.take 1)) _ = _
    rw [tagOf_of_undescribing hundescribing, hlower, hfilter]
    rfl
  | some subject =>
    have hsome : t.subject.isSome := hsubject ▸ rfl
    have hdescribing : String.ofList (lower t.name.chars) ∈ describingTags := by
      rw [hlower]
      exact hdescribes hsome
    change tagOf _ (joinWith [' '] (subject.chars :: t.textLines.take 1)) _ = _
    rw [tagOf_of_describing hdescribing, t.trim_first hsome, hlower, hfilter]
    rfl

/-- A tag is read from its lines, whatever follows them, unless it is a line before the next tag. -/
theorem sections_lines_append (t : BlockTag) {rest : List (List Char)}
    (h : (sections rest).1 = []) :
    sections (t.lines ++ rest) = ([], t.tag :: (sections rest).2) := by
  have hmore : t.textLines.drop 1 = (t.text.drop 1).map Line.chars := List.map_drop.symm
  have hsections : sections (t.textLines.drop 1 ++ rest) =
      (t.textLines.drop 1, (sections rest).2) := by
    rw [hmore, sections_append, h, List.append_nil]
  rw [lines, List.cons_append, sections, hsections, t.tagLine?_opening]
  simp only [t.tagOf_words]

/-- The lines of written tags are read back as these tags, with nothing before them. -/
theorem sections_flatMap_lines (tags : List BlockTag) :
    sections (tags.flatMap lines) = ([], tags.map tag) := by
  induction tags with
  | nil => rfl
  | cons t tags ih =>
    rw [List.flatMap_cons, t.sections_lines_append (by rw [ih]), ih, List.map_cons]

end BlockTag

/-! ## Reading a block -/

namespace Block

/-- Each line of a written block fills one line. -/
theorem isLine_lines (block : Block) : ∀ line ∈ block.lines, IsLine line := by
  intro line hline
  rcases List.mem_append.1 hline with hsummary | htags
  · obtain ⟨line, -, rfl⟩ := List.mem_map.1 hsummary
    exact line.isLine
  · obtain ⟨t, -, hline⟩ := List.mem_flatMap.1 htags
    exact t.isLine_lines line hline

/-- Behind the opening marker stand an empty line, the lines of the block and the blank before the
closing marker. -/
theorem toList_write (block : Block) :
    block.write.toList =
      "/**".toList ++ (joinLines ([] :: (block.starred ++ [[' ']])) ++ ['*', '/']) := by
  have hclosing : joinWith ['\n'] (block.starred ++ [" */".toList]) =
      joinWith ['\n'] (block.starred ++ [[' ']]) ++ ['*', '/'] :=
    joinWith_append_last ['\n'] [' '] ['*', '/'] block.starred
  have hne (last : List Char) : block.starred ++ [last] ≠ [] :=
    List.append_ne_nil_of_right_ne_nil _ (List.cons_ne_nil last [])
  rw [write, String.toList_ofList, joinLines, joinLines, joinWith_cons (hne _),
    joinWith_cons (hne _), hclosing]
  simp only [List.append_assoc, List.nil_append]

/-- Stripping gives back the lines of the block between two empty ones. -/
theorem bareLine_openLines (block : Block) :
    (openLines (joinLines ([] :: (block.starred ++ [[' ']])))).map bareLine =
      [] :: (block.lines ++ [[]]) := by
  have hstar : ∀ c ∈ " * ".toList, isLineBreak c = false := forall_eq_false (by rfl)
  have hstarred : ∀ line ∈ block.starred, ∀ c ∈ line, isLineBreak c = false :=
    List.forall_mem_map.2 fun line hline =>
      List.forall_mem_append.2 ⟨hstar, (block.isLine_lines line hline).unbroken⟩
  have hspace : ∀ line ∈ [[' ']], ∀ c ∈ line, isLineBreak c = false :=
    List.forall_mem_singleton.2 (forall_eq_false (by rfl))
  have hunbroken : ∀ line ∈ [] :: (block.starred ++ [[' ']]), ∀ c ∈ line, isLineBreak c = false :=
    List.forall_mem_cons.2 ⟨List.forall_mem_nil _, List.forall_mem_append.2 ⟨hstarred, hspace⟩⟩
  have hbare : block.starred.map bareLine = block.lines := by
    rw [starred, List.map_map]
    refine (List.map_congr_left fun line hline => ?_).trans (List.map_id _)
    exact bareLine_starred (block.isLine_lines line hline).trimmed
  rw [joinLines, openLines_joinWith (List.cons_ne_nil _ _) hunbroken, List.map_cons,
    List.map_append, hbare]
  rfl

/-- The summary has nothing to trim and no references to take out of it. -/
theorem assemble_summary (block : Block) (tags : List Tag) :
    assemble (trim isBlank (joinLines (block.summary.map Line.chars))) tags =
      if block.summary.isEmpty && tags.isEmpty then none
      else some ⟨String.ofList (joinLines (block.summary.map Line.chars)), tags⟩ := by
  have htrimmed : IsTrimmed isBlank (joinLines (block.summary.map Line.chars)) := by
    refine isTrimmed_joinWith ['\n'] ?_ ?_
    · rw [List.head?_map]
      rintro piece hpiece
      obtain ⟨line, hline, rfl⟩ := Option.map_eq_some_iff.1 hpiece
      exact ⟨block.firstFilled line hline, line.isLine.trimmed⟩
    · rw [List.getLast?_map]
      rintro piece hpiece
      obtain ⟨line, hline, rfl⟩ := Option.map_eq_some_iff.1 hpiece
      exact ⟨block.lastFilled line hline, line.isLine.trimmed⟩
  have hempty : (String.ofList (joinLines (block.summary.map Line.chars))).isEmpty =
      block.summary.isEmpty := by
    have hfirst := block.firstFilled
    cases hsummary : block.summary with
    | nil => rfl
    | cons line lines =>
      rw [hsummary] at hfirst
      rw [List.isEmpty_cons, ← Bool.not_eq_true, String.isEmpty_iff, ← String.toList_inj,
        String.toList_ofList]
      exact joinWith_ne_nil (hfirst line rfl) ['\n'] (lines.map Line.chars)
  rw [trim_eq_self htrimmed, assemble, takeInline_of_plain block.plain]
  simp only [Comment.isEmpty, hempty]

/-- A block is read back as the comment that it holds, and one that says nothing as none. -/
theorem parse_write (block : Block) :
    parse? block.write =
      if block.summary.isEmpty && block.tags.isEmpty then none else some block.comment := by
  have hstart : trimStart isBlank block.write.toList = block.write.toList := by
    rw [block.toList_write]
    exact trimStart_eq_self fun c hc => Option.some.inj hc ▸ rfl
  have hend : trimEnd isBlank (joinLines ([] :: (block.starred ++ [[' ']])) ++ ['*', '/']) =
      joinLines ([] :: (block.starred ++ [[' ']])) ++ ['*', '/'] := by
    rw [trimEnd_append]
    rfl
  have hsections : sections block.lines =
      (block.summary.map Line.chars, block.tags.map BlockTag.tag) := by
    rw [lines, sections_append, BlockTag.sections_flatMap_lines, List.append_nil]
  rw [parse?_eq (hstart.trans block.toList_write), hend, unclosed_append, block.bareLine_openLines,
    commentOf_cons_nil, commentOf_concat_nil, commentOf, hsections, block.assemble_summary,
    List.isEmpty_map]
  rfl

/-- A block with one tag, which describes a thing in two lines: the second one starts with a star of
its own, which is kept. -/
theorem described_parameter_parse_write :
    ∃ block : Block,
      block.write = "/**\n * Reads a file.\n * @param path the file,\n * * or /dev/null\n */" ∧
        block.comment =
          ⟨"Reads a file.", [⟨"param", "the file,\n* or /dev/null", some "path"⟩]⟩ ∧
        parse? block.write = some block.comment := by
  let param : TagName := ⟨'p', "aram".toList, by decide, by simp [IsNameChar]⟩
  let path : Subject := ⟨"path".toList, by decide, forall_eq_false (by rfl), by decide⟩
  let tag : BlockTag :=
    { name := param
      subject := some path
      text :=
        [⟨"the file,".toList, by decide, by decide⟩,
          ⟨"* or /dev/null".toList, by decide, by decide⟩]
      filled := by decide
      describes := fun _ => by decide
      described := fun _ _ => rfl
      unhyphened := fun _ => by decide }
  let block : Block :=
    { summary := [⟨"Reads a file.".toList, by decide, by decide⟩]
      tags := [tag]
      firstFilled := by decide
      lastFilled := by decide
      plain := isPlain_of_notMem (by decide) }
  exact ⟨block, by decide +kernel, by decide +kernel, parse_write block⟩

end Block

end ApiAtlas.Comment
