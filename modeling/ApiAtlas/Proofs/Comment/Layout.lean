import ApiAtlas.Proofs.Comment.Sections

/-!
# The layout of a comment

A doc comment says the same however its lines end and however far they are indented
(`Layout.parse_apply`). A text and the one that a layout makes of it are `Relaid`: they differ only
in the gaps between two lines, each a line feed, perhaps behind a carriage return, and the
indentation behind it. Every step of reading keeps that relation, since gaps are blank and markers
are not, until the lines are stripped one by one and the gaps are gone (`Relaid.openLines`).
-/

set_option autoImplicit false

namespace ApiAtlas.Comment

open Text

variable {c : Char} {s t gap marker indent : List Char}

/-- Spaces and tabs. -/
def IsIndent (s : List Char) : Prop :=
  ∀ c ∈ s, c = ' ' ∨ c = '\t'

/-- How the lines of a text are laid out: whether a carriage return stands before each line feed,
and what is put in front of each line. -/
structure Layout where
  returns : Bool
  indent : Nat → List Char
  isIndent : ∀ n, IsIndent (indent n)

namespace Layout

/-- What stands between two lines before the indentation of the second. -/
def lineEnd (layout : Layout) : List Char :=
  if layout.returns then ['\r', '\n'] else ['\n']

/-- The text with its lines laid out. -/
def apply (layout : Layout) (raw : String) : String :=
  String.ofList (joinWith layout.lineEnd
    ((splitOn '\n' raw.toList).mapIdx fun n line => layout.indent n ++ line))

end Layout

/-- What a layout puts between two lines. -/
inductive IsGap : List Char → Prop
  | lineFeed {indent : List Char} (h : IsIndent indent) : IsGap ('\n' :: indent)
  | carriageReturn {indent : List Char} (h : IsIndent indent) : IsGap ('\r' :: '\n' :: indent)

/-- The second text is the first with gaps for its line feeds. -/
inductive Relaid : List Char → List Char → Prop
  | nil : Relaid [] []
  | char {c : Char} {s t : List Char} (hfeed : c ≠ '\n') (hreturn : c ≠ '\r') (h : Relaid s t) :
    Relaid (c :: s) (c :: t)
  | gap {gap s t : List Char} (hgap : IsGap gap) (h : Relaid s t) : Relaid ('\n' :: s) (gap ++ t)

/-! ## Gaps -/

/-- An indentation consists of blanks. -/
theorem IsIndent.isBlank (h : IsIndent indent) : ∀ c ∈ indent, isBlank c = true := by
  intro c hc
  rcases h c hc with rfl | rfl <;> rfl

/-- An indentation breaks no line. -/
theorem IsIndent.isLineBreak (h : IsIndent indent) : ∀ c ∈ indent, isLineBreak c = false := by
  intro c hc
  rcases h c hc with rfl | rfl <;> rfl

/-- A gap consists of blanks. -/
theorem IsGap.isBlank (h : IsGap gap) : ∀ c ∈ gap, isBlank c = true := by
  cases h with
  | lineFeed h => exact List.forall_mem_cons.2 ⟨by rfl, h.isBlank⟩
  | carriageReturn h =>
    exact List.forall_mem_cons.2 ⟨by rfl, List.forall_mem_cons.2 ⟨by rfl, h.isBlank⟩⟩

/-- A gap is not empty. -/
theorem IsGap.ne_nil (h : IsGap gap) : gap ≠ [] := by
  cases h <;> exact List.cons_ne_nil _ _

/-- A gap ends the line before it and indents the line behind it. -/
theorem IsGap.openLines_append (h : IsGap gap) {first : List Char} {rest : List (List Char)}
    (hlines : openLines s = first :: rest) :
    ∃ indent, IsIndent indent ∧ openLines (gap ++ s) = [] :: (indent ++ first) :: rest := by
  cases h with
  | lineFeed h =>
    have hindented := Text.openLines_append h.isLineBreak hlines
    exact ⟨_, h, (openLines_lineFeed _).trans (congrArg _ hindented)⟩
  | carriageReturn h =>
    have hindented := Text.openLines_append h.isLineBreak hlines
    exact ⟨_, h, (openLines_carriageReturn _).trans (congrArg _ hindented)⟩

/-! ## The steps of reading -/

/-- A line feed is a blank. -/
theorem blank_lineFeed : ∀ c ∈ ['\n'], isBlank c = true :=
  List.forall_mem_singleton.2 (by rfl)

namespace Relaid

/-- A text that is laid out anew is empty just when the text was. -/
theorem eq_nil_iff (h : Relaid s t) : s = [] ↔ t = [] := by
  cases h with
  | nil => exact Iff.rfl
  | char => exact iff_of_false (List.cons_ne_nil _ _) (List.cons_ne_nil _ _)
  | gap hgap =>
    exact iff_of_false (List.cons_ne_nil _ _) (List.append_ne_nil_of_left_ne_nil hgap.ne_nil _)

/-- A text without blanks has no gaps. -/
theorem eq_of_blankless (h : Relaid s t)
    (hno : (∀ c ∈ s, isBlank c = false) ∨ ∀ c ∈ t, isBlank c = false) : s = t := by
  induction h with
  | nil => rfl
  | char _ _ _ ih =>
    exact congrArg _ (ih (hno.imp (List.forall_mem_cons.1 · |>.2) (List.forall_mem_cons.1 · |>.2)))
  | @gap gap s t hgap _ _ =>
    exfalso
    rcases hno with hno | hno
    · exact Bool.noConfusion (hno '\n' List.mem_cons_self)
    · obtain ⟨c, hc⟩ := List.exists_mem_of_ne_nil gap hgap.ne_nil
      exact Bool.noConfusion
        ((hgap.isBlank c hc).symm.trans (hno c (List.mem_append_left t hc)))

/-- Blanks that are stripped from the start leave texts that are the same but for their layout. -/
theorem trimStart (h : Relaid s t) : Relaid (trimStart isBlank s) (trimStart isBlank t) := by
  induction h with
  | nil => exact nil
  | @char c s t hfeed hreturn h ih =>
    by_cases hc : isBlank c = true
    · rwa [Text.trimStart, List.dropWhile_cons_of_pos hc, Text.trimStart,
        List.dropWhile_cons_of_pos hc]
    · rw [Text.trimStart, List.dropWhile_cons_of_neg hc, Text.trimStart,
        List.dropWhile_cons_of_neg hc]
      exact char hfeed hreturn h
  | @gap gap s t hgap _ ih =>
    rw [trimStart_append, if_pos (trimStart_eq_nil_iff.2 hgap.isBlank)]
    exact ih

/-- Blanks that are stripped from the end leave texts that are the same but for their layout. -/
theorem trimEnd (h : Relaid s t) : Relaid (trimEnd isBlank s) (trimEnd isBlank t) := by
  induction h with
  | nil => exact nil
  | @char c s t hfeed hreturn _ ih =>
    rw [trimEnd_cons, trimEnd_cons]
    by_cases hs : Text.trimEnd isBlank s = []
    · rw [if_pos hs, if_pos (ih.eq_nil_iff.1 hs)]
      split
      · exact nil
      · exact char hfeed hreturn nil
    · rw [if_neg hs, if_neg (mt ih.eq_nil_iff.2 hs)]
      exact char hfeed hreturn ih
  | @gap gap s t hgap _ ih =>
    rw [trimEnd_cons, if_pos (by rfl : isBlank '\n' = true), trimEnd_append,
      trimEnd_eq_nil_iff.2 hgap.isBlank]
    by_cases hs : Text.trimEnd isBlank s = []
    · rw [if_pos hs, if_pos (ih.eq_nil_iff.1 hs)]
      exact nil
    · rw [if_neg hs, if_neg (mt ih.eq_nil_iff.2 hs)]
      exact .gap hgap ih

/-- Where the one text is cut, the other can be cut. -/
theorem of_append {front : List Char} (h : Relaid (front ++ s) t) :
    ∃ front' s', t = front' ++ s' ∧ Relaid front front' ∧ Relaid s s' := by
  induction front generalizing t with
  | nil => exact ⟨[], t, rfl, nil, h⟩
  | cons c front ih =>
    cases h with
    | char hfeed hreturn h =>
      obtain ⟨front', s', rfl, hfront, hs⟩ := ih h
      exact ⟨c :: front', s', rfl, char hfeed hreturn hfront, hs⟩
    | gap hgap h =>
      obtain ⟨front', s', rfl, hfront, hs⟩ := ih h
      exact ⟨_, s', (List.append_assoc ..).symm, gap hgap hfront, hs⟩

/-- A marker at the start of the one text is at the start of the other. -/
theorem prefix_iff (h : Relaid s t) (hmarker : ∀ c ∈ marker, isBlank c = false) :
    marker <+: s ↔ marker <+: t := by
  induction h generalizing marker with
  | nil => exact Iff.rfl
  | char _ _ _ ih =>
    cases marker with
    | nil => exact iff_of_true List.nil_prefix List.nil_prefix
    | cons m marker =>
      rw [List.cons_prefix_cons, List.cons_prefix_cons, ih (List.forall_mem_cons.1 hmarker).2]
  | gap hgap _ _ =>
    cases marker with
    | nil => exact iff_of_true List.nil_prefix List.nil_prefix
    | cons m marker =>
      have hm : isBlank m = false := (List.forall_mem_cons.1 hmarker).1
      refine iff_of_false ?_ ?_
      · rw [List.cons_prefix_cons]
        rintro ⟨rfl, -⟩
        exact Bool.noConfusion hm
      · obtain ⟨g, rest, rfl⟩ := List.exists_cons_of_ne_nil hgap.ne_nil
        rw [List.cons_append, List.cons_prefix_cons]
        rintro ⟨rfl, -⟩
        exact Bool.noConfusion ((hgap.isBlank m List.mem_cons_self).symm.trans hm)

/-- A marker at the end of the one text is at the end of the other. -/
theorem suffix_iff (h : Relaid s t) (hmarker : ∀ c ∈ marker, isBlank c = false) :
    marker <:+ s ↔ marker <:+ t := by
  have hblank {blanks : List Char} (hblanks : ∀ c ∈ blanks, isBlank c = true) :
      ∀ c ∈ marker, c ∉ blanks := fun c hc hmem =>
    Bool.noConfusion ((hblanks c hmem).symm.trans (hmarker c hc))
  induction h with
  | nil => exact Iff.rfl
  | @char c s t hfeed hreturn h ih =>
    -- The marker may be all that there is, and then neither text has a gap.
    have hwhole : marker = c :: s ↔ marker = c :: t := by
      constructor
      · rintro rfl
        exact (char hfeed hreturn h).eq_of_blankless (.inl hmarker)
      · rintro rfl
        exact ((char hfeed hreturn h).eq_of_blankless (.inr hmarker)).symm
    rw [List.suffix_cons_iff, List.suffix_cons_iff]
    exact or_congr hwhole ih
  | gap hgap _ ih =>
    rw [← List.singleton_append, suffix_append_iff (hblank blank_lineFeed),
      suffix_append_iff (hblank hgap.isBlank)]
    exact ih

/-- The closing marker is taken from both texts or from neither. -/
theorem unclosed (h : Relaid s t) : Relaid (unclosed s) (unclosed t) := by
  have hmarker : ∀ c ∈ ['*', '/'], isBlank c = false := forall_eq_false (by rfl)
  have hends : endsWith ['*', '/'] s = true ↔ endsWith ['*', '/'] t = true := by
    rw [endsWith_iff, endsWith_iff, h.suffix_iff hmarker]
  rw [Comment.unclosed, Comment.unclosed]
  by_cases hs : endsWith ['*', '/'] s = true
  · rw [if_pos hs, if_pos (hends.1 hs)]
    obtain ⟨front, rfl⟩ := endsWith_iff.1 hs
    obtain ⟨front', marker', rfl, hfront, hrest⟩ := h.of_append
    rw [← hrest.eq_of_blankless (.inl hmarker), dropEnding_append, dropEnding_append]
    exact hfront
  · rw [if_neg hs, if_neg (mt hends.2 hs)]
    exact h

/-- The first lines are the same, and the others are once they are stripped. -/
theorem openLines (h : Relaid s t) :
    ∃ first rest rest', openLines s = first :: rest ∧ openLines t = first :: rest' ∧
      rest.map bareLine = rest'.map bareLine := by
  induction h with
  | nil => exact ⟨[], [], [], rfl, rfl, rfl⟩
  | @char c s t hfeed hreturn _ ih =>
    obtain ⟨first, rest, rest', hs, ht, hrest⟩ := ih
    by_cases hc : isLineBreak c = true
    · refine ⟨[], _, _, openLines_break hreturn hc s, openLines_break hreturn hc t, ?_⟩
      rw [hs, ht, List.map_cons, List.map_cons, hrest]
    · have hline : ∀ d ∈ [c], isLineBreak d = false := by simpa using hc
      exact ⟨_, rest, rest', openLines_append hline hs, openLines_append hline ht, hrest⟩
  | gap hgap _ ih =>
    obtain ⟨first, rest, rest', hs, ht, hrest⟩ := ih
    obtain ⟨indent, hindent, hgap⟩ := hgap.openLines_append ht
    refine ⟨[], _, _, openLines_lineFeed _, hgap, ?_⟩
    -- The indentation is blank, so the line behind it is stripped to the same.
    rw [hs, List.map_cons, List.map_cons, hrest, bareLine, bareLine,
      trim_append_left hindent.isBlank]

/-- Reading is the same for a text that is laid out and indented. -/
theorem parse_eq {raw relaid : String} (h : Relaid raw.toList t) (hindent : IsIndent indent)
    (hrelaid : relaid.toList = indent ++ t) : parse? relaid = parse? raw := by
  have hmarker : ∀ c ∈ "/**".toList, isBlank c = false := forall_eq_false (by rfl)
  have hstart : Text.trimStart isBlank relaid.toList = Text.trimStart isBlank t := by
    rw [hrelaid, trimStart_append, if_pos (trimStart_eq_nil_iff.2 hindent.isBlank)]
  by_cases hopens : "/**".toList <+: Text.trimStart isBlank raw.toList
  · obtain ⟨body, hbody⟩ := hopens
    obtain ⟨marker', body', hbody', hopening, hrest⟩ := (hbody ▸ h.trimStart).of_append
    rw [← hopening.eq_of_blankless (.inl hmarker)] at hbody'
    obtain ⟨first, rest, rest', hlines, hlines', hbare⟩ := hrest.trimEnd.unclosed.openLines
    rw [parse?_eq (hstart.trans hbody'), parse?_eq hbody.symm, hlines, hlines', List.map_cons,
      List.map_cons, hbare]
  · have hrelaid : ¬ "/**".toList <+: Text.trimStart isBlank relaid.toList :=
      hstart ▸ mt (h.trimStart.prefix_iff hmarker).2 hopens
    rw [parse?_eq_none hopens, parse?_eq_none hrelaid]

end Relaid

/-! ## Laying out -/

namespace Layout

/-- The end of a line and the indentation of the next one are a gap. -/
theorem isGap (layout : Layout) (n : Nat) : IsGap (layout.lineEnd ++ layout.indent n) := by
  rw [lineEnd]
  split
  · exact .carriageReturn (layout.isIndent n)
  · exact .lineFeed (layout.isIndent n)

/-- Pieces that are joined by gaps are the text laid out, but for the indentation of the first. -/
theorem relaid_joinWith (layout : Layout) {s first : List Char} {rest : List (List Char)}
    (hreturn : '\r' ∉ s) (hsplit : splitOn '\n' s = first :: rest) (n : Nat) :
    Relaid s (joinWith layout.lineEnd
      (first :: rest.mapIdx fun k line => layout.indent (n + k) ++ line)) := by
  induction s generalizing first rest n with
  | nil =>
    obtain ⟨rfl, rfl⟩ := List.cons.inj hsplit
    exact .nil
  | cons c s ih =>
    have hc : c ≠ '\r' := fun h => hreturn (h ▸ List.mem_cons_self)
    obtain ⟨next, lines, hs⟩ := List.exists_cons_of_ne_nil (splitOn_ne_nil '\n' s)
    have ih := fun n => ih (fun h => hreturn (List.mem_cons_of_mem c h)) hs n
    rw [splitOn, hs] at hsplit
    split at hsplit
    · next hfeed =>
      obtain ⟨rfl, rfl⟩ := List.cons.inj hsplit
      have hjoin (lines : List (List Char)) :
          joinWith layout.lineEnd ([] :: (layout.indent n ++ next) :: lines) =
            layout.lineEnd ++ layout.indent n ++ joinWith layout.lineEnd (next :: lines) := by
        rw [List.append_assoc, ← joinWith_append_head]
        rfl
      rw [List.mapIdx_cons, Nat.add_zero, hjoin, hfeed]
      simpa only [Nat.add_assoc, Nat.add_comm 1] using Relaid.gap (layout.isGap n) (ih (n + 1))
    · next hfeed =>
      obtain ⟨rfl, rfl⟩ := List.cons.inj hsplit
      have hjoin (lines : List (List Char)) :
          joinWith layout.lineEnd ((c :: next) :: lines) =
            c :: joinWith layout.lineEnd (next :: lines) :=
        joinWith_append_head layout.lineEnd [c] next lines
      rw [hjoin]
      exact .char hfeed hc (ih n)

/-- How a comment is laid out does not change what is read from it: carriage returns before the
line feeds, and spaces and tabs in front of any of the lines. -/
theorem parse_apply (layout : Layout) {raw : String} (hreturn : '\r' ∉ raw.toList) :
    parse? (layout.apply raw) = parse? raw := by
  obtain ⟨first, rest, hsplit⟩ := List.exists_cons_of_ne_nil (splitOn_ne_nil '\n' raw.toList)
  refine (layout.relaid_joinWith hreturn hsplit 1).parse_eq (layout.isIndent 0) ?_
  rw [apply, String.toList_ofList, hsplit, List.mapIdx_cons, joinWith_append_head]
  simp only [Nat.add_comm 1]

/-- A layout with carriage returns that indents every line with a tab. -/
def tabbed : Layout where
  returns := true
  indent _ := ['\t']
  isIndent _ := List.forall_mem_singleton.2 (.inr rfl)

/-- A block with a tag is read alike when its lines end with carriage returns and are indented. -/
theorem parse_apply_tabbed :
    '\r' ∉ "/** Reads.\n@param path the file\n*/".toList ∧
      tabbed.apply "/** Reads.\n@param path the file\n*/" =
        "\t/** Reads.\r\n\t@param path the file\r\n\t*/" ∧
      parse? (tabbed.apply "/** Reads.\n@param path the file\n*/") =
        some ⟨"Reads.", [⟨"param", "the file", some "path"⟩]⟩ :=
  ⟨by decide, by decide +kernel,
    (parse_apply tabbed (by decide)).trans (by decide +kernel)⟩

end Layout

end ApiAtlas.Comment
