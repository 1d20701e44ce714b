import ApiAtlas.Proofs.Text.Pieces
import ApiAtlas.Text.Blank
import ApiAtlas.Text.Lines
import ApiAtlas.Text.Pieces
import Mathlib.Data.List.DropRight

/-!
# Trimmed texts and lines

Trimming takes away what is put around a text (`trim_append_left`, `trim_append_right`) and leaves
alone a text that neither starts nor ends with a character of the class (`trim_eq_self`). At the end
it is the library's `rdropWhile`; a text behind which nothing is left is the only one that lets the
trimming reach further (`trimEnd_append`).

`openLines` keeps the empty line behind a break at the very end, which `splitLines` leaves out
(`openLines_eq`). It always has a line to which characters in front of the text can be added, and it
reads back the lines that a text was joined from (`openLines_joinWith`).
-/

set_option autoImplicit false

/-! ## Trimmed texts -/

namespace ApiAtlas.Text

variable {p : Char → Bool} {s t blanks : List Char}

/-- No character at either end of the text is of the class. -/
structure IsTrimmed (p : Char → Bool) (s : List Char) : Prop where
  head : ∀ c ∈ s.head?, p c = false
  last : ∀ c ∈ s.getLast?, p c = false

instance (p : Char → Bool) (s : List Char) : Decidable (IsTrimmed p s) :=
  decidable_of_iff (s.head?.all (!p ·) = true ∧ s.getLast?.all (!p ·) = true) <| by
    simp only [Option.all_eq_true, Bool.not_eq_true', ← Option.mem_def]
    exact ⟨fun h => ⟨h.1, h.2⟩, fun h => ⟨h.head, h.last⟩⟩

/-- What holds of no character of a text is checked one by one. -/
theorem forall_eq_false (h : s.any p = false) : ∀ c ∈ s, p c = false :=
  fun c hc => Bool.eq_false_iff.2 (List.any_eq_false.1 h c hc)

/-- A text without characters of the class is trimmed. -/
theorem IsTrimmed.of_forall (h : ∀ c ∈ s, p c = false) : IsTrimmed p s where
  head c hc := h c (List.mem_of_mem_head? hc)
  last c hc := h c (List.mem_of_mem_getLast? hc)

/-- Nothing is stripped from the start of a text that does not start with a character of the class.
-/
theorem trimStart_eq_self (h : ∀ c ∈ s.head?, p c = false) : trimStart p s = s := by
  cases s with
  | nil => rfl
  | cons c rest =>
    exact List.dropWhile_cons_of_neg (Bool.eq_false_iff.1 (h c (by rfl)))

/-- Nothing is stripped from the end of a text that does not end with a character of the class. -/
theorem trimEnd_eq_self (h : ∀ c ∈ s.getLast?, p c = false) : trimEnd p s = s :=
  List.rdropWhile_eq_self_iff.2 fun hs =>
    Bool.eq_false_iff.1 (h _ (List.getLast?_eq_getLast_of_ne_nil hs))

/-- A text with nothing to trim at either end stays as it is. -/
theorem trim_eq_self (h : IsTrimmed p s) : trim p s = s := by
  rw [trim, trimStart_eq_self h.head, trimEnd_eq_self h.last]

/-- Nothing is left when the start is stripped just if all characters are of the class. -/
theorem trimStart_eq_nil_iff : trimStart p s = [] ↔ ∀ c ∈ s, p c = true :=
  List.dropWhile_eq_nil_iff

/-- Nothing is left when the end is stripped just if all characters are of the class. -/
theorem trimEnd_eq_nil_iff : trimEnd p s = [] ↔ ∀ c ∈ s, p c = true :=
  List.rdropWhile_eq_nil_iff

/-- Stripping the start of two texts reaches the second one only if the first one is used up. -/
theorem trimStart_append (p : Char → Bool) (s t : List Char) :
    trimStart p (s ++ t) = if trimStart p s = [] then trimStart p t else trimStart p s ++ t :=
  List.dropWhile_append.trans (if_congr List.isEmpty_iff rfl rfl)

/-- Stripping the end of two texts reaches the first one only if the second one is used up. -/
theorem trimEnd_append (p : Char → Bool) (s t : List Char) :
    trimEnd p (s ++ t) = if trimEnd p t = [] then trimEnd p s else s ++ trimEnd p t := by
  simp only [trimEnd, List.reverse_append, List.dropWhile_append, List.isEmpty_iff,
    List.reverse_eq_nil_iff]
  split
  · rfl
  · rw [List.reverse_append, List.reverse_reverse]

/-- Stripping the end of a text reaches its first character only if the rest is used up. -/
theorem trimEnd_cons (p : Char → Bool) (c : Char) (s : List Char) :
    trimEnd p (c :: s) =
      if trimEnd p s = [] then if p c then [] else [c] else c :: trimEnd p s := by
  have hsingle : trimEnd p [c] = if p c then [] else [c] := by
    by_cases hc : p c = true
    · rw [if_pos hc, trimEnd_eq_nil_iff.2 (List.forall_mem_singleton.2 hc)]
    · rw [if_neg hc, trimEnd_eq_self (by simpa using hc)]
  rw [← List.singleton_append, trimEnd_append, hsingle]
  rfl

/-- Characters of the class before a text are trimmed away. -/
theorem trim_append_left (h : ∀ c ∈ blanks, p c = true) (s : List Char) :
    trim p (blanks ++ s) = trim p s := by
  rw [trim, trimStart_append, if_pos (trimStart_eq_nil_iff.2 h), trim]

/-- Characters of the class at the end are stripped. -/
theorem trimEnd_append_right (h : ∀ c ∈ blanks, p c = true) (s : List Char) :
    trimEnd p (s ++ blanks) = trimEnd p s := by
  rw [trimEnd_append, if_pos (trimEnd_eq_nil_iff.2 h)]

/-- Characters of the class after a text are trimmed away. -/
theorem trim_append_right (h : ∀ c ∈ blanks, p c = true) (s : List Char) :
    trim p (s ++ blanks) = trim p s := by
  rw [trim, trim, trimStart_append]
  split
  · next hs => rw [hs, trimStart_eq_nil_iff.2 h]
  · exact trimEnd_append_right h _

/-- Joined pieces are trimmed when the first and the last of them are, and neither is empty. -/
theorem isTrimmed_joinWith (sep : List Char) {pieces : List (List Char)}
    (hfirst : ∀ piece ∈ pieces.head?, piece ≠ [] ∧ IsTrimmed p piece)
    (hlast : ∀ piece ∈ pieces.getLast?, piece ≠ [] ∧ IsTrimmed p piece) :
    IsTrimmed p (joinWith sep pieces) where
  head := by
    cases pieces with
    | nil => exact fun c hc => absurd hc (Option.not_mem_none c)
    | cons first rest =>
      obtain ⟨hne, htrimmed⟩ := hfirst first (by rfl)
      obtain ⟨c, first, rfl⟩ := List.exists_cons_of_ne_nil hne
      have hjoin : joinWith sep ((c :: first) :: rest) = c :: joinWith sep (first :: rest) :=
        joinWith_append_head sep [c] first rest
      rw [hjoin]
      exact htrimmed.head
  last := by
    rcases List.eq_nil_or_concat pieces with rfl | ⟨front, last, rfl⟩
    · exact fun c hc => absurd hc (Option.not_mem_none c)
    · rw [List.concat_eq_append] at hlast ⊢
      obtain ⟨hne, htrimmed⟩ := hlast last (by rw [List.getLast?_concat]; rfl)
      obtain ⟨last, c, rfl⟩ := (List.eq_nil_or_concat last).resolve_left hne
      rw [List.concat_eq_append] at htrimmed ⊢
      simpa only [joinWith_append_last, List.getLast?_concat] using htrimmed.last

end ApiAtlas.Text

/-! ## Lines -/

namespace ApiAtlas.Text

variable {c : Char} {line : List Char}

/-- Every break is blank. -/
theorem isLineBreak_eq_false (h : isBlank c = false) : isLineBreak c = false := by
  simp only [isBlank, isLineBreak] at h ⊢
  grind

/-- The lines of a text without their breaks, the last of them empty if the text ends with a
break. -/
def openLines : List Char → List (List Char)
  | [] => [[]]
  | '\r' :: '\n' :: r => [] :: openLines r
  | c :: r =>
    if isLineBreak c then [] :: openLines r
    else match openLines r with
      | [] => [[c]]
      | line :: lines => (c :: line) :: lines

/-- A text has at least one open line. -/
theorem openLines_ne_nil (s : List Char) : openLines s ≠ [] := by
  fun_cases openLines s <;> exact List.cons_ne_nil _ _

/-- The two ways to count lines differ by an empty line at the end. -/
theorem openLines_eq (s : List Char) :
    openLines s = splitLines s ∨ openLines s = splitLines s ++ [[]] := by
  fun_induction splitLines s with
  | case1 => exact .inr (by rfl)
  | case2 r ih => exact ih.imp (congrArg ([] :: ·)) (congrArg ([] :: ·))
  | case3 c r hcr hbreak ih =>
    rw [openLines.eq_3 c r hcr, if_pos hbreak]
    exact ih.imp (congrArg ([] :: ·)) (congrArg ([] :: ·))
  | case4 c r hcr hbreak hnil ih =>
    rw [openLines.eq_3 c r hcr, if_neg hbreak]
    rw [hnil] at ih
    have hopen : openLines r = [[]] := ih.resolve_left (openLines_ne_nil r)
    rw [hopen]
    exact .inl (by rfl)
  | case5 c r hcr hbreak line lines hcons ih =>
    rw [openLines.eq_3 c r hcr, if_neg hbreak]
    rw [hcons] at ih
    rcases ih with hopen | hopen
    · rw [hopen]
      exact .inl (by rfl)
    · rw [hopen]
      exact .inr (by rfl)

/-- A line feed ends a line, also behind a carriage return. -/
theorem openLines_lineFeed (s : List Char) : openLines ('\n' :: s) = [] :: openLines s :=
  rfl

/-- A carriage return and a line feed are one break. -/
theorem openLines_carriageReturn (s : List Char) :
    openLines ('\r' :: '\n' :: s) = [] :: openLines s :=
  rfl

/-- Any break but a carriage return ends a line. -/
theorem openLines_break (hc : c ≠ '\r') (hbreak : isLineBreak c = true) (s : List Char) :
    openLines (c :: s) = [] :: openLines s := by
  rw [openLines.eq_3 c s fun _ h _ => hc h, if_pos hbreak]

/-- Characters other than breaks in front of a text belong to its first line. -/
theorem openLines_append (hline : ∀ c ∈ line, isLineBreak c = false) {s first : List Char}
    {rest : List (List Char)} (hs : openLines s = first :: rest) :
    openLines (line ++ s) = (line ++ first) :: rest := by
  induction line with
  | nil => exact hs
  | cons c line ih =>
    obtain ⟨hc, hline⟩ := List.forall_mem_cons.1 hline
    have hcr : c ≠ '\r' := by
      rintro rfl
      exact Bool.noConfusion hc
    rw [List.cons_append, openLines.eq_3 c _ fun _ h _ => hcr h, if_neg (Bool.eq_false_iff.1 hc),
      ih hline]
    rfl

/-- Lines that are joined by line feeds are read back. -/
theorem openLines_joinWith {lines : List (List Char)} (hne : lines ≠ [])
    (hlines : ∀ line ∈ lines, ∀ c ∈ line, isLineBreak c = false) :
    openLines (joinWith ['\n'] lines) = lines := by
  induction lines with
  | nil => exact absurd rfl hne
  | cons line lines ih =>
    obtain ⟨hline, hlines⟩ := List.forall_mem_cons.1 hlines
    cases lines with
    | nil =>
      have hjoin : joinWith ['\n'] [line] = line ++ [] := (List.append_nil line).symm
      rw [hjoin, openLines_append hline (by rfl : openLines [] = [[]]), List.append_nil]
    | cons next lines =>
      rw [joinWith, List.append_assoc]
      have hrest := openLines_lineFeed (joinWith ['\n'] (next :: lines))
      rw [ih (List.cons_ne_nil _ _) hlines] at hrest
      rw [List.singleton_append, openLines_append hline hrest, List.append_nil]
      exact List.cons_ne_nil _ _

end ApiAtlas.Text
