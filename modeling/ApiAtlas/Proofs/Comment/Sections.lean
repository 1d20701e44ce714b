import ApiAtlas.Comment.Parser
import ApiAtlas.Proofs.Text.Lines
import ApiAtlas.Proofs.Text.Pieces
import Mathlib.Data.List.Forall2
import Mathlib.Data.List.TakeWhile

/-!
# The lines that a comment is read from

Reading a doc comment is stripping its lines and then reading them (`parse?_eq`). Empty lines before
the first and after the last line say nothing (`commentOf_cons_nil`, `commentOf_concat_nil`), so it
does not matter whether a break at the end of the block opens one more line.

An inline reference is `{@inheritDoc}` or `{@inheritDoc Target}` in any case of letters. Only a text
that holds one is changed when the references are taken out of it (`takeInline_of_plain`).
-/

set_option autoImplicit false

/-! ## Inline references -/

namespace ApiAtlas.Comment

open Text

variable {s after letters target : List Char}

/-- The letters that open a reference, in any case. -/
def IsInheritWord (word : List Char) : Prop :=
  List.Forall₂ (fun letter c => standsFor letter c = true) "inheritdoc".toList word

/-- A text that is an inline reference, with a target or without. -/
inductive IsReference : List Char → Prop
  | bare {word : List Char} (hword : IsInheritWord word) :
    IsReference ('\x7b' :: '@' :: (word ++ ['\x7d']))
  | targeted {word target : List Char} {c : Char} (hword : IsInheritWord word)
    (hblank : isBlank c = true) (htarget : '\x7d' ∉ target) :
    IsReference ('\x7b' :: '@' :: (word ++ c :: (target ++ ['\x7d'])))

/-- A text that holds no inline reference. -/
def IsPlain (s : List Char) : Prop :=
  ∀ r, IsReference r → ¬ r <:+: s

/-- What follows the first character of a plain text is plain. -/
theorem IsPlain.tail {c : Char} (h : IsPlain (c :: s)) : IsPlain s :=
  fun r href hin => h r href (hin.trans (List.suffix_cons c s).isInfix)

/-- A reference starts with a brace. -/
theorem isPlain_of_notMem (h : '\x7b' ∉ s) : IsPlain s := by
  intro r href hin
  cases href <;> exact h (hin.subset List.mem_cons_self)

/-- Letters that are dropped stand for those that were to be dropped. -/
theorem dropLetters?_eq_some (h : dropLetters? letters s = some after) :
    ∃ word, s = word ++ after ∧
      List.Forall₂ (fun letter c => standsFor letter c = true) letters word := by
  fun_induction dropLetters? letters s with
  | case1 s =>
    obtain rfl := Option.some.inj h
    exact ⟨[], rfl, .nil⟩
  | case2 => exact nomatch h
  | case3 l ls c s hc ih =>
    obtain ⟨word, rfl, hword⟩ := ih h
    exact ⟨c :: word, rfl, .cons hc hword⟩
  | case4 => exact nomatch h

/-- A target is found only where a reference stands. -/
theorem inlineTarget?_eq_some (h : inlineTarget? s = some (target, after)) :
    ∃ r, IsReference r ∧ r <+: s := by
  unfold inlineTarget? at h
  split at h
  · next rest =>
    split at h
    · next after hdrop =>
      obtain ⟨word, rfl, hword⟩ := dropLetters?_eq_some hdrop
      refine ⟨_, .bare hword, after, ?_⟩
      simp only [List.cons_append, List.append_assoc, List.nil_append]
    · next c beyond _ hdrop =>
      obtain ⟨word, rfl, hword⟩ := dropLetters?_eq_some hdrop
      split at h
      · next hblank =>
        split at h
        · next close after hclose =>
          have hhead := List.head?_dropWhile_not (· ≠ '\x7d') beyond
          rw [hclose] at hhead
          obtain rfl : close = '\x7d' := by simpa using hhead
          have hbeyond : beyond.takeWhile (· ≠ '\x7d') ++ '\x7d' :: after = beyond := by
            rw [← hclose, List.takeWhile_append_dropWhile]
          have htarget : '\x7d' ∉ beyond.takeWhile (· ≠ '\x7d') := fun hmem => by
            simpa using List.mem_takeWhile_imp hmem
          refine ⟨_, .targeted hword hblank htarget, after, ?_⟩
          simp only [List.cons_append, List.append_assoc, List.nil_append, hbeyond]
        · exact nomatch h
      · exact nomatch h
    · exact nomatch h
  · exact nomatch h

/-- A text without inline references is kept. -/
theorem takeInline_of_plain (h : IsPlain s) : takeInline 0 s = (s, []) := by
  induction s with
  | nil => rfl
  | cons c s ih =>
    have hnone : inlineTarget? (c :: s) = none := by
      rw [Option.eq_none_iff_forall_ne_some]
      rintro ⟨target, after⟩ hsome
      obtain ⟨r, href, hstart⟩ := inlineTarget?_eq_some hsome
      exact h r href hstart.isInfix
    rw [takeInline, hnone, ih h.tail]

end ApiAtlas.Comment

/-! ## From lines to a comment -/

namespace ApiAtlas.Comment

open Text

/-- The comment of a summary and tags; the summary still holds its inline references. -/
def assemble (summary : List Char) (tags : List Tag) : Option Comment :=
  let comment : Comment :=
    match takeInline 0 summary with
    | (kept, target :: _) =>
      ⟨String.ofList (trim isBlank kept), ⟨"inheritdoc", String.ofList target, none⟩ :: tags⟩
    | (_, []) => ⟨String.ofList summary, tags⟩
  if comment.isEmpty then none else some comment

/-- The comment that stripped lines hold. -/
def commentOf (lines : List (List Char)) : Option Comment :=
  assemble (trim isBlank (joinLines (sections lines).1)) (sections lines).2

/-! ## Empty lines -/

/-- An empty line behind a tag adds nothing to its text. -/
theorem tagOf_concat_nil (name text : List Char) (more : List (List Char)) :
    tagOf name text (more ++ [[]]) = tagOf name text more := by
  have hfilter (first : List Char) :
      (first :: (more ++ [[]])).filter (!·.isEmpty) = (first :: more).filter (!·.isEmpty) := by
    rw [← List.cons_append, List.filter_append]
    exact List.append_nil _
  simp only [tagOf, hfilter]

/-- An empty line at the end is at most one more line of the summary. -/
theorem sections_concat_nil (lines : List (List Char)) :
    (sections (lines ++ [[]]) = sections lines) ∨
      sections (lines ++ [[]]) = ((sections lines).1 ++ [[]], (sections lines).2) := by
  induction lines with
  | nil => exact .inr (by rfl)
  | cons line lines ih =>
    rw [List.cons_append, sections, sections]
    cases tagLine? line with
    | some tag =>
      rcases ih with ih | ih
      · exact .inl (by rw [ih])
      · refine .inl ?_
        rw [ih]
        exact congrArg (fun t => ([], t :: _)) (tagOf_concat_nil ..)
    | none =>
      exact ih.imp (fun ih => by rw [ih]) (fun ih => by rw [ih]; rfl)

/-- An empty last line adds at most a line break behind the summary, which is trimmed. -/
theorem commentOf_concat_nil (lines : List (List Char)) :
    commentOf (lines ++ [[]]) = commentOf lines := by
  have hbreak : ∀ c ∈ ['\n'], isBlank c = true := List.forall_mem_singleton.2 (by rfl)
  have hjoin (free : List (List Char)) :
      trim isBlank (joinLines (free ++ [[]])) = trim isBlank (joinLines free) := by
    rcases eq_or_ne free [] with rfl | hfree
    · rfl
    · rw [joinLines, joinWith_concat hfree, List.append_nil, trim_append_right hbreak, joinLines]
  rcases sections_concat_nil lines with h | h
  · rw [commentOf, h, commentOf]
  · rw [commentOf, h, hjoin, commentOf]

/-- An empty first line adds at most a line break before the summary, which is trimmed. -/
theorem commentOf_cons_nil (lines : List (List Char)) :
    commentOf ([] :: lines) = commentOf lines := by
  have hbreak : ∀ c ∈ ['\n'], isBlank c = true := List.forall_mem_singleton.2 (by rfl)
  have hsections : sections ([] :: lines) = ([] :: (sections lines).1, (sections lines).2) := by rfl
  rw [commentOf, hsections, commentOf]
  cases (sections lines).1 with
  | nil => rfl
  | cons line free => exact congrArg (assemble · _) (trim_append_left hbreak _)

/-! ## Reading the lines of a block -/

/-- A text without the closing marker, if it ends with one. -/
def unclosed (s : List Char) : List Char :=
  if endsWith ['*', '/'] s then dropEnding ['*', '/'] s else s

/-- The closing marker is taken from the end of a text. -/
theorem unclosed_append (s : List Char) : unclosed (s ++ ['*', '/']) = s := by
  rw [unclosed, if_pos (endsWith_iff.2 (List.suffix_append ..)), dropEnding_append]

/-- Behind the opening marker of a doc comment the block lasts up to its closing marker. -/
theorem betweenMarkers_eq {raw body : List Char}
    (h : trimStart isBlank raw = "/**".toList ++ body) :
    betweenMarkers raw = unclosed (trimEnd isBlank body) := by
  have htrim : trim isBlank raw = '/' :: '*' :: '*' :: trimEnd isBlank body := by
    rw [trim, h, trimEnd_append]
    split
    · next hbody => rw [hbody]; rfl
    · rfl
  rw [betweenMarkers, htrim]
  rfl

/-- A text that does not start with the opening marker is not a doc comment. -/
theorem parse?_eq_none {raw : String}
    (h : ¬ "/**".toList <+: trimStart isBlank raw.toList) : parse? raw = none := by
  rw [parse?, if_neg (mt startsWith_iff.1 h)]

/-- A doc comment is read from the lines behind its opening marker. -/
theorem parse?_eq {raw : String} {body : List Char}
    (h : trimStart isBlank raw.toList = "/**".toList ++ body) :
    parse? raw = commentOf ((openLines (unclosed (trimEnd isBlank body))).map bareLine) := by
  have hopens : startsWith "/**".toList (trimStart isBlank raw.toList) = true :=
    startsWith_iff.2 (h ▸ List.prefix_append ..)
  have hparse : parse? raw = commentOf (bareLines raw.toList) := by
    rw [parse?, if_pos hopens]
    rcases htaken : takeInline 0 (trim isBlank (joinLines (sections (bareLines raw.toList)).1))
      with ⟨kept, _ | ⟨target, targets⟩⟩ <;> simp only [commentOf, assemble, htaken]
  have hbare : bareLine [] = [] := by rfl
  rw [hparse, bareLines, betweenMarkers_eq h]
  rcases openLines_eq (unclosed (trimEnd isBlank body)) with hlines | hlines
  · rw [hlines]
  · rw [hlines, List.map_append, List.map_singleton, hbare, commentOf_concat_nil]

end ApiAtlas.Comment
