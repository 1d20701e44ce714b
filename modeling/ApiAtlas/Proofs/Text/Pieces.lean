import ApiAtlas.Text.Pieces

/-!
# Pieces, beginnings and endings

Cutting and joining are the library's `splitOn` and `intercalate`, and the tests for a beginning or
an ending its `<+:` and `<:+`. A dotted path is read back as the names that it was joined from
exactly when none of them has a dot (`dotted_intercalate_eq_iff`). What stands before the first or
behind the last piece can be taken out of the joined text (`joinWith_append_head`,
`joinWith_append_last`). An ending without a separator belongs to the last piece
(`endsWith_append_cons`).
-/

set_option autoImplicit false

/-! ## Pieces of a path -/

namespace ApiAtlas.Text

variable {sep : Char} {s piece : List Char} {names : List String}

/-- The pieces of a text are those of the library's splitting. -/
theorem splitOn_eq (sep : Char) (s : List Char) : splitOn sep s = s.splitOn sep := by
  induction s with
  | nil => rfl
  | cons c r ih =>
    rw [splitOn, List.splitOn_cons_eq_if_modifyHead, ← ih]
    by_cases hc : c = sep
    · rw [if_pos hc, if_pos (beq_iff_eq.2 hc)]
    · obtain ⟨piece, pieces, hr⟩ :=
        List.exists_cons_of_ne_nil (ih ▸ List.splitOn_ne_nil sep r : splitOn sep r ≠ [])
      rw [if_neg hc, if_neg (mt beq_iff_eq.1 hc), hr]
      rfl

/-- No piece holds the separator. -/
theorem sep_notMem_of_mem_splitOn (h : piece ∈ splitOn sep s) : sep ∉ piece := by
  induction s generalizing piece with
  | nil =>
    rw [List.mem_singleton.1 h]
    exact List.not_mem_nil
  | cons c r ih =>
    rw [splitOn] at h
    split at h
    · rcases List.mem_cons.1 h with rfl | h
      · exact List.not_mem_nil
      · exact ih h
    · next hc =>
      cases hsplit : splitOn sep r with
      | nil =>
        rw [hsplit] at h
        rw [List.mem_singleton.1 h, List.mem_singleton]
        exact Ne.symm hc
      | cons first rest =>
        rw [hsplit] at h ih
        rcases List.mem_cons.1 h with rfl | h
        · exact List.not_mem_cons_of_ne_of_not_mem (Ne.symm hc) (ih List.mem_cons_self)
        · exact ih (List.mem_cons_of_mem _ h)

/-- Names that are joined by dots are read back exactly if none of them has a dot. -/
theorem dotted_intercalate_eq_iff (h : names ≠ []) :
    dotted (".".intercalate names) = names ↔ ∀ name ∈ names, '.' ∉ name.toList := by
  unfold dotted
  constructor
  · intro heq name hname
    rw [← heq] at hname
    obtain ⟨piece, hpiece, rfl⟩ := List.mem_map.1 hname
    rw [String.toList_ofList]
    exact sep_notMem_of_mem_splitOn hpiece
  · intro hdots
    have hpieces : ∀ piece ∈ names.map String.toList, '.' ∉ piece := by
      simpa only [List.forall_mem_map] using hdots
    have hne : names.map String.toList ≠ [] := by
      rwa [ne_eq, List.map_eq_nil_iff]
    rw [splitOn_eq, String.toList_intercalate,
      show (".".toList : List Char) = ['.'] from rfl,
      List.splitOn_intercalate _ hpieces hne, List.map_map]
    simp only [Function.comp_def, String.ofList_toList, List.map_id_fun', id_eq]

end ApiAtlas.Text

/-! ## Joined pieces -/

namespace ApiAtlas.Text

variable {sep : Char} {s t ending : List Char}

/-- Pieces are joined as lists are. -/
theorem joinWith_eq (sep : List Char) (pieces : List (List Char)) :
    joinWith sep pieces = sep.intercalate pieces := by
  induction pieces with
  | nil => rfl
  | cons piece pieces ih =>
    cases pieces with
    | nil => exact (List.append_nil piece).symm
    | cons next pieces =>
      change piece ++ sep ++ joinWith sep (next :: pieces) = _
      rw [ih, List.intercalate_cons_cons]

/-- A first piece is joined to others by the separator. -/
theorem joinWith_cons {pieces : List (List Char)} (h : pieces ≠ []) (sep piece : List Char) :
    joinWith sep (piece :: pieces) = piece ++ sep ++ joinWith sep pieces := by
  cases pieces with
  | nil => exact absurd rfl h
  | cons next pieces => rfl

/-- What stands in front of the first piece stands in front of the joined text. -/
theorem joinWith_append_head (sep front piece : List Char) (pieces : List (List Char)) :
    joinWith sep ((front ++ piece) :: pieces) = front ++ joinWith sep (piece :: pieces) := by
  cases pieces with
  | nil => rfl
  | cons next pieces => simp only [joinWith, List.append_assoc]

/-- What starts with a piece that is not empty is not empty. -/
theorem joinWith_ne_nil {piece : List Char} (h : piece ≠ []) (sep : List Char)
    (pieces : List (List Char)) : joinWith sep (piece :: pieces) ≠ [] := by
  have hjoin := joinWith_append_head sep piece [] pieces
  rw [List.append_nil] at hjoin
  rw [hjoin]
  exact List.append_ne_nil_of_left_ne_nil h _

/-- Every character of a joined text is from the separator or from a piece. -/
theorem mem_joinWith {sep : List Char} {pieces : List (List Char)} {c : Char}
    (h : c ∈ joinWith sep pieces) : c ∈ sep ∨ ∃ piece ∈ pieces, c ∈ piece := by
  induction pieces with
  | nil => exact absurd h List.not_mem_nil
  | cons piece pieces ih =>
    by_cases hne : pieces = []
    · subst hne
      exact .inr ⟨piece, List.mem_cons_self, h⟩
    · rw [joinWith_cons hne, List.mem_append, List.mem_append] at h
      rcases h with (h | h) | h
      · exact .inr ⟨piece, List.mem_cons_self, h⟩
      · exact .inl h
      · exact (ih h).imp_right fun ⟨found, hmem, hc⟩ => ⟨found, List.mem_cons_of_mem _ hmem, hc⟩

/-- A last piece is joined to others by the separator. -/
theorem joinWith_concat {pieces : List (List Char)} (h : pieces ≠ []) (sep last : List Char) :
    joinWith sep (pieces ++ [last]) = joinWith sep pieces ++ sep ++ last := by
  induction pieces with
  | nil => exact absurd rfl h
  | cons piece pieces ih =>
    by_cases hne : pieces = []
    · subst hne
      rfl
    · have hconcat : pieces ++ [last] ≠ [] := List.append_ne_nil_of_left_ne_nil hne _
      rw [List.cons_append, joinWith_cons hconcat, joinWith_cons hne, ih hne]
      simp only [List.append_assoc]

/-- What stands behind the last piece stands behind the joined text. -/
theorem joinWith_append_last (sep piece behind : List Char) (pieces : List (List Char)) :
    joinWith sep (pieces ++ [piece ++ behind]) = joinWith sep (pieces ++ [piece]) ++ behind := by
  by_cases hne : pieces = []
  · subst hne
    rfl
  · rw [joinWith_concat hne, joinWith_concat hne, List.append_assoc _ _ behind]

/-- A text without the separator is not cut. -/
theorem cut_of_notMem (h : sep ∉ s) : cut sep s = (s, []) := by
  induction s with
  | nil => rfl
  | cons c s ih =>
    rw [List.mem_cons, not_or] at h
    rw [cut, if_neg (Ne.symm h.1), ih h.2]

/-- A text is cut at its first separator. -/
theorem cut_append_cons (h : sep ∉ s) (t : List Char) : cut sep (s ++ sep :: t) = (s, t) := by
  induction s with
  | nil => exact if_pos rfl
  | cons c s ih =>
    rw [List.mem_cons, not_or] at h
    rw [List.cons_append, cut, if_neg (Ne.symm h.1), ih h.2]

/-- Joining what a text was split into yields the text. -/
theorem joinWith_splitOn (sep : Char) (s : List Char) : joinWith [sep] (splitOn sep s) = s := by
  rw [joinWith_eq, splitOn_eq, List.intercalate_splitOn]

/-- Splitting a text yields at least one piece. -/
theorem splitOn_ne_nil (sep : Char) (s : List Char) : splitOn sep s ≠ [] := by
  rw [splitOn_eq]
  exact List.splitOn_ne_nil sep s

/-- The test of how a text starts is that of a prefix. -/
theorem startsWith_iff : startsWith s t = true ↔ s <+: t :=
  List.isPrefixOf_iff_prefix

/-- The test of how a text ends is that of a suffix. -/
theorem endsWith_iff : endsWith ending s = true ↔ ending <:+ s :=
  List.isPrefixOf_iff_prefix.trans List.reverse_prefix

/-- Dropping an ending that has been added yields the text. -/
theorem dropEnding_append (s ending : List Char) : dropEnding ending (s ++ ending) = s := by
  rw [dropEnding, List.length_append, Nat.add_sub_cancel, List.take_left]

/-- An ending that shares no character with a text in front belongs to what stands behind it. -/
theorem suffix_append_iff (h : ∀ c ∈ ending, c ∉ s) : ending <:+ s ++ t ↔ ending <:+ t := by
  induction s with
  | nil => exact Iff.rfl
  | cons c s ih =>
    have hs : ∀ d ∈ ending, d ∉ s := fun d hd hmem => h d hd (List.mem_cons_of_mem c hmem)
    rw [List.cons_append, List.suffix_cons_iff, ih hs, or_iff_right]
    rintro rfl
    exact h c List.mem_cons_self List.mem_cons_self

/-- An ending without the separator is one of what stands behind a separator. -/
theorem endsWith_append_cons (h : sep ∉ ending) (s t : List Char) :
    endsWith ending (s ++ sep :: t) = endsWith ending t := by
  rw [Bool.eq_iff_iff, endsWith_iff, endsWith_iff]
  have htail : t <:+ s ++ sep :: t := (List.suffix_cons sep t).trans (List.suffix_append s _)
  refine ⟨fun hends => ?_, fun hends => hends.trans htail⟩
  rcases List.suffix_or_suffix_of_suffix hends htail with hshort | ⟨front, rfl⟩
  · exact hshort
  · -- An ending that is longer would hold the separator.
    rw [List.append_cons, List.suffix_append_self_iff] at hends
    rcases List.eq_nil_or_concat front with rfl | ⟨front, last, rfl⟩
    · exact List.suffix_refl t
    · rw [List.concat_eq_append] at hends h
      obtain ⟨-, hlast⟩ := (List.suffix_append_inj_of_length_eq (by rfl)).1 hends
      rw [List.singleton_inj] at hlast
      exact absurd (by simp [hlast]) h

end ApiAtlas.Text
