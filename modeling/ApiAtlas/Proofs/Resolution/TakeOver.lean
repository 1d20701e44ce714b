import ApiAtlas.Proofs.Conversion.Kept
import ApiAtlas.Proofs.Resolution.Recommented

/-!
# Taking over comments

What the handling of one declaration does to an atlas: it changes the comment of the declaration
and those of its signatures, as a function of these comments and of those of its source. Two
atlases that agree on both agree afterwards.
-/

set_option autoImplicit false

namespace ApiAtlas.Atlas

variable {a b c : Atlas} {i j d s : EntryId}

/-! ## Which entries are concerned -/

/-- The declaration itself and its signatures. -/
def Concerns (a : Atlas) (d i : EntryId) : Prop :=
  i = d ∨ ∃ details, a.details? d = some details ∧ i ∈ details.allSignatures

/-- What a declaration concerns is the same when comments change. -/
theorem Recommented.concerns_iff (h : a.Recommented b) : b.Concerns d i ↔ a.Concerns d i := by
  rw [Concerns, Concerns, h.details?_eq]

/-- A signature is no declaration. -/
theorem IsSignatureOf.isDeclaration_eq {owner : EntryId} {kinds : List Kind}
    (h : a.IsSignatureOf i owner kinds) : a.isDeclaration i = false := by
  obtain ⟨e, he, hs, -⟩ := h
  obtain ⟨name, kind, flags, comment, parent, body⟩ := e
  cases body <;> simp [Entry.shape?] at hs
  simp [isDeclaration, details?, he, Entry.details?]

/-- An entry is concerned by one declaration only. -/
theorem SignaturesOwned.concerns_unique (h : a.SignaturesOwned) (hd : a.isDeclaration d = true)
    (hs : a.isDeclaration s = true) (hi : a.Concerns d i) (hj : a.Concerns s i) : d = s := by
  rcases hi with rfl | ⟨dd, hdd, hi⟩
  · rcases hj with rfl | ⟨ds, hds, hj⟩
    · rfl
    · rw [(h s ds hds i hj).isDeclaration_eq] at hd
      cases hd
  · have howned := h d dd hdd i hi
    rcases hj with rfl | ⟨ds, hds, hj⟩
    · rw [howned.isDeclaration_eq] at hs
      cases hs
    · obtain ⟨e, he, -, hp, -⟩ := howned
      obtain ⟨e', he', -, hp', -⟩ := h s ds hds i hj
      obtain rfl : e = e' := Option.some.inj (he.symm.trans he')
      exact Option.some.inj (hp.symm.trans hp')

/-- Signatures that are paired are signatures of the two declarations. -/
theorem mem_signaturePairs {mine theirs : Details} {pair : EntryId × EntryId}
    (h : pair ∈ signaturePairs mine theirs) :
    pair.1 ∈ mine.allSignatures ∧ pair.2 ∈ theirs.allSignatures := by
  obtain ⟨m, t⟩ := pair
  simp only [signaturePairs, List.mem_append] at h
  simp only [Details.allSignatures, List.mem_append]
  rcases h with (h | h) | h <;> have hz := List.of_mem_zip h <;> tauto

/-! ## Comments afterwards -/

/-- Setting a comment changes the comment of that entry only. -/
theorem commentOf_setComment (a : Atlas) (i : EntryId) (p : Comment) (j : EntryId) :
    (a.setComment i p).commentOf j =
      if i = j ∧ j < a.size then some p else a.commentOf j := by
  rw [commentOf, setComment, get?_modify, commentOf]
  by_cases hij : i = j
  · by_cases hj : j < a.size
    · obtain ⟨e, he⟩ := exists_get? hj
      simp [hij, hj, he]
    · simp [hij, hj, get?_eq_none (Nat.le_of_not_lt hj)]
  · simp [hij]

/-- Setting a comment changes comments only. -/
theorem recommented_setComment (a : Atlas) (i : EntryId) (c : Comment) :
    a.Recommented (a.setComment i c) := by
  refine ⟨rfl, rfl, rfl, fun j => ?_⟩
  by_cases hj : i = j
  · exact ⟨some c, by rw [setComment, get?_modify, if_pos hj]⟩
  · rw [setComment, get?_modify, if_neg hj]
    exact (Recommented.refl a).entries j

/-- A signature that inherits changes comments only. -/
theorem recommented_inheritSignature (a : Atlas) (pair : EntryId × EntryId) :
    a.Recommented (a.inheritSignature pair) := by
  unfold inheritSignature
  split
  · split
    · split
      · exact recommented_setComment ..
      · exact .refl a
    · exact .refl a
  · exact .refl a

/-- Signatures that inherit change comments only. -/
theorem recommented_foldl_inheritSignature (a : Atlas) (pairs : List (EntryId × EntryId)) :
    a.Recommented (pairs.foldl inheritSignature a) := by
  induction pairs generalizing a with
  | nil => exact .refl a
  | cons pair pairs ih => exact (recommented_inheritSignature a pair).trans (ih _)

/-- A declaration that inherits changes comments only. -/
theorem recommented_inheritComment (a : Atlas) (d s : EntryId) :
    a.Recommented (a.inheritComment d s) := by
  unfold inheritComment
  split
  · exact recommented_setComment ..
  · exact .refl a

/-- The signatures of a declaration that inherit change comments only. -/
theorem recommented_inheritSignatures (a : Atlas) (d s : EntryId) :
    a.Recommented (a.inheritSignatures d s) := by
  unfold inheritSignatures
  split
  · exact recommented_foldl_inheritSignature ..
  · exact .refl a

/-- Taking over documentation changes comments only. -/
theorem recommented_takeOver (a : Atlas) (d s : EntryId) : a.Recommented (a.takeOver d s) :=
  (recommented_inheritComment a d s).trans (recommented_inheritSignatures _ d s)

/-! ## What is taken over -/

/-- A signature that inherits leaves the comments of other entries. -/
theorem commentOf_inheritSignature_of_ne {pair : EntryId × EntryId} (h : i ≠ pair.1) :
    (a.inheritSignature pair).commentOf i = a.commentOf i := by
  unfold inheritSignature
  split
  · split
    · split
      · rw [commentOf_setComment, if_neg fun hh => h hh.1.symm]
      · rfl
    · rfl
  · rfl

/-- A declaration is no signature. -/
theorem shape?_eq_none_of_isDeclaration (hi : a.isDeclaration i = true) :
    (a.get? i).bind (·.shape?) = none := by
  simp only [isDeclaration, details?] at hi
  cases he : a.get? i with
  | none => rfl
  | some e =>
    obtain ⟨name, kind, flags, comment, parent, body⟩ := e
    cases body <;> simp_all [Entry.details?, Entry.shape?]

/-- Only comments of signatures are changed. -/
theorem commentOf_inheritSignature_of_shape (hi : (a.get? i).bind (·.shape?) = none)
    (pair : EntryId × EntryId) : (a.inheritSignature pair).commentOf i = a.commentOf i := by
  by_cases h : i = pair.1
  · unfold inheritSignature
    rw [← h]
    split
    · next mine theirs hmine _ =>
      have hshape : mine.shape? = none := by rwa [hmine, Option.bind_some] at hi
      simp only [hshape, Option.isSome_none, Bool.false_and, Bool.false_eq_true, if_false]
      split <;> rfl
    · rfl
  · exact commentOf_inheritSignature_of_ne h

/-- Signatures that inherit leave the comment of what is no signature. -/
theorem commentOf_foldl_inheritSignature_of_shape (hi : (a.get? i).bind (·.shape?) = none)
    (pairs : List (EntryId × EntryId)) :
    (pairs.foldl inheritSignature a).commentOf i = a.commentOf i := by
  induction pairs generalizing a with
  | nil => rfl
  | cons pair pairs ih =>
    have hnext : ((a.inheritSignature pair).get? i).bind (·.shape?) = none := by
      rw [← hi]
      exact (recommented_inheritSignature a pair).bind_eq _ fun _ _ => rfl
    rw [List.foldl_cons, ih hnext, commentOf_inheritSignature_of_shape hi]

/-- The signatures of a declaration that inherit leave the comment of what is no signature. -/
theorem commentOf_inheritSignatures_of_shape (hi : (a.get? i).bind (·.shape?) = none) :
    (a.inheritSignatures d s).commentOf i = a.commentOf i := by
  unfold inheritSignatures
  split
  · exact commentOf_foldl_inheritSignature_of_shape hi _
  · rfl

/-- Signatures that inherit leave the comment of an entry that is none of them. -/
theorem commentOf_foldl_inheritSignature_of_notMem {pairs : List (EntryId × EntryId)}
    (hi : ∀ pair ∈ pairs, i ≠ pair.1) :
    (pairs.foldl inheritSignature a).commentOf i = a.commentOf i := by
  induction pairs generalizing a with
  | nil => rfl
  | cons pair pairs ih =>
    rw [List.foldl_cons, ih fun q hq => hi q (List.mem_cons_of_mem _ hq),
      commentOf_inheritSignature_of_ne (hi pair (List.mem_cons_self ..))]

/-- What a signature takes over depends on its comment and that of the other one only. -/
theorem Recommented.commentOf_inheritSignature (h : b.Recommented c) {pair : EntryId × EntryId}
    (hmine : c.commentOf pair.1 = b.commentOf pair.1)
    (htheirs : c.commentOf pair.2 = b.commentOf pair.2) :
    (c.inheritSignature pair).commentOf pair.1 = (b.inheritSignature pair).commentOf pair.1 := by
  unfold inheritSignature
  rw [h.get?_eq hmine, h.get?_eq htheirs]
  split
  · split
    · split
      · rw [commentOf_setComment, commentOf_setComment, h.size_eq, hmine]
      · exact hmine
    · exact hmine
  · exact hmine

/-- Two atlases that agree on the comments of some entries still do when signatures among these
have taken over documentation from each other. -/
theorem Recommented.commentOf_foldl_inheritSignature (h : b.Recommented c)
    {S : EntryId → Prop} {pairs : List (EntryId × EntryId)}
    (hpairs : ∀ pair ∈ pairs, S pair.1 ∧ S pair.2)
    (hS : ∀ i, S i → c.commentOf i = b.commentOf i) (hi : S i) :
    (pairs.foldl inheritSignature c).commentOf i =
      (pairs.foldl inheritSignature b).commentOf i := by
  induction pairs generalizing b c with
  | nil => exact hS i hi
  | cons pair pairs ih =>
    have hpair := hpairs pair (List.mem_cons_self ..)
    refine ih (((recommented_inheritSignature b pair).symm.trans h).trans
      (recommented_inheritSignature c pair)) (fun q hq => hpairs q (List.mem_cons_of_mem _ hq)) ?_
    intro j hj
    by_cases hji : j = pair.1
    · rw [hji]
      exact h.commentOf_inheritSignature (hS _ hpair.1) (hS _ hpair.2)
    · rw [commentOf_inheritSignature_of_ne hji, commentOf_inheritSignature_of_ne hji, hS j hj]

/-- A declaration that inherits leaves the comments of other entries. -/
theorem commentOf_inheritComment_of_ne (h : i ≠ d) :
    (a.inheritComment d s).commentOf i = a.commentOf i := by
  unfold inheritComment
  split
  · rw [commentOf_setComment, if_neg fun hh => h hh.1.symm]
  · rfl

/-- A declaration that inherits gets the comment of its source, with its own merged into it, if the
source has one. -/
theorem commentOf_inheritComment_self (hd : d < a.size) :
    (a.inheritComment d s).commentOf d =
      match a.commentOf s with
      | some c => some (Comment.inherit c (a.commentOf d))
      | none => a.commentOf d := by
  unfold inheritComment
  cases a.commentOf s with
  | some c => simp only [commentOf_setComment, hd, and_self, if_true]
  | none => rfl

/-- A declaration takes over the comment of its source, if that has one. -/
theorem commentOf_takeOver_self (hd : a.isDeclaration d = true) :
    (a.takeOver d s).commentOf d =
      match a.commentOf s with
      | some c => some (Comment.inherit c (a.commentOf d))
      | none => a.commentOf d := by
  rw [← commentOf_inheritComment_self (lt_of_isDeclaration hd), takeOver]
  exact commentOf_inheritSignatures_of_shape (shape?_eq_none_of_isDeclaration
    ((recommented_inheritComment a d s).isDeclaration_eq.trans hd))

/-- Besides the declaration, only signatures are changed. -/
theorem commentOf_takeOver_of_shape (hi : (a.get? i).bind (·.shape?) = none) (hid : i ≠ d) :
    (a.takeOver d s).commentOf i = a.commentOf i := by
  have hnext : ((a.inheritComment d s).get? i).bind (·.shape?) = none := by
    rw [← hi]
    exact (recommented_inheritComment a d s).bind_eq _ fun _ _ => rfl
  rw [takeOver, commentOf_inheritSignatures_of_shape hnext, commentOf_inheritComment_of_ne hid]

/-- The comment of no other declaration is changed. -/
theorem commentOf_takeOver_of_isDeclaration (hi : a.isDeclaration i = true) (hid : i ≠ d) :
    (a.takeOver d s).commentOf i = a.commentOf i :=
  commentOf_takeOver_of_shape (shape?_eq_none_of_isDeclaration hi) hid

/-- Nothing else than the declaration and its signatures is changed. -/
theorem commentOf_takeOver_of_not_concerns (hi : ¬ a.Concerns d i) :
    (a.takeOver d s).commentOf i = a.commentOf i := by
  refine Eq.trans ?_ (commentOf_inheritComment_of_ne (s := s) fun hid => hi (.inl hid))
  rw [takeOver, inheritSignatures]
  split
  · next mine theirs hmine _ =>
    refine commentOf_foldl_inheritSignature_of_notMem fun pair hpair hip => hi (.inr ⟨mine, ?_⟩)
    rw [(recommented_inheritComment a d s).details?_eq] at hmine
    exact ⟨hmine, hip ▸ (mem_signaturePairs hpair).1⟩
  · rfl

/-- What a declaration and its signatures take over depends on their comments and on those of the
source and its signatures only. -/
theorem Recommented.commentOf_takeOver (h : b.Recommented c)
    (hS : ∀ i, b.Concerns d i ∨ b.Concerns s i → c.commentOf i = b.commentOf i)
    (hi : b.Concerns d i) : (c.takeOver d s).commentOf i = (b.takeOver d s).commentOf i := by
  have hb := recommented_inheritComment b d s
  have hc := recommented_inheritComment c d s
  have hbc : (b.inheritComment d s).Recommented (c.inheritComment d s) :=
    (hb.symm.trans h).trans hc
  have agree : ∀ j, b.Concerns d j ∨ b.Concerns s j →
      (c.inheritComment d s).commentOf j = (b.inheritComment d s).commentOf j := by
    intro j hj
    unfold inheritComment
    rw [hS d (.inl (.inl rfl)), hS s (.inr (.inl rfl))]
    split
    · rw [commentOf_setComment, commentOf_setComment, h.size_eq, hS j hj]
    · exact hS j hj
  simp only [takeOver, inheritSignatures, hb.details?_eq, hc.details?_eq, h.details?_eq]
  split
  · next mine theirs hmine htheirs =>
    refine hbc.commentOf_foldl_inheritSignature (fun pair hpair => ?_) agree (.inl hi)
    have hmem := mem_signaturePairs hpair
    exact ⟨.inl (.inr ⟨mine, hmine, hmem.1⟩), .inr (.inr ⟨theirs, htheirs, hmem.2⟩)⟩
  · exact agree i (.inl hi)

end ApiAtlas.Atlas
