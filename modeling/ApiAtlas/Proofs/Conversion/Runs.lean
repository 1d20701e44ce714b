import ApiAtlas.Proofs.Conversion.Edit
import ApiAtlas.Proofs.Source.Nesting
import Mathlib.Data.List.Chain
import Mathlib.Data.List.Pairwise

/-!
# Runs of conversion steps

A step of conversion `Runs` from a draft when all drafts that it passes follow from each other by
edits of permitted entries, and it ends as stated. The rules lead through a step part by part; in
between every draft is an identified extension of the first one. What a run does not touch stays as
it is (`Conv.Runs.frame`), and what every edit keeps holds in every draft that is passed
(`Conv.Runs.always`).
-/

set_option autoImplicit false

namespace ApiAtlas

open Source (Decl)

/-- One edit of a permitted entry. -/
def Draft.Moves (A : EntryId → Prop) (x y : Draft) : Prop :=
  ∃ i, A i ∧ Edit i x y

/-- Edits of permitted entries are permitted when more is. -/
theorem Draft.Moves.mono {A B : EntryId → Prop} {x y : Draft} (h : Draft.Moves A x y)
    (hAB : ∀ i, A i → B i) : Draft.Moves B x y := by
  obtain ⟨i, hi, he⟩ := h
  exact ⟨i, hAB i hi, he⟩

/-- A step passes from a draft by edits of permitted entries only, and ends in a result and a
draft as required. -/
structure Conv.Runs {α : Type} (c : Conv α) (x : Draft) (A : EntryId → Prop)
    (Q : α → Draft → Prop) : Prop where
  chain : (x :: c.passed x).IsChain (Draft.Moves A)
  post : Q (c.run x).1 (c.run x).2

/-- The last draft of a chain meets the first draft of the next. -/
theorem isChain_cons_append {R : Draft → Draft → Prop} {x : Draft} {l l' : List Draft}
    (h : (x :: l).IsChain R) (h' : (l.getLastD x :: l').IsChain R) :
    (x :: (l ++ l')).IsChain R := by
  induction l generalizing x with
  | nil => exact h'
  | cons y l ih =>
    rw [List.isChain_cons_cons] at h
    rw [List.getLastD_cons] at h'
    exact List.isChain_cons_cons.2 ⟨h.1, ih h.2 h'⟩

/-- A chain goes on from the last draft of its front. -/
theorem isChain_of_append {R : Draft → Draft → Prop} {x : Draft} {l l' : List Draft}
    (h : (x :: (l ++ l')).IsChain R) : (l.getLastD x :: l').IsChain R := by
  induction l generalizing x with
  | nil => exact h
  | cons y l ih =>
    rw [List.getLastD_cons]
    exact ih (List.isChain_cons_cons.1 h).2

/-- What every edit keeps holds in all drafts of a chain. -/
theorem isChain_always {I : Draft → Prop} {A : EntryId → Prop} {x : Draft} {l : List Draft}
    (hI : ∀ i y z, A i → y.atlas.Identified → I y → Edit i y z → I z)
    (h : (x :: l).IsChain (Draft.Moves A)) (hx : x.atlas.Identified) (hIx : I x) :
    ∀ y ∈ l, y.atlas.Identified ∧ I y := by
  induction l generalizing x with
  | nil => simp
  | cons y l ih =>
    rw [List.isChain_cons_cons] at h
    obtain ⟨i, hi, he⟩ := h.1
    have hy := he.identified hx
    have hIy := hI i x y hi hx hIx he
    intro z hz
    rcases List.mem_cons.1 hz with rfl | hz
    · exact ⟨hy, hIy⟩
    · exact ih h.2 hy hIy z hz

/-- Each draft of a chain extends all those before it. -/
theorem isChain_pairwise_extends {A : EntryId → Prop} {x : Draft} {l : List Draft}
    (h : (x :: l).IsChain (Draft.Moves A)) (hx : x.atlas.Identified) :
    (x :: l).Pairwise fun y z => y.atlas.Extends z.atlas := by
  induction l generalizing x with
  | nil => exact List.pairwise_singleton _ x
  | cons y l ih =>
    have hstep : ∀ i z u, A i → z.atlas.Identified → x.atlas.Extends z.atlas → Edit i z u →
        x.atlas.Extends u.atlas := fun i z u _ hz hxz he => hxz.trans (he.grows hz)
    have hlater := isChain_always hstep h hx (.refl _)
    obtain ⟨⟨i, -, he⟩, htail⟩ := List.isChain_cons_cons.1 h
    exact List.pairwise_cons.2 ⟨fun z hz => (hlater z hz).2, ih htail (he.identified hx)⟩

/-- The last draft of a chain extends them all. -/
theorem isChain_extends_last {A : EntryId → Prop} {x : Draft} {l : List Draft}
    (h : (x :: l).IsChain (Draft.Moves A)) (hx : x.atlas.Identified) :
    ∀ y ∈ x :: l, y.atlas.Extends (l.getLastD x).atlas := by
  intro y hy
  have hlast : (x :: l).getLast (List.cons_ne_nil x l) = l.getLastD x := by
    cases l <;> rfl
  exact hlast ▸ (isChain_pairwise_extends h hx).rel_getLast_of_rel_getLast_getLast hy (.refl _)

namespace Conv

variable {α β : Type} {c : Conv α} {x : Draft} {A B : EntryId → Prop} {Q R : α → Draft → Prop}

/-- The draft that a step ends in is the one it started from or the last one it passed. -/
theorem run_mem_passed (c : Conv α) (x : Draft) : (c.run x).2 ∈ x :: c.passed x := by
  rw [c.ends]
  exact List.getLastD_mem_cons

namespace Runs

/-! ## What follows from a run -/

/-- What every edit keeps holds in every draft that is passed. -/
theorem always {I : Draft → Prop} (h : c.Runs x A Q) (hx : x.atlas.Identified) (hIx : I x)
    (hI : ∀ i y z, A i → y.atlas.Identified → I y → Edit i y z → I z) :
    ∀ y ∈ x :: c.passed x, y.atlas.Identified ∧ I y := by
  intro y hy
  rcases List.mem_cons.1 hy with rfl | hy
  · exact ⟨hx, hIx⟩
  · exact isChain_always hI h.chain hx hIx y hy

/-- What every edit keeps holds in the draft that a run ends in. -/
theorem keeps {I : Draft → Prop} (h : c.Runs x A Q) (hx : x.atlas.Identified) (hIx : I x)
    (hI : ∀ i y z, A i → y.atlas.Identified → I y → Edit i y z → I z) : I (c.run x).2 :=
  (h.always hx hIx hI _ (c.run_mem_passed x)).2

/-- Every draft that a run passes is identified, and extends the one in which the run starts. -/
theorem grows_passed (h : c.Runs x A Q) (hx : x.atlas.Identified) :
    ∀ y ∈ x :: c.passed x, y.atlas.Identified ∧ x.atlas.Extends y.atlas := by
  refine h.always hx (.refl _) ?_
  intro i y z _ hy hxy he
  exact hxy.trans (he.grows hy)

/-- A run ends in an identified draft. -/
theorem identified (h : c.Runs x A Q) (hx : x.atlas.Identified) :
    (c.run x).2.atlas.Identified :=
  (h.grows_passed hx _ (c.run_mem_passed x)).1

/-- A run ends in an extension of the draft in which it starts. -/
theorem grows (h : c.Runs x A Q) (hx : x.atlas.Identified) :
    x.atlas.Extends (c.run x).2.atlas :=
  (h.grows_passed hx _ (c.run_mem_passed x)).2

/-- An entry that a run is not permitted to touch stays as it is. -/
theorem frame (h : c.Runs x A Q) (hx : x.atlas.Identified) {j : EntryId} (hj : j < x.atlas.size)
    (hA : ¬ A j) : (c.run x).2.atlas.get? j = x.atlas.get? j := by
  have key := h.always (I := fun y => x.atlas.size ≤ y.atlas.size ∧
    y.atlas.get? j = x.atlas.get? j) hx ⟨Nat.le_refl _, rfl⟩ ?_
  · exact (key _ (c.run_mem_passed x)).2.2
  · rintro i y z hi hy ⟨hsize, hget⟩ he
    have hji : j ≠ i := fun hji => hA (hji ▸ hi)
    exact ⟨hsize.trans (he.grows hy).size_le,
      (he.frame hy hji (Nat.lt_of_lt_of_le hj hsize)).trans hget⟩

/-! ## Rules -/

/-- What runs still does when more entries are permitted and less is required. -/
theorem mono (h : c.Runs x A Q) (hAB : ∀ i, A i → B i) (hQR : ∀ a y, Q a y → R a y) :
    c.Runs x B R :=
  ⟨h.chain.imp fun _ _ hm => hm.mono hAB, hQR _ _ h.post⟩

/-- What runs still does when less is required of what it yields. -/
theorem weaken (h : c.Runs x A Q) (hQR : ∀ a y, Q a y → R a y) : c.Runs x A R :=
  h.mono (fun _ hi => hi) hQR

/-- Yielding a value runs. -/
theorem pure {a : α} (h : Q a x) : (pure a : Conv α).Runs x A Q :=
  ⟨List.isChain_singleton x, h⟩

/-- A question runs. -/
theorem ask {f : Atlas → α} (h : Q (f x.atlas) x) : (ask f).Runs x A Q :=
  ⟨List.isChain_singleton x, h⟩

/-- An edit of a permitted entry runs. -/
theorem update {f : Draft → α × Draft} {i : EntryId} (he : Edit i x (f x).2) (hi : A i)
    (h : Q (f x).1 (f x).2) : (update f).Runs x A Q :=
  ⟨List.isChain_cons_cons.2 ⟨⟨i, hi, he⟩, List.isChain_singleton _⟩, h⟩

/-- Two steps, the second of which starts in an identified extension of the first draft. -/
theorem bind {k : α → Conv β} {R : β → Draft → Prop} (hx : x.atlas.Identified)
    (h : c.Runs x A Q)
    (hk : ∀ a y, Q a y → x.atlas.Extends y.atlas → y.atlas.Identified → (k a).Runs y A R) :
    (c >>= k).Runs x A R := by
  have hk := hk _ _ h.post (h.grows hx) (h.identified hx)
  refine ⟨isChain_cons_append h.chain ?_, hk.post⟩
  rw [← c.ends]
  exact hk.chain

/-- A step of which only the run matters. -/
theorem then_pure {f : α → β} (hx : x.atlas.Identified) (h : c.Runs x A Q) :
    (c >>= fun a => Pure.pure (f a)).Runs x A fun _ _ => True := by
  refine .bind hx h ?_
  intro a y _ _ _
  exact .pure trivial

/-- Of two steps that run, the second one runs from where the first one ends. -/
theorem of_bind {k : α → Conv β} {R : β → Draft → Prop} (h : (c >>= k).Runs x A R) :
    (k (c.run x).1).Runs (c.run x).2 A R := by
  refine ⟨?_, h.post⟩
  rw [c.ends]
  exact isChain_of_append (by rw [← c.ends]; exact h.chain)

/-- A visit is noted beside the run. -/
theorem visiting {c : Conv (Option EntryId)} {Q : Option EntryId → Draft → Prop} {s : Site}
    {d : Decl} {name : String} (h : c.Runs x A Q) : (visiting s d name c).Runs x A Q :=
  ⟨h.chain, h.post⟩

/-- A step after a value that is read off. -/
theorem ask_bind {f : Atlas → α} {k : α → Conv β} {R : β → Draft → Prop}
    (hk : (k (f x.atlas)).Runs x A R) : (Conv.ask f >>= k).Runs x A R :=
  ⟨hk.chain, hk.post⟩

/-- A routine report runs. -/
theorem report {s : Site} {code : Code} {message : String} {details : List (String × Json)}
    {i : EntryId} (hi : A i) (hg : ∀ file, Diagnostic.IsRoutine ⟨code, message, details ++ file⟩)
    {R : Unit → Draft → Prop} (hR : ∀ y, y.atlas = x.atlas → R () y) :
    (report s code message details).Runs x A R :=
  update (.report _ (hg _)) hi (hR _ rfl)

/-- A change of a permitted entry runs. -/
theorem changeEntry {i : EntryId} {f : Entry → Entry} (hi : A i)
    (hf : ∀ e, x.atlas.get? i = some e → e.Change x.atlas i (f e))
    {R : Unit → Draft → Prop} (hR : ∀ y, y.atlas = x.atlas.modify i f → R () y) :
    (changeEntry i f).Runs x A R :=
  update (.change f hf) hi (hR _ rfl)

/-- Adding a blank entry runs if the next entry is permitted. -/
theorem addEntry {e : Entry} {p : EntryId} (hA : A x.atlas.size) (hp : e.parent = some p)
    (hlt : p < x.atlas.size) (hb : e.IsBlank) {R : EntryId → Draft → Prop}
    (hR : ∀ y, y.atlas = (x.atlas.add e).1 → R x.atlas.size y) : (addEntry e).Runs x A R :=
  update (.add e p hp hlt hb) hA (hR _ rfl)

end Runs

end Conv

/-! ## What a run may touch -/

/-- The entries that converting some declarations may touch: the new ones, some given ones, and
those of the symbols that the declarations carry. -/
def Atlas.Reach (a : Atlas) (open_ : List EntryId) (ds : List Decl) (i : EntryId) : Prop :=
  a.size ≤ i ∨ i ∈ open_ ∨ ∃ d ∈ ds, ∃ s, d.Carries s ∧ a.symbolOf i = some s

namespace Atlas

variable {a b : Atlas} {ids ids' : List EntryId} {ds ds' : List Decl} {i : EntryId}

/-- Converting declarations may touch the next entry. -/
theorem reach_size : a.Reach ids ds a.size :=
  Or.inl (Nat.le_refl _)

/-- Converting declarations may touch the entries that are given. -/
theorem reach_mem (h : i ∈ ids) : a.Reach ids ds i :=
  Or.inr (Or.inl h)

/-- Later and for fewer declarations, nothing more can be touched. -/
theorem Reach.mono (h : b.Reach ids' ds' i) (hab : a.Extends b)
    (hids : ∀ i ∈ ids', a.Reach ids ds i) (hds : ds' ⊆ ds) : a.Reach ids ds i := by
  rcases h with h | h | ⟨d, hd, s, hs, hsym⟩
  · exact Or.inl (hab.size_le.trans h)
  · exact hids i h
  · by_cases hi : i < a.size
    · exact Or.inr (Or.inr ⟨d, hds hd, s, hs, (hab.symbolOf_eq hi).symm.trans hsym⟩)
    · exact Or.inl (Nat.le_of_not_lt hi)

end Atlas

end ApiAtlas
