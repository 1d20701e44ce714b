import ApiAtlas.Proofs.Atlas.Held

/-!
# Tidy atlases

An atlas is `Tidy` up to some pending entries when each entry is held by its parent and by no other
entry, once, except for the pending ones, which nothing holds yet. A new entry is pending until its
parent gets it into a slot, which is the last that was pending (`Tidy.store`).
-/

set_option autoImplicit false

namespace ApiAtlas.Atlas

/-- Each entry holds exactly the entries whose parent it is, save for the pending ones, and its
lists are increasing. -/
structure Tidy (a : Atlas) (pending : List EntryId) : Prop where
  nodup_pending : pending.Nodup
  pending_lt : ∀ q ∈ pending, q < a.size
  nodup_held : ∀ p e, a.get? p = some e → e.held.Nodup
  mem_held : ∀ p e q, a.get? p = some e → (q ∈ e.held ↔ a.parent? q = some p ∧ q ∉ pending)
  increasing : ∀ p e, a.get? p = some e → e.Increasing

/-- Tidy with new pending entries, which belong to an owner. -/
structure Owes (a : Atlas) (pending : List EntryId) (owner : EntryId) (new : List EntryId) :
    Prop where
  tidy : a.Tidy (pending ++ new)
  parent : ∀ q ∈ new, a.parent? q = some owner

namespace Owes

variable {a b : Atlas} {P l l' : List EntryId} {owner : EntryId}

/-- What is owed, and later more for the same owner. -/
theorem append (h : a.Owes P owner l) (h' : b.Owes (P ++ l) owner l') (hab : a.Extends b) :
    b.Owes P owner (l ++ l') where
  tidy := by
    rw [← List.append_assoc]
    exact h'.tidy
  parent q hq := by
    rcases List.mem_append.1 hq with hq | hq
    · have hlt := h.tidy.pending_lt q (List.mem_append_right _ hq)
      rw [hab.parent?_eq hlt, h.parent q hq]
    · exact h'.parent q hq

end Owes

namespace Tidy

variable {a b : Atlas} {P new : List EntryId} {i p : EntryId} {e : Entry} {f : Entry → Entry}

/-- What an entry of a tidy atlas holds is in the atlas. -/
theorem held_lt (h : a.Tidy P) (he : a.get? p = some e) {q : EntryId} (hq : q ∈ e.held) :
    q < a.size :=
  Atlas.parent?_lt ((h.mem_held p e q he).1 hq).1

/-- A tidy atlas owes nothing to any owner. -/
theorem owes_nil (h : a.Tidy P) (owner : EntryId) : a.Owes P owner [] :=
  ⟨by rwa [List.append_nil], nofun⟩

/-- Whether an atlas is tidy only depends on its entries. -/
theorem of_get? (h : a.Tidy P) (hsize : b.size = a.size) (hget : ∀ i, b.get? i = a.get? i) :
    b.Tidy P := by
  have hparent : ∀ q, b.parent? q = a.parent? q := fun q => by rw [parent?, hget, parent?]
  constructor
  case nodup_pending => exact h.nodup_pending
  case pending_lt => exact fun q hq => hsize ▸ h.pending_lt q hq
  case nodup_held => exact fun p e he => h.nodup_held p e (hget p ▸ he)
  case mem_held =>
    intro p e q he
    rw [hparent]
    exact h.mem_held p e q (hget p ▸ he)
  case increasing => exact fun p e he => h.increasing p e (hget p ▸ he)

/-- A new entry that holds nothing is pending. -/
theorem add (h : a.Tidy P) (ha : a.Identified) (hp : e.parent = some p) (hlt : p < a.size)
    (hheld : e.held = []) (hinc : e.Increasing) : (a.add e).1.Tidy (P ++ [a.size]) := by
  have hparent : ∀ q, (a.add e).1.parent? q = if q = a.size then some p else a.parent? q := by
    intro q
    rw [parent?, get?_add]
    split
    · exact hp
    · rfl
  have hold : ∀ j e', (a.add e).1.get? j = some e' →
      j = a.size ∧ e' = e ∨ j ≠ a.size ∧ a.get? j = some e' := by
    intro j e' he'
    rw [get?_add] at he'
    split at he'
    · next hj => exact Or.inl ⟨hj, (Option.some.inj he').symm⟩
    · next hj => exact Or.inr ⟨hj, he'⟩
  constructor
  case nodup_pending =>
    rw [List.nodup_append]
    refine ⟨h.nodup_pending, List.pairwise_singleton _ _, fun q hq r hr => ?_⟩
    rw [List.mem_singleton.1 hr]
    exact Nat.ne_of_lt (h.pending_lt q hq)
  case pending_lt =>
    intro q hq
    rw [size_add]
    rcases List.mem_append.1 hq with hq | hq
    · exact Nat.lt_succ_of_lt (h.pending_lt q hq)
    · exact List.mem_singleton.1 hq ▸ Nat.lt_succ_self _
  case nodup_held =>
    intro j e' he'
    rcases hold j e' he' with ⟨-, rfl⟩ | ⟨-, he'⟩
    · exact hheld ▸ List.nodup_nil
    · exact h.nodup_held j e' he'
  case mem_held =>
    intro j e' q he'
    rw [hparent]
    rcases hold j e' he' with ⟨rfl, rfl⟩ | ⟨hj, he'⟩
    -- Nothing belongs to the new entry, since parents are older.
    · rw [hheld]
      refine iff_of_false List.not_mem_nil ?_
      rintro ⟨hq, -⟩
      split at hq
      · exact Nat.lt_irrefl _ (Option.some.inj hq ▸ hlt)
      · exact Nat.lt_asymm (ha.parent?_lt hq) (Atlas.parent?_lt hq)
    · split
      · next hq =>
        refine iff_of_false (fun hmem => ?_) (fun hmem => hmem.2 (by simp [hq]))
        exact Nat.lt_irrefl _ (hq ▸ h.held_lt he' hmem)
      · next hq => simp [h.mem_held j e' q he', hq]
  case increasing =>
    intro j e' he'
    rcases hold j e' he' with ⟨-, rfl⟩ | ⟨-, he'⟩
    · exact hinc
    · exact h.increasing j e' he'

/-- The last pending entries are no longer pending when their parent gets them. -/
theorem store (h : a.Owes P i new) (he : a.get? i = some e) (ht : e.Takes (f e) new) :
    (a.modify i f).Tidy P := by
  obtain ⟨h, hnew⟩ := h
  obtain ⟨hpar, hheld, hinc⟩ := ht
  have hparent : ∀ q, (a.modify i f).parent? q = a.parent? q := by
    intro q
    rw [parent?, get?_modify, parent?]
    split
    · next hq => rw [← hq, he]; exact hpar
    · rfl
  obtain ⟨hP, hnodup, hdisj⟩ := List.nodup_append.1 h.nodup_pending
  -- An entry of the changed atlas is the changed one, or is as it was.
  have hold : ∀ j e', (a.modify i f).get? j = some e' →
      j = i ∧ e' = f e ∨ j ≠ i ∧ a.get? j = some e' := by
    intro j e' he'
    rw [get?_modify] at he'
    split at he'
    · next hj =>
      rw [← hj, he] at he'
      exact Or.inl ⟨hj.symm, (Option.some.inj he').symm⟩
    · next hj => exact Or.inr ⟨fun h => hj h.symm, he'⟩
  constructor
  case nodup_pending => exact hP
  case pending_lt =>
    intro q hq
    rw [size_modify]
    exact h.pending_lt q (List.mem_append_left _ hq)
  case nodup_held =>
    intro j e' he'
    rcases hold j e' he' with ⟨rfl, rfl⟩ | ⟨-, he'⟩
    · rw [hheld.nodup_iff, List.nodup_append]
      refine ⟨h.nodup_held _ e he, hnodup, fun q hq r hr hqr => ?_⟩
      exact ((h.mem_held _ e q he).1 hq).2 (List.mem_append_right _ (hqr ▸ hr))
    · exact h.nodup_held j e' he'
  case mem_held =>
    intro j e' q he'
    rw [hparent]
    rcases hold j e' he' with ⟨rfl, rfl⟩ | ⟨hj, he'⟩
    -- The owner now holds what it was owed, which is no longer pending.
    · rw [hheld.mem_iff, List.mem_append, h.mem_held _ e q he, List.mem_append, not_or]
      constructor
      · rintro (⟨hq, hqP, -⟩ | hq)
        · exact ⟨hq, hqP⟩
        · exact ⟨hnew q hq, fun hqP => hdisj q hqP q hq rfl⟩
      · rintro ⟨hq, hqP⟩
        by_cases hqn : q ∈ new
        · exact Or.inr hqn
        · exact Or.inl ⟨hq, hqP, hqn⟩
    -- Another entry held nothing of this, since all of it belongs to the owner.
    · rw [h.mem_held j e' q he', List.mem_append, not_or]
      constructor
      · exact fun hq => ⟨hq.1, hq.2.1⟩
      · refine fun hq => ⟨hq.1, hq.2, fun hqn => hj ?_⟩
        exact Option.some.inj (hq.1.symm.trans (hnew q hqn))
  case increasing =>
    intro j e' he'
    rcases hold j e' he' with ⟨rfl, rfl⟩ | ⟨-, he'⟩
    · exact hinc (h.increasing _ e he)
    · exact h.increasing j e' he'

/-- A change of what is in no slot. -/
theorem modify (h : a.Tidy P) (ht : ∀ e, a.get? i = some e → e.Takes (f e) []) :
    (a.modify i f).Tidy P := by
  cases he : a.get? i with
  | none =>
    refine h.of_get? (size_modify ..) fun j => ?_
    rw [get?_modify]
    split
    · next hj => rw [← hj, he]; rfl
    · rfl
  | some e => exact store (h.owes_nil i) he (ht e he)

/-- A declaration that is entered is held by its scope at once. -/
theorem enter (h : a.Tidy P) (ha : a.Identified) {scope : Entry} (hi : a.get? i = some scope)
    (hm : scope.members?.isSome = true) (hheld : e.held = []) (hinc : e.Increasing)
    (s : String) : (a.enter i e (some s)).1.Tidy P := by
  have hlt := get?_lt hi
  have hadd : (a.add { e with parent := some i }).1.Tidy (P ++ [a.size]) :=
    h.add ha rfl hlt hheld hinc
  have howes : (a.add { e with parent := some i }).1.Owes P i [a.size] := by
    refine ⟨hadd, fun q hq => ?_⟩
    rw [List.mem_singleton.1 hq]
    exact parent?_eq (get?_add_self ..)
  have hscope : (a.add { e with parent := some i }).1.get? i = some scope := by
    rw [get?_add_of_lt _ hlt, hi]
  refine of_get? (store (f := fun p => p.mapMembers fun m => m.insert e.name a.size) howes hscope
    (Entry.takes_insert hm e.name fun j hj => h.held_lt hi hj)) (by simp) fun j => ?_
  rw [get?_enter e (some s) hlt (ha.size_notMem_childrenOf i), get?_modify, get?_add]
  by_cases hj : j = a.size
  · subst hj
    simp [Nat.ne_of_lt hlt]
  · by_cases hji : j = i
    · subst hji
      simp [hj]
    · simp [hj, hji, Ne.symm hji]

end Tidy

end ApiAtlas.Atlas
