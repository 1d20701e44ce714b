import ApiAtlas.Atlas.Owned
import ApiAtlas.Atlas.Search
import ApiAtlas.Proofs.Atlas.Growth
import Mathlib.Data.List.Forall2
import Mathlib.Logic.Relation

/-!
# Chains of parents

In an identified atlas the parents of an entry are older and older, so that following them ends at
the project, and the full name of every entry is found. The children of an entry are there, and the
search outward from an entry ends, since the containers around it are older and older too. Only the
search along first bases may go on for ever; then it is reported as endless.
-/

set_option autoImplicit false

/-! ## Parents -/

namespace ApiAtlas.Atlas

/-- Whether the second entry belongs to the first one. -/
def IsParent (a : Atlas) (p i : EntryId) : Prop :=
  a.parent? i = some p

namespace Identified

variable {a : Atlas} {i : EntryId}

/-- Every entry but the project has an older parent. -/
theorem exists_parent (h : a.Identified) (hi : i < a.size) (hne : i ≠ root) :
    ∃ p, a.IsParent p i ∧ p < i := by
  obtain ⟨e, he⟩ := exists_get? hi
  obtain ⟨p, hp, hlt⟩ := h.older i e he hne
  exact ⟨p, (parent?_eq he).trans hp, hlt⟩

/-- Every entry belongs to the project, directly or through others. -/
theorem rooted (h : a.Identified) (hi : i < a.size) :
    Relation.ReflTransGen a.IsParent root i := by
  induction i using Nat.strongRecOn with
  | ind i ih =>
    by_cases hne : i = root
    · rw [hne]
    · obtain ⟨p, hp, hlt⟩ := h.exists_parent hi hne
      exact (ih p hlt (Nat.lt_trans hlt hi)).tail hp

/-- The walk up from an entry ends within as many steps as there are older entries. -/
theorem namesUp_ok (h : a.Identified) {steps : Nat} (hi : i < a.size) (hsteps : i < steps) :
    ∃ names, a.namesUp steps i = .ok names := by
  induction steps generalizing i with
  | zero => exact absurd hsteps (Nat.not_lt_zero i)
  | succ steps ih =>
    obtain ⟨e, he⟩ := exists_get? hi
    have hfetch : a.fetch i = .ok e := by rw [fetch, he]
    rw [namesUp, hfetch]
    simp only [bind, Except.bind]
    split
    · exact ⟨_, rfl⟩
    · next p q hpq =>
      obtain ⟨p', hp', hq⟩ := Option.bind_eq_some_iff.1 hpq
      obtain ⟨q', hq', hpair⟩ := Option.map_eq_some_iff.1 hq
      obtain ⟨rfl, rfl⟩ : p' = p ∧ q' = q := by simpa using hpair
      split
      · exact ⟨_, rfl⟩
      · have hlt := h.parent?_lt ((parent?_eq he).trans hp')
        obtain ⟨names, hnames⟩ := ih (get?_lt hq')
          (Nat.lt_of_lt_of_le hlt (Nat.le_of_lt_succ hsteps))
        exact ⟨_, by rw [hnames]⟩

/-- Every entry has a full name. -/
theorem fullName_ok (h : a.Identified) (hi : i < a.size) : ∃ name, a.fullName i = .ok name := by
  obtain ⟨names, hnames⟩ := h.namesUp_ok hi (Nat.lt_succ_of_lt hi)
  exact ⟨_, by rw [fullName, fullNameWith, hnames]; rfl⟩

end Identified

end ApiAtlas.Atlas

/-! ## Searches that end -/

namespace ApiAtlas

/-- When a sequence of two computations fails, the first one does, or the second one after it. -/
theorem Except.of_bind_eq_error {α β ε : Type} {x : Except ε α} {f : α → Except ε β} {m : ε}
    (h : x >>= f = .error m) : x = .error m ∨ ∃ v, x = .ok v ∧ f v = .error m := by
  cases x with
  | error m' => exact .inl (congrArg Except.error (Except.error.inj h))
  | ok v => exact .inr ⟨v, rfl, h⟩

namespace Atlas

variable {a : Atlas} {i : EntryId} {names : List String} {m : Misuse}

/-- Numbers below the size are fetched, each with its entry. -/
theorem fetchAll_ok {cs : List EntryId} (h : ∀ c ∈ cs, c < a.size) :
    ∃ es, a.fetchAll cs = .ok es ∧ List.Forall₂ (fun c e => a.get? c = some e) cs es := by
  induction cs with
  | nil => exact ⟨[], rfl, .nil⟩
  | cons c cs ih =>
    obtain ⟨es, hes, hrel⟩ := ih fun c' hc' => h c' (List.mem_cons_of_mem _ hc')
    obtain ⟨e, he⟩ := exists_get? (h c (List.mem_cons_self ..))
    have hfetch : a.fetch c = .ok e := by rw [fetch, he]
    refine ⟨e :: es, ?_, .cons he hrel⟩
    rw [fetchAll] at hes ⊢
    rw [List.mapM_cons, hfetch, hes]
    rfl

/-- The search outward ends within as many steps as there are older entries. -/
theorem Identified.searchOutward_ok (h : a.Identified) {steps : Nat} (hsteps : i + 1 < steps) :
    ∃ found, a.searchOutward names steps (some i) = .ok found := by
  induction steps generalizing i with
  | zero => exact absurd hsteps (Nat.not_lt_zero _)
  | succ steps ih =>
    rw [searchOutward]
    split
    · exact ⟨_, rfl⟩
    · split
      · exact ⟨_, rfl⟩
      · have hlt : i < steps := Nat.lt_of_succ_lt_succ hsteps
        cases hp : a.parent? i with
        | none =>
          obtain ⟨steps', rfl⟩ :=
            Nat.exists_eq_succ_of_ne_zero (Nat.ne_of_gt (Nat.zero_lt_of_lt hlt))
          exact ⟨none, rfl⟩
        | some p => exact ih (Nat.lt_of_le_of_lt (h.parent?_lt hp) hlt)

/-- A search around an entry ends. -/
theorem Identified.searchAround_ok (h : a.Identified) (hi : i < a.size) :
    ∃ found, a.searchOutward names (a.size + 1) (a.parent? i) = .ok found := by
  cases hp : a.parent? i with
  | none => exact ⟨none, rfl⟩
  | some p =>
    have hlt : p + 1 ≤ i := h.parent?_lt hp
    exact h.searchOutward_ok (Nat.lt_succ_of_le (Nat.le_trans hlt (Nat.le_of_lt hi)))

/-- A search outwards can only fail by not ending. -/
theorem eq_endless_of_searchOutward {steps : Nat} {start : Option EntryId}
    (h : a.searchOutward names steps start = .error m) : m = .endless := by
  induction steps generalizing start with
  | zero => exact (Except.error.inj h).symm
  | succ steps ih =>
    cases start with
    | none => cases h
    | some i =>
      rw [searchOutward] at h
      split at h
      · cases h
      · split at h
        · cases h
        · exact ih h

/-- A search through bases can only fail by not ending. -/
theorem eq_endless_of_searchBases {steps : Nat} (h : a.searchBases names steps i = .error m) :
    m = .endless := by
  induction steps generalizing i with
  | zero => exact (Except.error.inj h).symm
  | succ steps ih =>
    rw [searchBases] at h
    split at h
    · exact eq_endless_of_searchOutward h
    · split at h
      · cases h
      · dsimp only at h
        split at h
        · rcases Except.of_bind_eq_error h with hbase | ⟨inherited, -, hrest⟩
          · exact ih hbase
          · split at hrest
            · cases hrest
            · exact eq_endless_of_searchOutward hrest
        · exact eq_endless_of_searchOutward h

end Atlas

end ApiAtlas
