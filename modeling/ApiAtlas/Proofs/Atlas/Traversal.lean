import ApiAtlas.Proofs.Atlas.Chains
import ApiAtlas.Proofs.Atlas.Tidy
import Mathlib.Data.List.Nodup

/-!
# Following the slots

When an atlas is tidy and nothing is pending, following the slots from the project leads to every
other entry exactly once. The entries are found level by level; an entry stands on one level only,
since its parent does, and on that level once, since one entry holds it.
-/

set_option autoImplicit false

namespace ApiAtlas.Atlas

/-- The entries that are found when the slots are followed from some entries for a number of
levels. -/
def traverseFrom (a : Atlas) : Nat → List EntryId → Except Misuse (List EntryId)
  | 0, _ => .ok []
  | levels + 1, ids => do
    let held := (← ids.mapM a.owned).flatten.map Prod.fst
    .ok (held ++ (← a.traverseFrom levels held))

/-- Every entry but the project is owned once, by its parent, and the lists of owned entries are
increasing. -/
structure OwnsOnce (a : Atlas) : Prop where
  /-- Following the slots from the project, until nothing is left and beyond, finds every other
  entry once. -/
  reached : ∀ levels ≥ a.size, ∃ found, a.traverseFrom levels [root] = .ok found ∧
    found.Perm (List.range' 1 (a.size - 1))
  /-- What is found in the slots of an entry belongs to that entry. -/
  parent : ∀ i < a.size, ∃ held, a.owned i = .ok held ∧ ∀ q ∈ held, a.parent? q.1 = some i
  /-- Children, signatures, parameters and type parameters are listed by age. -/
  increasing : ∀ i e, a.get? i = some e → e.Increasing

/-- What the entry with a number holds. -/
def heldBy (a : Atlas) (i : EntryId) : List EntryId :=
  ((a.get? i).map Entry.held).getD []

/-- The entries at a distance from the project. -/
def level (a : Atlas) : Nat → List EntryId
  | 0 => [root]
  | k + 1 => (a.level k).flatMap a.heldBy

variable {a : Atlas} {i : EntryId}

namespace Tidy

/-- In a tidy atlas nothing that an entry owns is missing. -/
theorem owned_eq (h : a.Tidy []) {e : Entry} (he : a.get? i = some e) :
    a.owned i = .ok (a.slots e) := by
  have hfst := map_fst_slots fun q hq => h.held_lt he hq
  have hfind : (a.slots e).find? (fun q => (a.get? q.1).isNone) = none := by
    rw [List.find?_eq_none]
    intro q hq
    have hmem : q.1 ∈ e.held := hfst ▸ List.mem_map_of_mem hq
    have hsome := get?_isSome_iff.2 (h.held_lt he hmem)
    rw [← Option.not_isSome, hsome]
    exact Bool.false_ne_true
  simp only [owned, fetch, he, bind, Except.bind, hfind]

/-- In a tidy atlas an entry holds just those whose parent it is. -/
theorem mem_heldBy (h : a.Tidy []) {p : EntryId} :
    i ∈ a.heldBy p ↔ a.parent? i = some p ∧ p < a.size := by
  unfold heldBy
  cases he : a.get? p with
  | none => simp [← get?_isSome_iff, he]
  | some e =>
    have hlt := get?_lt he
    simp [h.mem_held p e i he, hlt]

/-- In a tidy atlas no entry is held twice by another one. -/
theorem nodup_heldBy (h : a.Tidy []) (p : EntryId) : (a.heldBy p).Nodup := by
  unfold heldBy
  cases he : a.get? p with
  | none => exact List.nodup_nil
  | some e => exact h.nodup_held p e he

/-- In a tidy atlas the entries that some others own are found, and they are those that these hold.
-/
theorem mapM_owned (h : a.Tidy []) {ids : List EntryId} (hids : ∀ i ∈ ids, i < a.size) :
    ∃ held, ids.mapM a.owned = .ok held ∧ held.flatten.map Prod.fst = ids.flatMap a.heldBy := by
  induction ids with
  | nil => exact ⟨[], rfl, rfl⟩
  | cons i ids ih =>
    obtain ⟨held, hheld, hfst⟩ := ih fun j hj => hids j (List.mem_cons_of_mem _ hj)
    obtain ⟨e, he⟩ := exists_get? (hids i (List.mem_cons_self ..))
    refine ⟨a.slots e :: held, ?_, ?_⟩
    · rw [List.mapM_cons, h.owned_eq he, hheld]
      rfl
    · rw [List.flatten_cons, List.map_append, hfst, List.flatMap_cons,
        map_fst_slots fun q hq => h.held_lt he hq, heldBy, he]
      rfl

/-! ## Levels -/

/-- The entries at any distance from the project are in the atlas. -/
theorem level_lt (h : a.Tidy []) (ha : a.Identified) {k : Nat} : ∀ i ∈ a.level k, i < a.size := by
  cases k with
  | zero => exact fun i hi => List.mem_singleton.1 hi ▸ ha.zero_lt_size
  | succ k =>
    intro i hi
    obtain ⟨p, -, hip⟩ := List.mem_flatMap.1 hi
    exact Atlas.parent?_lt (h.mem_heldBy.1 hip).1

/-- An entry is one step farther from the project than its parent. -/
theorem mem_level_succ (h : a.Tidy []) (ha : a.Identified) {k : Nat} :
    i ∈ a.level (k + 1) ↔ ∃ p ∈ a.level k, a.parent? i = some p := by
  rw [level, List.mem_flatMap]
  constructor
  · rintro ⟨p, hp, hip⟩
    exact ⟨p, hp, (h.mem_heldBy.1 hip).1⟩
  · rintro ⟨p, hp, hip⟩
    exact ⟨p, hp, h.mem_heldBy.2 ⟨hip, h.level_lt ha p hp⟩⟩

/-- Following the slots from the entries at one distance for some levels yields those at the
distances after it. -/
theorem traverseFrom_level (h : a.Tidy []) (ha : a.Identified) (n k : Nat) :
    a.traverseFrom n (a.level k) = .ok ((List.range n).flatMap fun j => a.level (k + 1 + j)) := by
  induction n generalizing k with
  | zero => rfl
  | succ n ih =>
    obtain ⟨held, hheld, hfst⟩ := h.mapM_owned (h.level_lt ha (k := k))
    have hnext : held.flatten.map Prod.fst = a.level (k + 1) := hfst
    simp only [traverseFrom, hheld, bind, Except.bind, hnext, ih (k + 1)]
    rw [List.range_succ_eq_map, List.flatMap_cons, List.flatMap_map]
    simp only [Nat.add_zero, Nat.succ_eq_add_one, Nat.add_assoc, Nat.add_comm 1]

/-- No entry is twice at one distance from the project. -/
theorem nodup_level (h : a.Tidy []) (k : Nat) : (a.level k).Nodup := by
  induction k with
  | zero => exact List.nodup_singleton _
  | succ k ih =>
    rw [level, List.nodup_flatMap]
    refine ⟨fun p _ => h.nodup_heldBy p, ih.imp fun {p q} hpq i hip hiq => hpq ?_⟩
    have hp := (h.mem_heldBy.1 hip).1
    rw [(h.mem_heldBy.1 hiq).1, Option.some.injEq] at hp
    exact hp.symm

/-- An entry stands on one level only. -/
theorem level_unique (h : a.Tidy []) (ha : a.Identified) {j k : Nat} (hj : i ∈ a.level j)
    (hk : i ∈ a.level k) : j = k := by
  have root_parent : a.parent? root = none := by
    obtain ⟨e, m, he, -, -, hp⟩ := ha.project
    exact (parent?_eq he).trans hp
  have root_notMem : ∀ {k}, root ∉ a.level (k + 1) := by
    intro k hroot
    obtain ⟨p, -, hp⟩ := (h.mem_level_succ ha).1 hroot
    rw [root_parent] at hp
    cases hp
  induction i using Nat.strongRecOn generalizing j k with
  | ind i ih =>
    cases j with
    | zero =>
      obtain rfl := List.mem_singleton.1 hj
      cases k with
      | zero => rfl
      | succ k => exact absurd hk root_notMem
    | succ j =>
      cases k with
      | zero =>
        obtain rfl := List.mem_singleton.1 hk
        exact absurd hj root_notMem
      | succ k =>
        obtain ⟨p, hpj, hp⟩ := (h.mem_level_succ ha).1 hj
        obtain ⟨q, hqk, hq⟩ := (h.mem_level_succ ha).1 hk
        obtain rfl : p = q := Option.some.inj (hp.symm.trans hq)
        rw [ih p (ha.parent?_lt hp) hpj hqk]

/-- Every entry is at some distance from the project, which is at most its number. -/
theorem exists_level (h : a.Tidy []) (ha : a.Identified) (hi : i < a.size) :
    ∃ k ≤ i, i ∈ a.level k := by
  induction i using Nat.strongRecOn with
  | ind i ih =>
    by_cases hne : i = root
    · exact ⟨0, Nat.zero_le _, by simp [level, hne]⟩
    · obtain ⟨p, hp, hlt⟩ := ha.exists_parent hi hne
      obtain ⟨k, hk, hpk⟩ := ih p hlt (Nat.lt_trans hlt hi)
      exact ⟨k + 1, Nat.succ_le_of_lt (Nat.lt_of_le_of_lt hk hlt),
        (h.mem_level_succ ha).2 ⟨p, hpk, hp⟩⟩

/-- The entries at all distances but zero are all entries but the project, each once. -/
theorem perm_levels (h : a.Tidy []) (ha : a.Identified) {n : Nat} (hn : a.size ≤ n) :
    ((List.range n).flatMap fun j => a.level (0 + 1 + j)).Perm (List.range' 1 (a.size - 1)) := by
  refine (List.perm_ext_iff_of_nodup ?_ List.nodup_range').2 fun i => ?_
  · rw [List.nodup_flatMap]
    refine ⟨fun j _ => h.nodup_level _, List.nodup_range.imp fun {j k} hjk i hij hik => hjk ?_⟩
    exact Nat.add_left_cancel (h.level_unique ha hij hik)
  · rw [List.mem_flatMap, List.mem_range'_1]
    have hpos : 1 ≤ a.size := ha.zero_lt_size
    constructor
    · rintro ⟨j, -, hij⟩
      have hlt := h.level_lt ha i hij
      have hne : i ≠ root := by
        rintro rfl
        have hzero : root ∈ a.level 0 := List.mem_singleton_self _
        have := h.level_unique ha hij hzero
        omega
      exact ⟨Nat.pos_of_ne_zero hne, by rwa [Nat.add_sub_cancel' hpos]⟩
    · rintro ⟨hone, hlt⟩
      rw [Nat.add_sub_cancel' hpos] at hlt
      obtain ⟨k, hk, hik⟩ := h.exists_level ha hlt
      cases k with
      | zero => exact absurd (List.mem_singleton.1 hik) (Nat.ne_of_gt hone)
      | succ k =>
        refine ⟨k, List.mem_range.2 (Nat.lt_of_lt_of_le (Nat.lt_of_lt_of_le hk ?_) hn), ?_⟩
        · exact Nat.le_of_lt hlt
        · rwa [Nat.zero_add, Nat.add_comm]

/-- In a tidy atlas with older parents everything is owned once. -/
theorem ownsOnce (h : a.Tidy []) (ha : a.Identified) : a.OwnsOnce where
  reached levels hlevels := ⟨_, h.traverseFrom_level ha levels 0, h.perm_levels ha hlevels⟩
  parent i hi := by
    obtain ⟨e, he⟩ := exists_get? hi
    refine ⟨_, h.owned_eq he, fun q hq => ?_⟩
    have hmem : q.1 ∈ e.held :=
      map_fst_slots (fun q hq => h.held_lt he hq) ▸ List.mem_map_of_mem hq
    exact ((h.mem_held i e q.1 he).1 hmem).1
  increasing := h.increasing

end Tidy

end ApiAtlas.Atlas
