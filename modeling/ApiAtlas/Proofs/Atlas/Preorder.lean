import ApiAtlas.Proofs.Atlas.Chains
import Mathlib.Data.List.Nodup

/-!
# Walks in preorder

An entry, then each of the entries below it with what is below that: the order in which trees are
written and outlined. What is below an entry may be its children or all that it holds; if every
entry is below its own parent, and once, then such a walk meets no entry twice, and with enough
depth it meets everything that can be reached.
-/

set_option autoImplicit false

namespace ApiAtlas

/-- An entry and what is below it, at most `depth` levels deep. -/
def preorder (below : EntryId → List EntryId) : Nat → EntryId → List EntryId
  | 0, i => [i]
  | depth + 1, i => i :: (below i).flatMap (preorder below depth)

namespace Atlas

/-- Whether the entries below an entry belong to it and are different. -/
structure Branches (a : Atlas) (below : EntryId → List EntryId) : Prop where
  nodup : ∀ p, (below p).Nodup
  parent : ∀ p, ∀ c ∈ below p, a.IsParent p c

/-- Whether an entry is reached from another one by going down. -/
def Reaches (below : EntryId → List EntryId) : EntryId → EntryId → Prop :=
  Relation.ReflTransGen fun p c => c ∈ below p

variable {a : Atlas} {below : EntryId → List EntryId} {i j k : EntryId} {depth : Nat}

/-- A walk in preorder begins with where it starts. -/
theorem preorder_eq_cons (below : EntryId → List EntryId) (depth : Nat) (i : EntryId) :
    preorder below depth i = i :: (preorder below depth i).tail := by
  cases depth <;> rfl

/-- A walk in preorder comes by where it starts. -/
theorem mem_preorder_self (below : EntryId → List EntryId) (depth : Nat) (i : EntryId) :
    i ∈ preorder below depth i :=
  preorder_eq_cons below depth i ▸ List.mem_cons_self

/-- A walk only meets what is reached. -/
theorem reaches_of_mem_preorder (h : j ∈ preorder below depth i) : Reaches below i j := by
  induction depth generalizing i with
  | zero => exact List.mem_singleton.1 h ▸ .refl
  | succ depth ih =>
    rcases List.mem_cons.1 h with rfl | h
    · exact .refl
    · obtain ⟨c, hc, hj⟩ := List.mem_flatMap.1 h
      exact .head hc (ih hj)

/-- What belongs to an entry, directly or through others, is not older. -/
theorem Identified.le_of_chain (h : a.Identified)
    (hij : Relation.ReflTransGen a.IsParent i j) : i ≤ j := by
  induction hij with
  | refl => exact Nat.le_refl _
  | tail _ hp ih => exact Nat.le_of_lt (Nat.lt_of_le_of_lt ih (h.parent?_lt hp))

/-- Of two entries around a third one, one is around the other. -/
theorem chain_total (hik : Relation.ReflTransGen a.IsParent i k)
    (hjk : Relation.ReflTransGen a.IsParent j k) :
    Relation.ReflTransGen a.IsParent i j ∨ Relation.ReflTransGen a.IsParent j i := by
  have hunique : Relator.RightUnique (Function.swap a.IsParent) := fun _ _ _ hp hq =>
    Option.some.inj (hp.symm.trans hq)
  exact (Relation.ReflTransGen.total_of_right_unique hunique hik.swap hjk.swap).symm.imp
    (·.swap) (·.swap)

namespace Branches

/-- What is reached belongs to what it is reached from. -/
theorem chain (h : a.Branches below) (hij : Reaches below i j) :
    Relation.ReflTransGen a.IsParent i j :=
  Relation.ReflTransGen.mono h.parent _ _ hij

/-- What is reached from an entry is not older than the entry. -/
theorem le (h : a.Branches below) (ha : a.Identified) (hij : Reaches below i j) : i ≤ j :=
  ha.le_of_chain (h.chain hij)

/-- A walk that is deep enough meets what is reached. -/
theorem mem_preorder (h : a.Branches below) (ha : a.Identified) (hij : Reaches below i j)
    (hdepth : j ≤ i + depth) : j ∈ preorder below depth i := by
  induction depth generalizing i with
  | zero => exact Nat.le_antisymm (h.le ha hij) hdepth ▸ mem_preorder_self ..
  | succ depth ih =>
    rcases hij.cases_head with rfl | ⟨c, hc, hcj⟩
    · exact mem_preorder_self ..
    · have hlt := ha.parent?_lt (h.parent i c hc)
      refine List.mem_cons_of_mem _ (List.mem_flatMap.2 ⟨c, hc, ih hcj ?_⟩)
      exact Nat.le_trans hdepth
        (Nat.succ_add_eq_add_succ i depth ▸ Nat.add_le_add_right hlt depth)

/-- What is reached from an entry is not reached from another one with the same parent. -/
theorem eq_of_reaches (h : a.Branches below) (ha : a.Identified) {c d : EntryId}
    (hc : c ∈ below i) (hd : d ∈ below i) (hcj : Reaches below c j) (hdj : Reaches below d j) :
    c = d := by
  -- If one belonged to the other, it would be around their parent, which is older.
  have around : ∀ {c d : EntryId}, c ∈ below i → d ∈ below i →
      Relation.ReflTransGen a.IsParent c d → c = d := by
    intro c d hc hd hcd
    rcases hcd.cases_tail with heq | ⟨p, hcp, hpd⟩
    · exact heq.symm
    · obtain rfl : i = p := Option.some.inj ((h.parent i d hd).symm.trans hpd)
      exact absurd (ha.parent?_lt (h.parent i c hc)) (Nat.not_lt.2 (ha.le_of_chain hcp))
  rcases chain_total (h.chain hcj) (h.chain hdj) with hcd | hdc
  · exact around hc hd hcd
  · exact (around hd hc hdc).symm

/-- A walk meets no entry twice. -/
theorem nodup_preorder (h : a.Branches below) (ha : a.Identified) (depth : Nat) (i : EntryId) :
    (preorder below depth i).Nodup := by
  induction depth generalizing i with
  | zero => exact List.nodup_singleton i
  | succ depth ih =>
    refine List.nodup_cons.2 ⟨fun hmem => ?_, List.nodup_flatMap.2 ⟨fun c _ => ih c, ?_⟩⟩
    · obtain ⟨c, hc, hi⟩ := List.mem_flatMap.1 hmem
      have hle := h.le ha (reaches_of_mem_preorder hi)
      exact absurd (ha.parent?_lt (h.parent i c hc)) (Nat.not_lt.2 hle)
    · refine (h.nodup i).imp_of_mem fun {c d} hc hd hne j hjc hjd => hne ?_
      exact h.eq_of_reaches ha hc hd (reaches_of_mem_preorder hjc) (reaches_of_mem_preorder hjd)

end Branches

end Atlas

end ApiAtlas
