import ApiAtlas.Proofs.Atlas.Chains
import ApiAtlas.Proofs.Resolution.Recommented
import Mathlib.Data.List.Nodup
import Mathlib.Data.List.Perm.Subperm

/-!
# The order of a search

A search for a path of names looks at containers one after the other and ends at the first hit. The
search outward looks at an entry and at the containers around it (`Atlas.searchOutward_eq`). The
search along first bases looks at the whole chain of bases first, and only then at what is around
them: around the last base first, and around the declaration itself at the very end
(`Atlas.searchBases_eq`).

Links that lead from one entry to at most one other are followed along a `Trail`, the list of the
entries on the way to where the links end. A trail never comes back to an entry, and there is one
exactly when the links do not (`Trail.exists_iff`). A search along first bases ends unless their
chain is circular and none of them has a hit (`Atlas.Identified.search_ok_iff`).
-/

set_option autoImplicit false

namespace ApiAtlas

/-! ## Trails -/

/-- The entries on the way from an entry to where the links end. -/
inductive Trail (next : EntryId → Option EntryId) : EntryId → List EntryId → Prop
  | last {i : EntryId} (h : next i = none) : Trail next i [i]
  | step {i j : EntryId} {l : List EntryId} (h : next i = some j) (rest : Trail next j l) :
      Trail next i (i :: l)

/-- Whether a link leads from the first entry to the second one. -/
def LeadsTo (next : EntryId → Option EntryId) (i j : EntryId) : Prop :=
  next i = some j

/-- Whether the links from an entry lead back to an entry on the way. -/
def Circular (next : EntryId → Option EntryId) (i : EntryId) : Prop :=
  ∃ b, Relation.ReflTransGen (LeadsTo next) i b ∧ Relation.TransGen (LeadsTo next) b b

namespace Trail

variable {next : EntryId → Option EntryId} {i j n : EntryId} {l l' : List EntryId}

/-- There is one way from an entry to where the links end. -/
theorem unique (h : Trail next i l) (h' : Trail next i l') : l = l' := by
  induction h generalizing l' with
  | last hnone =>
    cases h' with
    | last _ => rfl
    | step hsome _ => exact absurd (hnone.symm.trans hsome) (Option.some_ne_none _).symm
  | step hsome _ ih =>
    cases h' with
    | last hnone => exact absurd (hnone.symm.trans hsome) (Option.some_ne_none _).symm
    | step hsome' rest' =>
      obtain rfl := Option.some.inj (hsome.symm.trans hsome')
      rw [ih rest']

/-- From each entry on the way the rest of the way is left. -/
theorem exists_suffix (h : Trail next i l) (hj : j ∈ l) : ∃ l', Trail next j l' ∧ l' <:+ l := by
  induction h with
  | last hnone =>
    obtain rfl := List.mem_singleton.1 hj
    exact ⟨_, .last hnone, List.suffix_refl _⟩
  | step hsome rest ih =>
    rcases List.mem_cons.1 hj with rfl | hj
    · exact ⟨_, .step hsome rest, List.suffix_refl _⟩
    · obtain ⟨l', hl', hsuffix⟩ := ih hj
      exact ⟨l', hl', hsuffix.trans (List.suffix_cons ..)⟩

/-- A trail never comes back to an entry: the rest of the way from there would be the whole way. -/
theorem nodup (h : Trail next i l) : l.Nodup := by
  induction h with
  | last _ => exact List.nodup_singleton _
  | step hsome rest ih =>
    refine List.nodup_cons.2 ⟨fun hmem => ?_, ih⟩
    obtain ⟨l', hl', hsuffix⟩ := rest.exists_suffix hmem
    have hle := hsuffix.length_le
    rw [hl'.unique (.step hsome rest), List.length_cons] at hle
    omega

/-- What is reached by following the links is on the way. -/
theorem mem_of_reaches (h : Trail next i l) (hj : Relation.ReflTransGen (LeadsTo next) i j) :
    j ∈ l := by
  induction hj using Relation.ReflTransGen.head_induction_on generalizing l with
  | refl => cases h <;> exact List.mem_cons_self
  | head hlink _ ih =>
    cases h with
    | last hnone => exact absurd (hnone.symm.trans hlink) (Option.some_ne_none _).symm
    | step hsome rest =>
      obtain rfl := Option.some.inj (hsome.symm.trans hlink)
      exact List.mem_cons_of_mem _ (ih rest)

/-- The links from the last entry on the way lead nowhere. -/
theorem next_getLast (h : Trail next i l) (hj : l.getLast? = some j) : next j = none := by
  induction h with
  | last hnone =>
    obtain rfl := Option.some.inj hj
    exact hnone
  | step _ rest ih =>
    cases rest with
    | last _ => exact ih hj
    | step _ _ => exact ih (by rwa [List.getLast?_cons_cons] at hj)

/-- What links never leave, a trail does not leave. -/
theorem forall_mem {P : EntryId → Prop} (h : Trail next i l) (hi : P i)
    (hnext : ∀ b c, next b = some c → P c) : ∀ b ∈ l, P b := by
  induction h with
  | last _ => simpa using hi
  | step hsome rest ih => exact List.forall_mem_cons.2 ⟨hi, ih (hnext _ _ hsome)⟩

/-- A trail among the first entries is no longer than there are such entries. -/
theorem length_le (h : Trail next i l) (hi : i < n) (hnext : ∀ b c, next b = some c → c < n) :
    l.length ≤ n := by
  have hsubset : l ⊆ List.range n := fun b hb => List.mem_range.2 (h.forall_mem hi hnext b hb)
  simpa using (List.subperm_of_subset h.nodup hsubset).length_le

/-- Links to older entries end. -/
theorem exists_of_lt (hnext : ∀ b c, next b = some c → c < b) (i : EntryId) :
    ∃ l, Trail next i l := by
  induction i using Nat.strongRecOn with
  | ind i ih =>
    cases hi : next i with
    | none => exact ⟨_, .last hi⟩
    | some j =>
      obtain ⟨l, hl⟩ := ih j (hnext i j hi)
      exact ⟨_, .step hi hl⟩

/-- Links that end do not lead back to an entry on the way. -/
theorem not_circular (h : Trail next i l) : ¬Circular next i := by
  rintro ⟨b, hb, hcircle⟩
  obtain ⟨c, hlink, hback⟩ := Relation.TransGen.head'_iff.1 hcircle
  obtain ⟨l', hl', -⟩ := h.exists_suffix (h.mem_of_reaches hb)
  have hnodup := hl'.nodup
  cases hl' with
  | last hnone => exact absurd (hnone.symm.trans hlink) (Option.some_ne_none _).symm
  | step hsome rest =>
    obtain rfl := Option.some.inj (hsome.symm.trans hlink)
    exact (List.nodup_cons.1 hnodup).1 (rest.mem_of_reaches hback)

/-- Links among finitely many entries end, unless they lead back to an entry on the way. -/
theorem exists_of_not_circular (hi : i < n) (hnext : ∀ b c, next b = some c → c < n)
    (hends : ¬Circular next i) : ∃ l, Trail next i l := by
  -- Each step leaves one entry more behind, so there are fewer and fewer to go to.
  have follow : ∀ (left : Nat) (path : List EntryId) (i : EntryId), offPath n path = left →
      i < n → ¬Circular next i → (∀ p ∈ path, Relation.TransGen (LeadsTo next) p i) →
      ∃ l, Trail next i l := by
    intro left
    induction left using Nat.strongRecOn with
    | ind left ih =>
      intro path i hleft hi hends hpath
      cases hj : next i with
      | none => exact ⟨_, .last hj⟩
      | some j =>
        have hlink : LeadsTo next i j := hj
        have hnotMem : i ∉ path := fun hmem => hends ⟨i, .refl, hpath i hmem⟩
        have hlt : offPath n (i :: path) < left :=
          hleft ▸ offPath_cons_lt hi (by simpa using hnotMem)
        have hj' : ¬Circular next j := fun ⟨b, hb, hcircle⟩ => hends ⟨b, hb.head hlink, hcircle⟩
        obtain ⟨l, hl⟩ := ih _ hlt (i :: path) j rfl (hnext i j hj) hj' <| by
          intro p hp
          rcases List.mem_cons.1 hp with rfl | hp
          · exact .single hlink
          · exact (hpath p hp).tail hlink
        exact ⟨_, .step hj hl⟩
  exact follow _ [] i rfl hi hends fun _ hp => absurd hp List.not_mem_nil

/-- Among finitely many entries, the links from an entry end just when they do not lead back. -/
theorem exists_iff (hi : i < n) (hnext : ∀ b c, next b = some c → c < n) :
    (∃ l, Trail next i l) ↔ ¬Circular next i := by
  constructor
  · rintro ⟨l, hl⟩
    exact hl.not_circular
  · exact exists_of_not_circular hi hnext

end Trail

namespace Atlas

variable {a : Atlas} {i p : EntryId} {names : List String} {l bases : List EntryId} {steps : Nat}
  {around : EntryId → List EntryId}

/-! ## Outward -/

/-- Whether an entry can have children. -/
def isContainer (a : Atlas) (i : EntryId) : Bool :=
  ((a.get? i).bind (·.members?)).isSome

/-- The container that an entry belongs to. -/
def enclosing (a : Atlas) (i : EntryId) : Option EntryId :=
  (a.parent? i).filter a.isContainer

/-- The first hit of a path of names in a list of containers. -/
def firstHit (a : Atlas) (names : List String) (l : List EntryId) : Option EntryId :=
  l.findSome? fun c => a.child? c names

/-- The first hit is that of the first container, or else that of the others. -/
theorem firstHit_cons (i : EntryId) (l : List EntryId) :
    a.firstHit names (i :: l) = (a.child? i names).or (a.firstHit names l) := by
  rw [firstHit, List.findSome?_cons]
  cases a.child? i names <;> rfl

/-- The first hit in two lists is that in the first one, or else that in the second one. -/
theorem firstHit_append (l l' : List EntryId) :
    a.firstHit names (l ++ l') = (a.firstHit names l).or (a.firstHit names l') :=
  List.findSome?_append

/-- There is no hit in a list just when none of its containers has a child under the names. -/
theorem firstHit_eq_none_iff :
    a.firstHit names l = none ↔ ∀ c ∈ l, a.child? c names = none :=
  List.findSome?_eq_none_iff

/-- Every declaration can have children. -/
theorem isContainer_of_isDeclaration (h : a.isDeclaration i = true) : a.isContainer i = true := by
  obtain ⟨e, he⟩ := exists_get? (lt_of_isDeclaration h)
  obtain ⟨name, kind, flags, comment, parent, body⟩ := e
  simp only [isDeclaration, details?, isContainer, he, Option.bind_some] at h ⊢
  cases body <;> first | rfl | cases h

/-- An entry that no container holds is the project, or something else holds it. -/
theorem Identified.of_enclosing_eq_none (h : a.Identified) (hi : i < a.size)
    (hnone : a.enclosing i = none) :
    i = root ∨ ∃ p, a.parent? i = some p ∧ a.isContainer p = false := by
  by_cases hroot : i = root
  · exact .inl hroot
  · obtain ⟨p, hp, -⟩ := h.exists_parent hi hroot
    have hp : a.parent? i = some p := hp
    refine .inr ⟨p, hp, ?_⟩
    rw [enclosing, hp, Option.filter_eq_none_iff] at hnone
    simpa using hnone p rfl

/-- In an atlas with older parents, the container that an entry belongs to comes before it. -/
theorem Identified.enclosing_lt (h : a.Identified) (hp : a.enclosing i = some p) : p < i :=
  h.parent?_lt (Option.filter_eq_some_iff.1 hp).1

/-- The search outward from the entry that another one belongs to, which is a container or the
end. -/
theorem searchOutward_parent (hsteps : 0 < steps) :
    a.searchOutward names steps (a.parent? i) =
      match a.enclosing i with
      | some p => a.searchOutward names steps (some p)
      | none => .ok none := by
  obtain ⟨steps, rfl⟩ := Nat.exists_eq_succ_of_ne_zero (Nat.ne_of_gt hsteps)
  unfold enclosing
  cases a.parent? i with
  | none => rfl
  | some p =>
    cases hm : (a.get? p).bind (·.members?) with
    | none => simp [Option.filter, isContainer, searchOutward, hm]
    | some m => simp [Option.filter, isContainer, hm]

/-- The search outward finds the first hit in a container and those around it. -/
theorem searchOutward_eq (h : Trail a.enclosing i l) (hi : a.isContainer i = true)
    (hsteps : l.length < steps) :
    a.searchOutward names steps (some i) = .ok (a.firstHit names l) := by
  induction h generalizing steps with
  | @last i hnone =>
    obtain ⟨steps, rfl⟩ := Nat.exists_eq_succ_of_ne_zero (Nat.ne_of_gt (Nat.zero_lt_of_lt hsteps))
    obtain ⟨m, hm⟩ := Option.isSome_iff_exists.1 hi
    have hsteps' : 0 < steps := Nat.lt_of_succ_lt_succ hsteps
    rw [searchOutward, hm, firstHit_cons]
    cases a.child? i names with
    | some found => rfl
    | none =>
      simp only [searchOutward_parent hsteps', hnone]
      rfl
  | @step i p l hsome rest ih =>
    obtain ⟨steps, rfl⟩ := Nat.exists_eq_succ_of_ne_zero (Nat.ne_of_gt (Nat.zero_lt_of_lt hsteps))
    obtain ⟨m, hm⟩ := Option.isSome_iff_exists.1 hi
    have hsteps' : l.length < steps := Nat.lt_of_succ_lt_succ hsteps
    rw [searchOutward, hm, firstHit_cons]
    cases a.child? i names with
    | some found => rfl
    | none =>
      simp only [searchOutward_parent (Nat.zero_lt_of_lt hsteps'), hsome, Option.none_or]
      exact ih (Option.filter_eq_some_iff.1 hsome).2 hsteps'

/-- The search around an entry finds the first hit in the containers around it. -/
theorem searchAround_eq (h : Trail a.enclosing i (i :: l)) (hsteps : l.length < steps) :
    a.searchOutward names steps (a.parent? i) = .ok (a.firstHit names l) := by
  rw [searchOutward_parent (Nat.zero_lt_of_lt hsteps)]
  cases h with
  | last hnone => rw [hnone]; rfl
  | step hsome rest =>
    rw [hsome]
    exact searchOutward_eq rest (Option.filter_eq_some_iff.1 hsome).2 hsteps

/-! ## Along first bases -/

/-- The declaration that the first extended type of an entry refers to. -/
def baseOf (a : Atlas) (i : EntryId) : Option EntryId :=
  (a.details? i).bind a.firstBase?

/-- The base of an entry is a declaration. -/
theorem isDeclaration_of_baseOf (h : a.baseOf i = some p) : a.isDeclaration p = true := by
  obtain ⟨d, -, hbase⟩ := Option.bind_eq_some_iff.1 h
  unfold firstBase? at hbase
  split at hbase
  · split at hbase
    · split at hbase
      · next hdecl =>
        rw [← Option.some.inj hbase]
        exact hdecl
      · cases hbase
    · cases hbase
  · cases hbase

/-- The search from a declaration finds the first hit in the chain of its first bases and, without
one, in the containers around those, the last base first. -/
theorem searchBases_eq (h : Trail a.baseOf i bases) (hi : a.isDeclaration i = true)
    (hsteps : bases.length ≤ steps)
    (haround : ∀ b ∈ bases, Trail a.enclosing b (b :: around b) ∧ (around b).length ≤ a.size) :
    a.searchBases names steps i =
      .ok (a.firstHit names (bases ++ bases.reverse.flatMap around)) := by
  induction h generalizing steps with
  | @last i hnone =>
    obtain ⟨steps, rfl⟩ := Nat.exists_eq_succ_of_ne_zero (Nat.ne_of_gt hsteps)
    obtain ⟨d, hd⟩ := Option.isSome_iff_exists.1 hi
    obtain ⟨htrail, hlength⟩ := haround i (List.mem_singleton_self i)
    have hbase : a.firstBase? d = none := by simpa [baseOf, hd] using hnone
    rw [searchBases, hd, List.singleton_append, firstHit_cons]
    cases a.child? i names with
    | some found => rfl
    | none =>
      simp only [hbase, bind, Except.bind, Option.none_or]
      simpa using searchAround_eq htrail (Nat.lt_succ_of_le hlength)
  | @step i base bases hsome rest ih =>
    obtain ⟨steps, rfl⟩ := Nat.exists_eq_succ_of_ne_zero
      (Nat.ne_of_gt (Nat.lt_of_lt_of_le (Nat.succ_pos _) hsteps))
    obtain ⟨d, hd⟩ := Option.isSome_iff_exists.1 hi
    obtain ⟨⟨htrail, hlength⟩, hrest⟩ := List.forall_mem_cons.1 haround
    have hbase : a.firstBase? d = some base := by simpa [baseOf, hd] using hsome
    have hinherited := ih (isDeclaration_of_baseOf hsome) (Nat.le_of_succ_le_succ hsteps) hrest
    rw [searchBases, hd, List.cons_append, firstHit_cons]
    cases a.child? i names with
    | some found => rfl
    | none =>
      have hlist : bases ++ (i :: bases).reverse.flatMap around =
          bases ++ bases.reverse.flatMap around ++ around i := by
        simp
      rw [hlist, firstHit_append]
      simp only [hbase, hinherited, bind, Except.bind, Option.none_or]
      cases a.firstHit names (bases ++ bases.reverse.flatMap around) with
      | some found => rfl
      | none => exact searchAround_eq htrail (Nat.lt_succ_of_le hlength)

/-! ## Searches that end -/

/-- The base at which a search goes on: none after a hit. -/
def baseAfter (a : Atlas) (names : List String) (i : EntryId) : Option EntryId :=
  if (a.child? i names).isSome then none else a.baseOf i

/-- The base at which a search goes on is the base of the entry. -/
theorem baseOf_of_baseAfter (h : a.baseAfter names i = some p) : a.baseOf i = some p := by
  unfold baseAfter at h
  split at h
  · cases h
  · exact h

/-- A search along first bases ends when it has enough steps for the bases up to the first hit. -/
theorem Identified.searchBases_ok_iff (h : a.Identified) (hi : a.isDeclaration i = true) :
    (∃ found, a.searchBases names steps i = .ok found) ↔
      ∃ l, Trail (a.baseAfter names) i l ∧ l.length ≤ steps := by
  -- By induction on the steps: each takes one base of the way, and without steps there is no way.
  induction steps generalizing i with
  | zero =>
    apply iff_of_false
    · rintro ⟨found, hfound⟩
      cases hfound
    · rintro ⟨l, hl, hlength⟩
      cases hl <;> cases hlength
  | succ steps ih =>
    obtain ⟨d, hd⟩ := Option.isSome_iff_exists.1 hi
    have hafter : a.baseOf i = a.firstBase? d := by rw [baseOf, hd, Option.bind_some]
    -- The surroundings are asked last; they never fail, so only the bases matter.
    obtain ⟨outer, houter⟩ :
        ∃ found, a.searchOutward names (a.size + 1) (a.parent? i) = .ok found :=
      h.searchAround_ok (lt_of_isDeclaration hi)
    rw [searchBases]
    simp only [hd]
    cases hchild : a.child? i names with
    | some found =>
      have hlast : a.baseAfter names i = none := by simp [baseAfter, hchild]
      exact iff_of_true ⟨_, rfl⟩ ⟨_, .last hlast, Nat.succ_le_succ (Nat.zero_le _)⟩
    | none =>
      cases hbase : a.firstBase? d with
      | none =>
        have hlast : a.baseAfter names i = none := by simp [baseAfter, hchild, hafter, hbase]
        exact iff_of_true ⟨_, houter⟩ ⟨_, .last hlast, Nat.succ_le_succ (Nat.zero_le _)⟩
      | some base =>
        have hnext : a.baseAfter names i = some base := by
          simp [baseAfter, hchild, hafter, hbase]
        have hdecl : a.isDeclaration base = true :=
          isDeclaration_of_baseOf (baseOf_of_baseAfter hnext)
        constructor
        · rintro ⟨found, hfound⟩
          obtain ⟨inherited, hinherited, -⟩ := Except.exists_of_bind_eq_ok hfound
          obtain ⟨l, hl, hlength⟩ := (ih hdecl).1 ⟨inherited, hinherited⟩
          exact ⟨_, .step hnext hl, Nat.succ_le_succ hlength⟩
        · rintro ⟨l, hl, hlength⟩
          cases hl with
          | last hnone => exact absurd (hnone.symm.trans hnext) (Option.some_ne_none _).symm
          | step hsome rest =>
            obtain rfl := Option.some.inj (hnext.symm.trans hsome)
            obtain ⟨inherited, hinherited⟩ :=
              (ih hdecl).2 ⟨_, rest, Nat.le_of_succ_le_succ hlength⟩
            simp only [hinherited, bind, Except.bind]
            cases inherited with
            | some found => exact ⟨_, rfl⟩
            | none => exact ⟨_, houter⟩

/-- The bases up to the first hit come to an end when the chain of bases does or has a hit. -/
theorem exists_trail_baseAfter_iff :
    (∃ l, Trail (a.baseAfter names) i l) ↔ (∃ l, Trail a.baseOf i l) ∨
      ∃ b, Relation.ReflTransGen (LeadsTo a.baseOf) i b ∧ (a.child? b names).isSome = true := by
  have goOn : ∀ b c l, a.baseOf b = some c → Trail (a.baseAfter names) c l →
      ∃ l, Trail (a.baseAfter names) b l := by
    intro b c l hbase hl
    cases hhit : (a.child? b names).isSome with
    | true => exact ⟨_, .last (by simp [baseAfter, hhit])⟩
    | false => exact ⟨_, .step (by simp [baseAfter, hhit, hbase]) hl⟩
  constructor
  · rintro ⟨l, hl⟩
    induction hl with
    | @last b hnone =>
      cases hhit : (a.child? b names).isSome with
      | true => exact .inr ⟨b, .refl, hhit⟩
      | false => exact .inl ⟨_, .last (by simpa [baseAfter, hhit] using hnone)⟩
    | step hsome _ ih =>
      have hbase := baseOf_of_baseAfter hsome
      rcases ih with ⟨l, hl⟩ | ⟨b, hb, hhit⟩
      · exact .inl ⟨_, .step hbase hl⟩
      · exact .inr ⟨b, hb.head hbase, hhit⟩
  · rintro (⟨l, hl⟩ | ⟨b, hb, hhit⟩)
    · induction hl with
      | last hnone => exact ⟨_, .last (by simp [baseAfter, hnone])⟩
      | step hsome _ ih =>
        obtain ⟨l, hl⟩ := ih
        exact goOn _ _ l hsome hl
    · induction hb using Relation.ReflTransGen.head_induction_on with
      | refl => exact ⟨_, .last (by simp [baseAfter, hhit])⟩
      | head hbase _ ih =>
        obtain ⟨l, hl⟩ := ih
        exact goOn _ _ l hbase hl

/-- A search along first bases ends unless the chain of bases is circular and none of them has a
hit. -/
theorem Identified.search_ok_iff (h : a.Identified) (hi : a.isDeclaration i = true) :
    (∃ found, a.search i names true = .ok found) ↔ ¬Circular a.baseOf i ∨
      ∃ b, Relation.ReflTransGen (LeadsTo a.baseOf) i b ∧ (a.child? b names).isSome = true := by
  have hlt := lt_of_isDeclaration hi
  have hbases : ∀ b c, a.baseOf b = some c → c < a.size := fun _ _ hc =>
    lt_of_isDeclaration (isDeclaration_of_baseOf hc)
  rw [search, if_pos rfl, h.searchBases_ok_iff hi, ← Trail.exists_iff hlt hbases,
    ← exists_trail_baseAfter_iff]
  constructor
  · rintro ⟨l, hl, -⟩
    exact ⟨l, hl⟩
  · rintro ⟨l, hl⟩
    have hlength := hl.length_le hlt fun b c hc => hbases b c (baseOf_of_baseAfter hc)
    exact ⟨l, hl, Nat.le_succ_of_le hlength⟩

end Atlas

end ApiAtlas
