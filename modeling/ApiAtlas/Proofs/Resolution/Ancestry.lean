import ApiAtlas.Proofs.Resolution.Levels
import Mathlib.Order.Bounds.Basic

/-!
# Ancestors by distance

The ways up from a declaration lead from base to base (`Atlas.Way`). The level on which an entry
stands is the length of the shortest way to it (`Atlas.mem_levelAt_iff`), so the ancestors are
listed by their distance. The search that looks at what a level extends until it meets nothing new
ends, whatever extends what, with the ancestors and nothing else (`Atlas.searches_iff`). From the
ancestors follows what the interfaces of a declaration are (`Atlas.ancestors_by_distance`).
-/

set_option autoImplicit false

namespace ApiAtlas

namespace Atlas

variable {a : Atlas} {d i p q : EntryId} {k top : Nat}

/-- Whether a declaration extends another one, by a type with this target. -/
def IsBase (a : Atlas) (p q : EntryId) : Prop :=
  ∃ details, a.details? p = some details ∧
    ∃ t ∈ details.extended, t.target? = some q ∧ a.isDeclaration q = true

/-- Whether a declaration implements another one, by a type with this target. -/
def IsInterface (a : Atlas) (p q : EntryId) : Prop :=
  ∃ details, a.details? p = some details ∧
    ∃ t ∈ details.implemented, t.target? = some q ∧ a.isDeclaration q = true

/-- Whether a way of some length leads up from a declaration to an entry, from base to base. -/
inductive Way (a : Atlas) (d : EntryId) : Nat → EntryId → Prop where
  | here : Way a d 0 d
  | up {k : Nat} {p q : EntryId} (way : Way a d k p) (base : a.IsBase p q) : Way a d (k + 1) q

/-- The length of the shortest way up from a declaration to an entry. -/
noncomputable def distance (a : Atlas) (d i : EntryId) : Nat :=
  sInf {k | a.Way d k i}

/-- What a declaration extends is a declaration. -/
theorem IsBase.isDeclaration (h : a.IsBase p q) : a.isDeclaration q = true := by
  obtain ⟨_, _, _, _, _, hq⟩ := h
  exact hq

/-- What a declaration implements is a declaration. -/
theorem IsInterface.isDeclaration (h : a.IsInterface p q) : a.isDeclaration q = true := by
  obtain ⟨_, _, _, _, _, hq⟩ := h
  exact hq

/-- The target of a type in an atlas is its target if that is a declaration. -/
theorem target?_eq_some {t : Ty} :
    a.target? t = some q ↔ t.target? = some q ∧ a.isDeclaration q = true := by
  unfold target?
  cases t.target? with
  | none => simp
  | some r =>
    simp only [Option.ite_none_right_eq_some, Option.some.injEq]
    constructor
    · rintro ⟨hr, rfl⟩
      exact ⟨rfl, hr⟩
    · rintro ⟨rfl, hr⟩
      exact ⟨hr, rfl⟩

/-- The bases of a declaration are those that it extends. -/
theorem mem_bases_iff : q ∈ a.bases p ↔ a.IsBase p q := by
  unfold bases IsBase
  cases a.details? p <;> simp [target?_eq_some]

/-- The interfaces of a declaration are those that it implements. -/
theorem mem_interfaces_iff : q ∈ a.interfaces p ↔ a.IsInterface p q := by
  unfold interfaces IsInterface
  cases a.details? p <;> simp [target?_eq_some]

/-! ## Ways and levels -/

/-- A way as long as its level leads up to each entry of a level. -/
theorem Way.of_mem_levelAt (h : i ∈ a.levelAt d k) : a.Way d k i := by
  induction k generalizing i with
  | zero =>
    rw [levelAt_zero, List.mem_singleton] at h
    exact h ▸ .here
  | succ k ih =>
    obtain ⟨⟨p, hp, hbase⟩, -⟩ := mem_nextLevel.1 h
    exact (ih hp).up (mem_bases_iff.1 hbase)

/-- What a way leads to is met on a level that is not above the length of the way. -/
theorem Way.mem_seenAt (h : a.Way d k i) : i ∈ a.seenAt d k := by
  induction h with
  | here => exact List.mem_singleton_self d
  | @up k p q _ base ih =>
    obtain ⟨j, hj, hp⟩ := Atlas.mem_seenAt.1 ih
    by_cases hq : q ∈ a.seenAt d j
    · obtain ⟨m, hm, hq⟩ := Atlas.mem_seenAt.1 hq
      exact Atlas.mem_seenAt.2 ⟨m, by omega, hq⟩
    · have hnext : q ∈ a.levelAt d (j + 1) :=
        mem_nextLevel.2 ⟨⟨p, hp, mem_bases_iff.2 base⟩, hq⟩
      exact Atlas.mem_seenAt.2 ⟨j + 1, by omega, hnext⟩

/-- No entry is on two levels. -/
theorem level_unique {m : Nat} (hk : i ∈ a.levelAt d k) (hm : i ∈ a.levelAt d m) : k = m := by
  have hbelow : ∀ {k m : Nat}, i ∈ a.levelAt d k → i ∈ a.levelAt d m → ¬ k < m := by
    intro k m hk hm hlt
    obtain ⟨m, rfl⟩ := Nat.exists_eq_succ_of_ne_zero (Nat.ne_zero_of_lt hlt)
    exact (mem_nextLevel.1 hm).2 (mem_seenAt.2 ⟨k, by omega, hk⟩)
  have := hbelow hk hm
  have := hbelow hm hk
  omega

/-- The level of an entry is the length of the shortest way to it. -/
theorem mem_levelAt_iff : i ∈ a.levelAt d k ↔ IsLeast {n | a.Way d n i} k := by
  constructor
  · intro hi
    refine ⟨.of_mem_levelAt hi, fun n hway => ?_⟩
    obtain ⟨j, hj, hij⟩ := mem_seenAt.1 hway.mem_seenAt
    exact level_unique hi hij ▸ hj
  · rintro ⟨hway, hleast⟩
    obtain ⟨j, hj, hij⟩ := mem_seenAt.1 hway.mem_seenAt
    have hk : k ≤ j := hleast (.of_mem_levelAt hij)
    obtain rfl : j = k := by omega
    exact hij

/-- The distance to an entry of a level is the level. -/
theorem distance_eq (h : i ∈ a.levelAt d k) : a.distance d i = k :=
  (mem_levelAt_iff.1 h).csInf_eq

/-! ## The search ends -/

/-- The search from a state on: what has been seen, what has been listed, and the level that is
looked at next. It ends at a level without entries with what has been listed. -/
inductive Searches (a : Atlas) :
    List EntryId → List EntryId → List EntryId → List EntryId → Prop where
  | done (seen ordered : List EntryId) : Searches a seen ordered [] ordered
  | round {seen ordered level seen' next found : List EntryId} (hlevel : level ≠ [])
      (hround : (level.flatMap a.bases).foldl meet (seen, []) = (seen', next))
      (rest : Searches a seen' (ordered ++ next) next found) : Searches a seen ordered level found

/-- A search has one result. -/
theorem Searches.unique {seen ordered level found other : List EntryId}
    (h : a.Searches seen ordered level found) (h' : a.Searches seen ordered level other) :
    found = other := by
  induction h generalizing other with
  | done =>
    cases h' with
    | done => rfl
    | round hlevel => exact absurd rfl hlevel
  | round hlevel hround _ ih =>
    cases h' with
    | done => exact absurd rfl hlevel
    | round _ hround' rest' =>
      cases hround.symm.trans hround'
      exact ih rest'

/-- From each level on, the search ends after the topmost one. -/
theorem searches_levelAt (htop : ∀ k, a.levelAt d k = [] ↔ top < k) (rest : Nat)
    (hrest : k + rest = top) (ordered : List EntryId) :
    a.Searches (a.seenAt d k) ordered (a.levelAt d k)
      (ordered ++ (List.range' (k + 1) rest).flatMap (a.levelAt d)) := by
  have hlevel : ∀ k ≤ top, a.levelAt d k ≠ [] := fun k hk hnil =>
    absurd ((htop k).1 hnil) (Nat.not_lt.2 hk)
  induction rest generalizing k ordered with
  | zero =>
    have hnext : a.levelAt d (k + 1) = [] := (htop (k + 1)).2 (by omega)
    refine .round (hlevel k (by omega)) (foldl_meet a _ _) ?_
    rw [← levelAt_succ, hnext, List.append_nil]
    exact .done _ _
  | succ rest ih =>
    refine .round (hlevel k (by omega)) (foldl_meet a _ _) ?_
    rw [List.range'_succ, List.flatMap_cons, ← List.append_assoc]
    exact ih (k := k + 1) (by omega) _

/-- The search ends, and what it finds are the ancestors. -/
theorem searches_iff (hd : d < a.size) {found : List EntryId} :
    a.Searches [d] [] [d] found ↔ found = a.ancestors d := by
  obtain ⟨top, hsize, htop⟩ := exists_top hd
  have hancestors : a.ancestors d = [] ++ (List.range' (0 + 1) top).flatMap (a.levelAt d) := by
    rw [ancestors_eq htop hsize, List.nil_append, List.range'_eq_map_range, List.flatMap_map]
    simp only [Nat.add_comm]
  have hsearch : a.Searches [d] [] [d] (a.ancestors d) :=
    hancestors ▸ searches_levelAt (k := 0) htop top (Nat.zero_add top) []
  exact ⟨fun h => h.unique hsearch, fun h => h ▸ hsearch⟩

/-! ## What is listed -/

/-- A base is reached from base to base just when ways of bases lead there. -/
theorem reflTransGen_bases :
    Relation.ReflTransGen (fun p q => q ∈ a.bases p) d i ↔ Relation.ReflTransGen a.IsBase d i := by
  have heq : (fun p q => q ∈ a.bases p) = a.IsBase := by
    funext p q
    exact propext mem_bases_iff
  rw [heq]

/-- The ancestors are the declarations that are reached through bases, other than the declaration
itself. -/
theorem mem_ancestors_iff_reaches (hd : d < a.size) : i ∈ a.ancestors d ↔
    a.isDeclaration i = true ∧ i ≠ d ∧ Relation.ReflTransGen a.IsBase d i := by
  rw [mem_ancestors_iff hd, reflTransGen_bases]
  constructor
  · rintro ⟨hreach, hne⟩
    rcases hreach.cases_tail with rfl | ⟨p, -, hbase⟩
    · exact absurd rfl hne
    · exact ⟨hbase.isDeclaration, hne, hreach⟩
  · rintro ⟨-, hne, hreach⟩
    exact ⟨hreach, hne⟩

/-- A declaration and its ancestors are what is reached from it. -/
theorem mem_cons_ancestors_iff (hd : d < a.size) :
    i ∈ d :: a.ancestors d ↔ Relation.ReflTransGen a.IsBase d i := by
  rw [List.mem_cons, mem_ancestors_iff hd, reflTransGen_bases]
  constructor
  · rintro (rfl | ⟨hreach, -⟩)
    · exact .refl
    · exact hreach
  · intro hreach
    by_cases hi : i = d
    · exact .inl hi
    · exact .inr ⟨hreach, hi⟩

/-- No ancestor is listed twice. -/
theorem nodup_ancestors (hd : d < a.size) : (a.ancestors d).Nodup := by
  obtain ⟨top, hsize, htop⟩ := exists_top hd
  rw [ancestors_eq htop hsize, List.nodup_flatMap]
  refine ⟨fun k _ => List.nodup_eraseDups _, List.pairwise_lt_range.imp ?_⟩
  intro k m hlt i hk hm
  have := level_unique hk hm
  omega

/-- Ancestors are listed by distance. -/
theorem pairwise_distance_ancestors (hd : d < a.size) :
    (a.ancestors d).Pairwise fun i j => a.distance d i ≤ a.distance d j := by
  obtain ⟨top, hsize, htop⟩ := exists_top hd
  rw [ancestors_eq htop hsize, List.pairwise_flatMap]
  constructor
  · intro k _
    refine List.pairwise_of_forall_mem_list fun i hi j hj => ?_
    rw [distance_eq hi, distance_eq hj]
  · refine List.pairwise_lt_range.imp ?_
    intro k m hlt i hi j hj
    rw [distance_eq hi, distance_eq hj]
    omega

/-- All interfaces of a declaration are those that it or an ancestor implements, and their
ancestors. -/
theorem mem_allInterfaces_iff (hd : d < a.size) : i ∈ a.allInterfaces d ↔
    ∃ o t, Relation.ReflTransGen a.IsBase d o ∧ a.IsInterface o t ∧
      Relation.ReflTransGen a.IsBase t i := by
  simp only [allInterfaces, List.mem_eraseDups, List.mem_flatMap, mem_cons_ancestors_iff hd,
    mem_interfaces_iff]
  constructor
  · rintro ⟨t, ⟨o, ho, ht⟩, hi⟩
    exact ⟨o, t, ho, ht, (mem_cons_ancestors_iff (lt_of_isDeclaration ht.isDeclaration)).1 hi⟩
  · rintro ⟨o, t, ho, ht, hi⟩
    exact ⟨t, ⟨o, ho, ht⟩, (mem_cons_ancestors_iff (lt_of_isDeclaration ht.isDeclaration)).2 hi⟩

/-- The search for the ancestors of a declaration ends, also where declarations extend each other
in a circle. The ancestors are the declarations other than itself that are reached from it through
bases, each once and by their distance; its interfaces, each once, are the targets of what it and
its ancestors implement, with the ancestors of these. -/
theorem ancestors_by_distance (a : Atlas) {d : EntryId} (hd : a.isDeclaration d = true) :
    (∀ found, a.Searches [d] [] [d] found ↔ found = a.ancestors d) ∧
    (∀ i, i ∈ a.ancestors d ↔
      a.isDeclaration i = true ∧ i ≠ d ∧ Relation.ReflTransGen a.IsBase d i) ∧
    (a.ancestors d).Nodup ∧
    (a.ancestors d).Pairwise (fun i j => a.distance d i ≤ a.distance d j) ∧
    (∀ i, i ∈ a.allInterfaces d ↔ ∃ o t, Relation.ReflTransGen a.IsBase d o ∧
      a.IsInterface o t ∧ Relation.ReflTransGen a.IsBase t i) ∧
    (a.allInterfaces d).Nodup := by
  have hsize := lt_of_isDeclaration hd
  exact ⟨fun _ => searches_iff hsize, fun _ => mem_ancestors_iff_reaches hsize,
    nodup_ancestors hsize, pairwise_distance_ancestors hsize,
    fun _ => mem_allInterfaces_iff hsize, List.nodup_eraseDups _⟩

/-- A class in a diamond that is also a circle. One of its bases implements an interface, which
extends another one. -/
theorem circular_diamond_by_distance :
    let named (s : String) : Source.TypeExpr :=
      { form := .reference, name := some s, symbol := some s }
    let extending (kind : Source.DeclKind) (s : String) (bases interfaces : List String) :
        Source.Decl :=
      { kind := kind, name := some s, symbol := some s, bases := bases.map named,
        interfaces := interfaces.map named }
    let file : Source.File :=
      { name := "a.ts",
        decls := [extending .class "A" ["B", "Missing", "C"] [], extending .class "B" ["D"] ["I"],
          extending .class "C" ["D", "A"] [], extending .class "D" [] ["J"],
          extending .interface "I" ["J"] [], extending .interface "J" [] []] }
    ∃ d r, Program.convert {} [file] = .ok (d, r) ∧ r.atlas.isDeclaration 1 = true ∧
      r.atlas.ancestors 1 = [2, 3, 4] ∧ r.atlas.allInterfaces 1 = [5, 6] ∧
      (∀ found, r.atlas.Searches [1] [] [1] found ↔ found = r.atlas.ancestors 1) ∧
      (∀ i, i ∈ r.atlas.ancestors 1 ↔
        r.atlas.isDeclaration i = true ∧ i ≠ 1 ∧ Relation.ReflTransGen r.atlas.IsBase 1 i) ∧
      (r.atlas.ancestors 1).Nodup ∧
      (r.atlas.ancestors 1).Pairwise (fun i j => r.atlas.distance 1 i ≤ r.atlas.distance 1 j) ∧
      (∀ i, i ∈ r.atlas.allInterfaces 1 ↔ ∃ o t, Relation.ReflTransGen r.atlas.IsBase 1 o ∧
        r.atlas.IsInterface o t ∧ Relation.ReflTransGen r.atlas.IsBase t i) ∧
      (r.atlas.allInterfaces 1).Nodup := by
  intro named extending file
  have hmade : (Program.convert {} [file]).toOption.map (fun made =>
      (made.2.atlas.isDeclaration 1, made.2.atlas.ancestors 1, made.2.atlas.allInterfaces 1)) =
      some (true, [2, 3, 4], [5, 6]) := by
    decide +kernel
  obtain ⟨d, r, hconvert, hmade⟩ := Program.exists_convert hmade
  obtain ⟨hdecl, hfound⟩ := Prod.mk.inj hmade
  obtain ⟨hancestors, hinterfaces⟩ := Prod.mk.inj hfound
  exact ⟨d, r, hconvert, hdecl, hancestors, hinterfaces, ancestors_by_distance r.atlas hdecl⟩

end Atlas

end ApiAtlas
