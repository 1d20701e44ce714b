import ApiAtlas.Proofs.Resolution.Mirrored
import ApiAtlas.Proofs.Resolution.Origins
import Mathlib.Data.List.Perm.Subperm
import Mathlib.Data.Nat.Find

/-!
# Levels of ancestors

The ancestors of a declaration stand in levels: on each level those that are first reached from the
level below it (`Atlas.Climbs`). No entry is on two levels, so the levels end, also where
declarations extend each other in a circle. One after the other they are all that is reached through
bases (`Atlas.mem_ancestors_iff`), in the order in which a search meets them that looks at one base
at a time (`Atlas.ancestors_eq_searchUp`). The type hierarchy of a class or an interface has one
layer for each level that extends something (`convert_hierarchy`).
-/

set_option autoImplicit false

namespace ApiAtlas

namespace Atlas

variable {a b : Atlas} {d i : EntryId} {k top : Nat} {links : Array Links}

/-- Whether some lists are the levels above a declaration: the declaration itself, and then on each
level the bases of the level before, in order, that have not been met yet. -/
structure Climbs (a : Atlas) (d : EntryId) (level : Nat → List EntryId) : Prop where
  start : level 0 = [d]
  next : ∀ k, level (k + 1) =
    (((level k).flatMap a.bases).filter fun i => ∀ j ≤ k, i ∉ level j).eraseDups

/-- What has been seen when a level above a declaration is complete, and the level. -/
def climb (a : Atlas) (d : EntryId) : Nat → List EntryId × List EntryId
  | 0 => ([d], [d])
  | k + 1 =>
    let next := a.nextLevel (a.climb d k).1 (a.climb d k).2
    ((a.climb d k).1 ++ next, next)

/-- What has been seen when a level above a declaration is complete. -/
def seenAt (a : Atlas) (d : EntryId) (k : Nat) : List EntryId :=
  (a.climb d k).1

/-- A level above a declaration. -/
def levelAt (a : Atlas) (d : EntryId) (k : Nat) : List EntryId :=
  (a.climb d k).2

/-- The declaration itself is what has been seen at first. -/
@[simp]
theorem seenAt_zero (a : Atlas) (d : EntryId) : a.seenAt d 0 = [d] := rfl

/-- The lowest level is the declaration itself. -/
@[simp]
theorem levelAt_zero (a : Atlas) (d : EntryId) : a.levelAt d 0 = [d] := rfl

/-- What has been seen after one more level is what was seen before and that level. -/
theorem seenAt_succ (a : Atlas) (d : EntryId) (k : Nat) :
    a.seenAt d (k + 1) = a.seenAt d k ++ a.levelAt d (k + 1) := rfl

/-- The next level is made of the bases of a level that have not been seen. -/
theorem levelAt_succ (a : Atlas) (d : EntryId) (k : Nat) :
    a.levelAt d (k + 1) = a.nextLevel (a.seenAt d k) (a.levelAt d k) := rfl

/-- On the next level are the bases of a level that have not been seen. -/
theorem mem_nextLevel {seen level : List EntryId} : i ∈ a.nextLevel seen level ↔
    (∃ j ∈ level, i ∈ a.bases j) ∧ i ∉ seen := by
  simp [nextLevel]

/-- What has been seen is what is on some level so far. -/
theorem mem_seenAt : i ∈ a.seenAt d k ↔ ∃ j ≤ k, i ∈ a.levelAt d j := by
  induction k with
  | zero => simp
  | succ k ih =>
    rw [seenAt_succ, List.mem_append, ih]
    constructor
    · rintro (⟨j, hj, hi⟩ | hi)
      · exact ⟨j, by omega, hi⟩
      · exact ⟨k + 1, by omega, hi⟩
    · rintro ⟨j, hj, hi⟩
      by_cases hlast : j = k + 1
      · exact .inr (hlast ▸ hi)
      · exact .inl ⟨j, by omega, hi⟩

/-- The search climbs level by level. -/
theorem climbs_levelAt (a : Atlas) (d : EntryId) : a.Climbs d (a.levelAt d) where
  start := rfl
  next k := by
    rw [levelAt_succ, nextLevel]
    congr 2
    funext i
    have hseen := mem_seenAt (a := a) (d := d) (i := i) (k := k)
    by_cases hi : i ∈ a.seenAt d k <;> simp_all

/-! ## The levels end -/

/-- Nothing is seen twice. -/
theorem nodup_seenAt (a : Atlas) (d : EntryId) (k : Nat) : (a.seenAt d k).Nodup := by
  induction k with
  | zero => simp
  | succ k ih =>
    have hnext : (a.levelAt d (k + 1)).Nodup := List.nodup_eraseDups _
    have hnew : ∀ i ∈ a.levelAt d (k + 1), i ∉ a.seenAt d k := fun i hi => (mem_nextLevel.1 hi).2
    rw [seenAt_succ, List.nodup_append]
    refine ⟨ih, hnext, ?_⟩
    rintro i hi j hj rfl
    exact hnew i hj hi

/-- What is seen is in the atlas. -/
theorem seenAt_subset (hd : d < a.size) (k : Nat) : a.seenAt d k ⊆ List.range a.size := by
  intro i hi
  rw [List.mem_range]
  obtain ⟨j, -, hi⟩ := mem_seenAt.1 hi
  cases j with
  | zero =>
    rw [levelAt_zero, List.mem_singleton] at hi
    exact hi ▸ hd
  | succ j =>
    obtain ⟨⟨p, -, hbase⟩, -⟩ := mem_nextLevel.1 hi
    obtain ⟨t, -, ht⟩ := List.mem_filterMap.1 hbase
    exact lt_of_isDeclaration (isDeclaration_of_target? ht)

/-- Above a level without entries there are none. -/
theorem levelAt_eq_nil_of_le (h : a.levelAt d k = []) {m : Nat} (hkm : k ≤ m) :
    a.levelAt d m = [] := by
  induction m, hkm using Nat.le_induction with
  | base => exact h
  | succ m _ ih =>
    rw [levelAt_succ, ih]
    rfl

/-- Every level adds to what has been seen. -/
theorem lt_length_seenAt (h : a.levelAt d k ≠ []) : k < (a.seenAt d k).length := by
  induction k with
  | zero => simp
  | succ k ih =>
    have hbefore : a.levelAt d k ≠ [] :=
      fun hnil => h (levelAt_eq_nil_of_le hnil (Nat.le_succ k))
    have hlength := ih hbefore
    have hlevel : 0 < (a.levelAt d (k + 1)).length := List.length_pos_of_ne_nil h
    rw [seenAt_succ, List.length_append]
    omega

/-- There are not more levels than entries. -/
theorem lt_size_of_levelAt (hd : d < a.size) (h : a.levelAt d k ≠ []) : k < a.size := by
  have hlength := lt_length_seenAt h
  have hbound := (List.subperm_of_subset (a.nodup_seenAt d k) (seenAt_subset hd k)).length_le
  rw [List.length_range] at hbound
  omega

/-- There is a topmost level. -/
theorem exists_top (hd : d < a.size) :
    ∃ top, top < a.size ∧ ∀ k, a.levelAt d k = [] ↔ top < k := by
  have hends : ∃ k, a.levelAt d k = [] := by
    refine ⟨a.size, ?_⟩
    by_contra hne
    exact Nat.lt_irrefl _ (lt_size_of_levelAt hd hne)
  classical
  have hfirst := Nat.find_spec hends
  have hpos : Nat.find hends ≠ 0 := by
    intro hzero
    rw [hzero, levelAt_zero] at hfirst
    cases hfirst
  obtain ⟨top, htop⟩ := Nat.exists_eq_succ_of_ne_zero hpos
  have hlast : a.levelAt d top ≠ [] := Nat.find_min hends (by omega)
  refine ⟨top, lt_size_of_levelAt hd hlast, fun k => ⟨fun hk => ?_, fun hk => ?_⟩⟩
  · by_contra hle
    exact hlast (levelAt_eq_nil_of_le hk (by omega))
  · exact levelAt_eq_nil_of_le hfirst (by omega)

/-! ## The search -/

/-- From each level on, the search finds the levels up to the topmost one, if it takes enough
steps. -/
theorem levelsFrom_eq (htop : ∀ k, a.levelAt d k = [] ↔ top < k) {steps : Nat}
    (hsteps : top < k + steps) : a.levelsFrom steps (a.seenAt d k) (a.levelAt d k) =
      (List.range' k (top + 1 - k)).map (a.levelAt d) := by
  induction steps generalizing k with
  | zero =>
    have hover : top + 1 - k = 0 := by omega
    rw [hover]
    rfl
  | succ steps ih =>
    cases hlevel : a.levelAt d k with
    | nil =>
      have hover : top + 1 - k = 0 := by
        have := (htop k).1 hlevel
        omega
      rw [hover]
      rfl
    | cons i level =>
      have hle : ¬top < k := by
        rw [← htop, hlevel]
        exact List.cons_ne_nil i level
      have hcount : top + 1 - k = (top + 1 - (k + 1)) + 1 := by omega
      rw [hcount, List.range'_succ, List.map_cons, levelsFrom, hlevel]
      refine congrArg ((i :: level) :: ·) ?_
      have hrest := ih (k := k + 1) (by omega)
      rwa [seenAt_succ, levelAt_succ, hlevel] at hrest

/-- The levels that are found are all those up to the top. -/
theorem levels_eq (htop : ∀ k, a.levelAt d k = [] ↔ top < k)
    (hsize : top < a.size) : a.levels d = (List.range (top + 1)).map (a.levelAt d) := by
  have hfound : a.levelsFrom (a.size + 1) (a.seenAt d 0) (a.levelAt d 0) =
      (List.range' 0 (top + 1)).map (a.levelAt d) := levelsFrom_eq htop (by omega)
  rw [List.range_eq_range']
  exact hfound

/-- The ancestors are the levels above a declaration, one after the other. -/
theorem ancestors_eq (htop : ∀ k, a.levelAt d k = [] ↔ top < k) (hsize : top < a.size) :
    a.ancestors d = (List.range top).flatMap fun k => a.levelAt d (k + 1) := by
  rw [ancestors, levels_eq htop hsize, List.range_succ_eq_map, List.map_cons, List.tail_cons,
    List.map_map, List.flatMap]
  rfl

/-- The ancestors are the entries that are reached through bases, other than the declaration
itself. -/
theorem mem_ancestors_iff (hd : d < a.size) : i ∈ a.ancestors d ↔
    Relation.ReflTransGen (fun p q => q ∈ a.bases p) d i ∧ i ≠ d := by
  obtain ⟨top, hsize, htop⟩ := exists_top hd
  have hends : a.levelAt d (top + 1) = [] := (htop (top + 1)).2 (Nat.lt_succ_self top)
  have hup : ∀ k, ∀ j ∈ a.levelAt d k, Relation.ReflTransGen (fun p q => q ∈ a.bases p) d j := by
    intro k
    induction k with
    | zero =>
      intro j hj
      rw [List.mem_singleton.1 hj]
    | succ k ih =>
      intro j hj
      obtain ⟨⟨p, hp, hbase⟩, -⟩ := mem_nextLevel.1 hj
      exact (ih p hp).tail hbase
  -- What is on the topmost level has no base that was not seen before.
  have hclosed : ∀ p q, p ∈ a.seenAt d top → q ∈ a.bases p → q ∈ a.seenAt d top := by
    intro p q hp hbase
    obtain ⟨j, hj, hpj⟩ := mem_seenAt.1 hp
    by_contra hnew
    have hearly : q ∉ a.seenAt d j := by
      intro hq
      obtain ⟨m, hm, hqm⟩ := mem_seenAt.1 hq
      exact hnew (mem_seenAt.2 ⟨m, by omega, hqm⟩)
    have hnext : q ∈ a.levelAt d (j + 1) := mem_nextLevel.2 ⟨⟨p, hpj, hbase⟩, hearly⟩
    by_cases hlast : j = top
    · rw [hlast, hends] at hnext
      cases hnext
    · exact hnew (mem_seenAt.2 ⟨j + 1, by omega, hnext⟩)
  rw [ancestors_eq htop hsize]
  constructor
  · intro hi
    obtain ⟨k, -, hk⟩ := List.mem_flatMap.1 hi
    refine ⟨hup (k + 1) i hk, ?_⟩
    rintro rfl
    exact (mem_nextLevel.1 hk).2 (mem_seenAt.2 ⟨0, Nat.zero_le k, List.mem_singleton_self i⟩)
  · rintro ⟨hreach, hne⟩
    have hseen : i ∈ a.seenAt d top := by
      clear hne
      induction hreach with
      | refl => exact mem_seenAt.2 ⟨0, Nat.zero_le top, List.mem_singleton_self d⟩
      | tail _ hbase ih => exact hclosed _ _ ih hbase
    obtain ⟨j, hj, hij⟩ := mem_seenAt.1 hseen
    cases j with
    | zero => exact absurd (List.mem_singleton.1 hij) hne
    | succ j => exact List.mem_flatMap.2 ⟨j, List.mem_range.2 (by omega), hij⟩

/-! ## One base at a time -/

/-- What has been seen and what is on the next level, after one more base. -/
def meet (s : List EntryId × List EntryId) (i : EntryId) : List EntryId × List EntryId :=
  if s.1.contains i then s else (s.1 ++ [i], s.2 ++ [i])

/-- A search that looks at the bases of a level one at a time and lists in order what it has not
seen, at most `steps` levels. -/
def searchUp (a : Atlas) : Nat → List EntryId → List EntryId → List EntryId → List EntryId
  | 0, _, ordered, _ => ordered
  | _ + 1, _, ordered, [] => ordered
  | steps + 1, seen, ordered, i :: level =>
    let met := ((i :: level).flatMap a.bases).foldl meet (seen, [])
    a.searchUp steps met.1 (ordered ++ met.2) met.2

/-- Looking at the bases one at a time gives the next level. -/
theorem foldl_meet (a : Atlas) (seen level : List EntryId) :
    (level.flatMap a.bases).foldl meet (seen, []) =
      (seen ++ a.nextLevel seen level, a.nextLevel seen level) := by
  rw [nextLevel]
  induction level.flatMap a.bases using List.reverseRecOn with
  | nil => simp
  | append_singleton bases i ih =>
    rw [List.foldl_append, ih, List.foldl_cons, List.foldl_nil, meet, List.filter_append,
      List.eraseDups_append]
    by_cases hseen : i ∈ seen
    · simp [hseen]
    · by_cases hmet : i ∈ bases
      · simp [hseen, hmet, List.removeAll]
      · simp [hseen, hmet, List.removeAll, List.eraseDups_cons]

/-- A search that takes the bases one at a time lists the levels up to the top, one after the other.
-/
theorem searchUp_eq (htop : ∀ k, a.levelAt d k = [] ↔ top < k) {steps : Nat}
    (hsteps : top < k + steps) (ordered : List EntryId) :
    a.searchUp steps (a.seenAt d k) ordered (a.levelAt d k) =
      ordered ++ (List.range' (k + 1) (top - k)).flatMap (a.levelAt d) := by
  induction steps generalizing k ordered with
  | zero =>
    have hover : top - k = 0 := by omega
    rw [hover, searchUp]
    exact (List.append_nil ordered).symm
  | succ steps ih =>
    cases hlevel : a.levelAt d k with
    | nil =>
      have hover : top - k = 0 := by
        have := (htop k).1 hlevel
        omega
      rw [hover, searchUp]
      exact (List.append_nil ordered).symm
    | cons i level =>
      rw [searchUp, foldl_meet, ← hlevel, ← levelAt_succ, ← seenAt_succ, ih (by omega)]
      by_cases hlast : k < top
      · have hcount : top - k = (top - (k + 1)) + 1 := by omega
        rw [hcount, List.range'_succ, List.flatMap_cons, List.append_assoc]
      · have hends : a.levelAt d (k + 1) = [] := (htop (k + 1)).2 (by omega)
        have hover : top - k = 0 ∧ top - (k + 1) = 0 := by omega
        rw [hover.1, hover.2, hends, List.append_nil]
        rfl

/-- The ancestors are what a search finds that looks at one base at a time. -/
theorem ancestors_eq_searchUp (hd : d < a.size) :
    a.ancestors d = a.searchUp (a.size + 1) [d] [] [d] := by
  obtain ⟨top, hsize, htop⟩ := exists_top hd
  have hsearch : a.searchUp (a.size + 1) (a.seenAt d 0) [] (a.levelAt d 0) =
      [] ++ (List.range' 1 top).flatMap (a.levelAt d) := searchUp_eq htop (by omega) []
  rw [seenAt_zero, levelAt_zero, List.nil_append, List.range'_eq_map_range,
    List.flatMap_map] at hsearch
  rw [ancestors_eq htop hsize, hsearch]
  simp only [Nat.add_comm 1]

/-! ## Layers -/

/-- The types on the level of a declaration alone are those that it extends. -/
theorem levelTypes_singleton {details : Details} (h : a.details? d = some details) :
    a.levelTypes [d] = details.extended := by
  rw [levelTypes, List.flatMap_singleton, h]
  rfl

/-- A hierarchy is made for classes and interfaces that extend something or are extended. -/
theorem hierarchy_ne_nil_iff {details : Details} (h : a.details? d = some details)
    (extending : List Reference) : a.hierarchy d extending ≠ [] ↔
      a.isClassOrInterface d = true ∧ (details.extended ≠ [] ∨ extending ≠ []) := by
  have habove : ((a.levels d).map a.levelTypes).filter (!·.isEmpty) = [] ↔
      details.extended = [] := by
    have hlevels : a.levels d = [d] :: a.levelsFrom a.size ([d] ++ a.nextLevel [d] [d])
      (a.nextLevel [d] [d]) := rfl
    rw [hlevels, List.map_cons, levelTypes_singleton h]
    constructor
    · intro hnone
      by_contra hne
      rw [List.filter_cons_of_pos (by simpa using hne)] at hnone
      cases hnone
    · intro hnone
      have hbases : a.bases d = [] := by
        rw [bases, h, Option.map_some, Option.getD_some, hnone, List.filterMap_nil]
      have hnext : a.nextLevel [d] [d] = [] := by
        rw [nextLevel, List.flatMap_singleton, hbases]
        rfl
      rw [hnext, hnone]
      cases a.size <;> rfl
  unfold hierarchy
  dsimp only
  split
  · next hcond =>
    rw [Bool.or_eq_true, Bool.and_eq_true, List.isEmpty_iff, List.isEmpty_iff, habove,
      Bool.not_eq_true'] at hcond
    simp only [ne_eq, not_true_eq_false, false_iff, not_and, not_or, not_not]
    intro hkind
    rcases hcond with hother | hcond
    · exact absurd hkind (by simp [hother])
    · exact hcond
  · next hcond =>
    rw [Bool.or_eq_true, Bool.and_eq_true, List.isEmpty_iff, List.isEmpty_iff, habove, not_or,
      Bool.not_eq_true', Bool.not_eq_false, not_and_or] at hcond
    simp [hcond]

/-- A hierarchy has a layer for each level that extends something, the topmost one first, then the
declaration, and then what extends it. -/
theorem hierarchy_eq (htop : ∀ k, a.levelAt d k = [] ↔ top < k) (hsize : top < a.size)
    {extending : List Reference} (h : a.hierarchy d extending ≠ []) :
    a.hierarchy d extending =
      ((((List.range (top + 1)).reverse.map fun k => a.levelTypes (a.levelAt d k)).filter
        (!·.isEmpty)).map fun types => { types := types }) ++
      { types := [(a.referenceTo d).toTy], isTarget := true } ::
      (if extending = [] then [] else [{ types := extending.map Reference.toTy }]) := by
  unfold hierarchy at h ⊢
  dsimp only at h ⊢
  split at h
  · exact absurd rfl h
  · next hcond =>
    rw [if_neg hcond, levels_eq htop hsize, List.map_map, ← List.filter_reverse, ← List.map_reverse,
      List.append_assoc]
    simp only [List.isEmpty_iff]
    rfl

/-- A declaration is linked to the hierarchy that it has with what extends it. -/
theorem hierarchy_of_allLinks (h : a.allLinks = .ok links) (hd : a.isDeclaration d = true) :
    (links[d]?.getD {}).hierarchy = a.hierarchy d (links[d]?.getD {}).extendedBy := by
  have hsome : links[d]? ≠ none := by
    intro hnone
    have hsame := sameReferrers_allLinks h d
    rw [getElem?_reverseLinks, if_pos (lt_of_isDeclaration hd), hnone] at hsame
    cases hsame
  obtain ⟨linked, -, h⟩ := Except.exists_of_bind_eq_ok h
  have hmade := getElem?_foldl_modify a.nodup_declarations
    (fun d l => { l with hierarchy := a.hierarchy d l.extendedBy }) linked d
  rw [if_pos (mem_declarations.2 hd)] at hmade
  rw [← Except.ok.inj h, addHierarchies] at hsome ⊢
  rw [hmade] at hsome ⊢
  cases hl : linked[d]? with
  | none =>
    rw [hl] at hsome
    exact absurd rfl hsome
  | some l => rfl

/-! ## What resolution leaves -/

namespace Resolves

variable (h : a.Resolves b)

include h

/-- The targets of types are those that there are once references are resolved. -/
theorem target?_eq : a.resolveReferences.target? = b.target? := by
  funext t
  simp only [target?, h.isDeclaration_eq]

/-- Bases are those that there are once references are resolved. -/
theorem bases_eq : a.resolveReferences.bases = b.bases := by
  funext d
  rw [bases, bases, h.details?_eq, h.target?_eq]

/-- Levels are those that there are once references are resolved. -/
theorem levels_eq : a.resolveReferences.levels = b.levels := by
  have hnext : a.resolveReferences.nextLevel = b.nextLevel := by
    funext seen level
    rw [nextLevel, h.bases_eq, nextLevel]
  have hfrom : ∀ steps seen level, a.resolveReferences.levelsFrom steps seen level =
      b.levelsFrom steps seen level := by
    intro steps
    induction steps with
    | zero => exact fun _ _ => rfl
    | succ steps ih =>
      intro seen level
      cases level with
      | nil => rfl
      | cons d level =>
        rw [levelsFrom, levelsFrom, hnext, ih]
  have hsize : a.resolveReferences.size = b.size :=
    (a.resolves_resolveReferences).size_eq.trans h.size_eq.symm
  funext d
  rw [levels, levels, hsize, hfrom]

/-- Inheriting documentation leaves hierarchies as they are. -/
theorem hierarchy_eq (d : EntryId) (extending : List Reference) :
    a.resolveReferences.hierarchy d extending = b.hierarchy d extending := by
  have htypes : a.resolveReferences.levelTypes = b.levelTypes := by
    funext level
    simp only [levelTypes, h.details?_eq]
  have hkind : a.resolveReferences.isClassOrInterface d = b.isClassOrInterface d := by
    rw [isClassOrInterface, (a.resolves_resolveReferences).kindOf_eq, isClassOrInterface,
      h.kindOf_eq]
  rw [hierarchy, hierarchy, h.levels_eq, htypes, hkind, h.referenceTo_eq]

end Resolves

end Atlas

/-! ## The outcome -/

/-- In the outcome of a conversion, a class or an interface has a hierarchy if it extends something
or is extended. Above each declaration there are levels, up to a topmost one, also where
declarations extend each other in a circle, and together they are its ancestors, which a search
finds that looks at one base at a time. Its hierarchy has one layer for each level that extends
something, with all the types that the level extends, the topmost level first; then a layer with the
declaration; then one with those that extend it, if there are any. -/
theorem convert_hierarchy {settings : Settings} {files : List Source.File} {d : Draft}
    {r : Resolved} (h : Program.convert settings files = .ok (d, r)) {i : EntryId}
    {details : Details} (hi : r.atlas.details? i = some details) :
    ((r.linksOf i).hierarchy ≠ [] ↔ r.atlas.isClassOrInterface i = true ∧
      (details.extended ≠ [] ∨ (r.linksOf i).extendedBy ≠ [])) ∧
    ∃ (level : Nat → List EntryId) (top : Nat), r.atlas.Climbs i level ∧
      (∀ k, level k = [] ↔ top < k) ∧
      r.atlas.ancestors i = ((List.range top).flatMap fun k => level (k + 1)) ∧
      r.atlas.ancestors i = r.atlas.searchUp (r.atlas.size + 1) [i] [] [i] ∧
      ((r.linksOf i).hierarchy ≠ [] → (r.linksOf i).hierarchy =
        ((((List.range (top + 1)).reverse.map fun k => r.atlas.levelTypes (level k)).filter
          (!·.isEmpty)).map fun types => { types := types }) ++
        { types := [(r.atlas.referenceTo i).toTy], isTarget := true } ::
        (if (r.linksOf i).extendedBy = [] then []
        else [{ types := (r.linksOf i).extendedBy.map Reference.toTy }])) := by
  obtain ⟨-, hresolves, -⟩ := Program.convert_ok h
  have hdecl := Atlas.isDeclaration_of_details? hi
  have hlinked : (r.linksOf i).hierarchy = r.atlas.hierarchy i (r.linksOf i).extendedBy := by
    have hbefore := hresolves.isDeclaration_eq i ▸ hdecl
    have hmade := Atlas.hierarchy_of_allLinks (Program.convert_links h) hbefore
    rw [hresolves.hierarchy_eq] at hmade
    exact hmade
  have hlt : i < r.atlas.size := Atlas.lt_of_isDeclaration hdecl
  obtain ⟨top, hsize, htop⟩ := Atlas.exists_top hlt
  rw [hlinked]
  have hset := Atlas.hierarchy_ne_nil_iff hi (r.linksOf i).extendedBy
  have hclimbs := r.atlas.climbs_levelAt i
  have hancestors := Atlas.ancestors_eq htop hsize
  have hsearch := Atlas.ancestors_eq_searchUp hlt
  exact ⟨hset, r.atlas.levelAt i, top, hclimbs, htop, hancestors, hsearch,
    Atlas.hierarchy_eq htop hsize⟩

/-- A class in a diamond that is also a circle: the types on its levels are listed as they are
written, the repeated, the circular and the unresolved ones too, and it is its own descendant but
none of its own ancestors. -/
theorem circular_diamond_hierarchy :
    let base (s : String) : Source.TypeExpr :=
      { form := .reference, name := some s, symbol := some s }
    let extending (s : String) (bases : List String) : Source.Decl :=
      { kind := .class, name := some s, symbol := some s, bases := bases.map base }
    let file : Source.File :=
      { name := "a.ts",
        decls := [extending "A" ["B", "Missing", "C"], extending "B" ["D"],
          extending "C" ["D", "A"], extending "D" [], extending "E" ["A"]] }
    ∃ d r details, Program.convert {} [file] = .ok (d, r) ∧
      r.atlas.details? 1 = some details ∧
      (r.linksOf 1).hierarchy.map (fun l => (l.types.map Ty.target?, l.isTarget)) =
        [([some 4, some 4, some 1], false), ([some 2, none, some 3], false), ([some 1], true),
          ([some 3, some 5], false)] ∧
      ((r.linksOf 1).hierarchy ≠ [] ↔ r.atlas.isClassOrInterface 1 = true ∧
        (details.extended ≠ [] ∨ (r.linksOf 1).extendedBy ≠ [])) ∧
      ∃ (level : Nat → List EntryId) (top : Nat), r.atlas.Climbs 1 level ∧
        (∀ k, level k = [] ↔ top < k) ∧
        r.atlas.ancestors 1 = ((List.range top).flatMap fun k => level (k + 1)) ∧
        r.atlas.ancestors 1 = r.atlas.searchUp (r.atlas.size + 1) [1] [] [1] ∧
        ((r.linksOf 1).hierarchy ≠ [] → (r.linksOf 1).hierarchy =
          ((((List.range (top + 1)).reverse.map fun k => r.atlas.levelTypes (level k)).filter
            (!·.isEmpty)).map fun types => { types := types }) ++
          { types := [(r.atlas.referenceTo 1).toTy], isTarget := true } ::
          (if (r.linksOf 1).extendedBy = [] then []
          else [{ types := (r.linksOf 1).extendedBy.map Reference.toTy }])) := by
  intro base extending file
  have hmade : (Program.convert {} [file]).toOption.map (fun made =>
      ((made.2.atlas.details? 1).isSome,
        (made.2.linksOf 1).hierarchy.map fun l => (l.types.map Ty.target?, l.isTarget))) =
      some (true, [([some 4, some 4, some 1], false), ([some 2, none, some 3], false),
        ([some 1], true), ([some 3, some 5], false)]) := by
    decide +kernel
  obtain ⟨d, r, hconvert, hmade⟩ := Program.exists_convert hmade
  obtain ⟨hsome, hlayers⟩ := Prod.mk.inj hmade
  obtain ⟨details, hdetails⟩ := Option.isSome_iff_exists.1 hsome
  exact ⟨d, r, details, hconvert, hdetails, hlayers, convert_hierarchy hconvert hdetails⟩

end ApiAtlas
