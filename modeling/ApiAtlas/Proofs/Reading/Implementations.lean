import ApiAtlas.Proofs.Reading.Members
import Mathlib.Data.List.Induction

/-!
# Dropped implementations

What is dropped from a list of declarations is decided by what stands before each: an implementation
goes if a signature without a body of the same symbol has passed (`dropImplementations_concat`). So
the positions that stay are those of the declarations that are not superseded in this way. No symbol
is lost, since the signature before a dropped implementation stays, and a list without superseded
declarations stays as it is (`dropImplementations_keeps`).
-/

set_option autoImplicit false

namespace ApiAtlas.Source

variable {d e : Decl} {ds es : List Decl} {s : String} {i : Nat}

namespace Decl

/-- Whether a declaration is a signature without a body of a symbol. -/
structure IsBareOf (d : Decl) (s : String) : Prop where
  form : d.form = some "function_signature" ∨ d.form = some "method_signature"
  symbol : d.symbol = some s
  nonempty : s ≠ ""

/-- Whether a declaration is an implementation of one of the signatures without a body among some
declarations. -/
def ImplementsOneOf (d : Decl) (ds : List Decl) : Prop :=
  (d.form = some "function_declaration" ∨ d.form = some "method_definition") ∧
    ∃ s, d.symbol = some s ∧ ∃ e ∈ ds, e.IsBareOf s

/-- The bare symbol of a declaration is that of which it is a signature without a body. -/
theorem bareSymbol?_eq_some : d.bareSymbol? = some s ↔ d.IsBareOf s := by
  unfold bareSymbol?
  constructor
  · intro h
    split at h
    next hform =>
      obtain ⟨hsymbol, hs⟩ := Option.filter_eq_some_iff.1 h
      exact ⟨by simpa using hform, hsymbol, by simpa using hs⟩
    next => simp at h
  · rintro ⟨hform, hsymbol, hs⟩
    rw [if_pos (by simpa using hform), hsymbol]
    simpa using hs

/-- An implementation is written as a function or as a method. -/
theorem isImplementation_iff : d.isImplementation = true ↔
    d.form = some "function_declaration" ∨ d.form = some "method_definition" := by
  simp [isImplementation]

/-- A declaration implements one of some signatures if their symbols are passed. -/
theorem implements_iff :
    d.implements (ds.filterMap bareSymbol?) = true ↔ d.ImplementsOneOf ds := by
  simp only [implements, Bool.and_eq_true, isImplementation_iff, ImplementsOneOf,
    Option.any_eq_true, List.contains_iff_mem, List.mem_filterMap, bareSymbol?_eq_some]

instance (d : Decl) (ds : List Decl) : Decidable (d.ImplementsOneOf ds) :=
  decidable_of_iff _ implements_iff

/-- What implements one of some signatures implements one of more. -/
theorem ImplementsOneOf.mono (h : d.ImplementsOneOf ds) (hsub : ds ⊆ es) :
    d.ImplementsOneOf es := by
  obtain ⟨hform, s, hsymbol, e, he, hbare⟩ := h
  exact ⟨hform, s, hsymbol, e, hsub he, hbare⟩

/-- A signature without a body implements nothing. -/
theorem IsBareOf.not_implementsOneOf (h : d.IsBareOf s) : ¬ d.ImplementsOneOf ds := by
  rintro ⟨hform, -⟩
  rcases h.form with hbare | hbare <;> rcases hform with hform | hform <;>
    simp [hbare] at hform

end Decl

/-! ## One more declaration -/

/-- Dropping implementations from two lists drops those from the second one that implement
signatures of the first one or of its own. -/
theorem dropImplementationsAfter_append (bare : List String) (ds es : List Decl) :
    dropImplementationsAfter bare (ds ++ es) = dropImplementationsAfter bare ds ++
      dropImplementationsAfter ((ds.filterMap Decl.bareSymbol?).reverse ++ bare) es := by
  induction ds generalizing bare with
  | nil => rfl
  | cons d ds ih =>
    simp only [List.cons_append, dropImplementationsAfter]
    cases hd : d.bareSymbol? with
    | some s => simp [hd, ih]
    | none =>
      simp only [List.filterMap_cons_none hd]
      split
      next => exact ih bare
      next => rw [ih bare, List.cons_append]

/-- One more declaration at the end is dropped if it implements a signature before it. -/
theorem dropImplementations_concat (ds : List Decl) (d : Decl) :
    dropImplementations (ds ++ [d]) =
      dropImplementations ds ++ if d.ImplementsOneOf ds then [] else [d] := by
  have himplements : d.implements (ds.filterMap Decl.bareSymbol?).reverse =
      d.implements (ds.filterMap Decl.bareSymbol?) := by
    simp only [Decl.implements, Option.any, List.contains_reverse]
  simp only [dropImplementations, dropImplementationsAfter_append, List.append_nil,
    dropImplementationsAfter, List.append_cancel_left_eq]
  cases hd : d.bareSymbol? with
  | some s => rw [if_neg (Decl.bareSymbol?_eq_some.1 hd).not_implementsOneOf]
  | none => simp only [himplements, Decl.implements_iff]

/-- An implementation at the end is dropped. -/
theorem dropImplementations_concat_of_implements (h : d.ImplementsOneOf ds) :
    dropImplementations (ds ++ [d]) = dropImplementations ds := by
  rw [dropImplementations_concat, if_pos h, List.append_nil]

/-- What is at the end and implements nothing is kept. -/
theorem dropImplementations_concat_of_not_implements (h : ¬ d.ImplementsOneOf ds) :
    dropImplementations (ds ++ [d]) = dropImplementations ds ++ [d] := by
  rw [dropImplementations_concat, if_neg h]

/-! ## The positions that stay -/

/-- Whether the declaration at a position implements one of the signatures before it. -/
def Superseded (ds : List Decl) (i : Nat) : Prop :=
  ∃ d ∈ ds[i]?, d.ImplementsOneOf (ds.take i)

instance (ds : List Decl) (i : Nat) : Decidable (Superseded ds i) :=
  inferInstanceAs (Decidable (∃ d ∈ ds[i]?, d.ImplementsOneOf (ds.take i)))

/-- Whether a declaration is superseded does not depend on those after it. -/
theorem superseded_append_iff (hi : i < ds.length) :
    Superseded (ds ++ es) i ↔ Superseded ds i := by
  simp only [Superseded, List.getElem?_append_left hi,
    List.take_append_of_le_length (Nat.le_of_lt hi)]

/-- The last declaration is superseded just when it implements a signature before it. -/
theorem superseded_concat_length_iff :
    Superseded (ds ++ [d]) ds.length ↔ d.ImplementsOneOf ds := by
  simp [Superseded]

/-- What is superseded has a position in the list. -/
theorem Superseded.lt_length (h : Superseded ds i) : i < ds.length := by
  obtain ⟨d, hd, -⟩ := h
  exact (List.getElem?_eq_some_iff.1 hd).1

/-- The positions of the declarations that are not superseded. -/
def keptPositions (ds : List Decl) : List Nat :=
  (List.range ds.length).filter fun i => ¬ Superseded ds i

/-- Positions are kept just when they are not superseded. -/
theorem mem_keptPositions : i ∈ keptPositions ds ↔ i < ds.length ∧ ¬ Superseded ds i := by
  simp [keptPositions]

/-- The kept positions are in order. -/
theorem pairwise_keptPositions (ds : List Decl) : (keptPositions ds).Pairwise (· < ·) :=
  List.pairwise_lt_range.filter _

/-- The position of a last declaration is kept unless it implements a signature before it. -/
theorem keptPositions_concat (ds : List Decl) (d : Decl) :
    keptPositions (ds ++ [d]) =
      keptPositions ds ++ if d.ImplementsOneOf ds then [] else [ds.length] := by
  have hbefore : (List.range ds.length).filter (fun i => ¬ Superseded (ds ++ [d]) i) =
      keptPositions ds :=
    List.filter_congr fun i hi => by
      rw [decide_eq_decide, superseded_append_iff (List.mem_range.1 hi)]
  rw [keptPositions, List.length_append, List.length_singleton, List.range_succ,
    List.filter_append, hbefore]
  congr 1
  simp only [List.filter_cons, List.filter_nil, superseded_concat_length_iff]
  by_cases h : d.ImplementsOneOf ds <;> simp [h]

/-- What stays is what stands at the positions that are not superseded, in order. -/
theorem map_some_dropImplementations (ds : List Decl) :
    (dropImplementations ds).map some = (keptPositions ds).map fun i => ds[i]? := by
  induction ds using List.reverseRecOn with
  | nil => rfl
  | append_singleton ds d ih =>
    have hbefore : (keptPositions ds).map (fun i => (ds ++ [d])[i]?) =
        (keptPositions ds).map fun i => ds[i]? :=
      List.map_congr_left fun i hi => List.getElem?_append_left (mem_keptPositions.1 hi).1
    rw [dropImplementations_concat, keptPositions_concat, List.map_append, List.map_append, ih,
      hbefore]
    congr 1
    split
    next => rfl
    next => simp

/-- A declaration that is superseded implements a signature that stands before it. -/
theorem Superseded.exists_kept (h : Superseded ds i) : ∃ d s, ds[i]? = some d ∧
    (d.form = some "function_declaration" ∨ d.form = some "method_definition") ∧
    d.symbol = some s ∧ ∃ j ∈ keptPositions ds, j < i ∧ ∃ e, ds[j]? = some e ∧ e.IsBareOf s := by
  have hi := h.lt_length
  obtain ⟨d, hd, hform, s, hsymbol, e, he, hbare⟩ := h
  obtain ⟨j, hj, rfl⟩ := List.mem_take_iff_getElem.1 he
  have hget : ds[j]? = some ds[j] := List.getElem?_eq_getElem (by omega)
  refine ⟨d, s, hd, hform, hsymbol, j, mem_keptPositions.2 ⟨by omega, ?_⟩, by omega, _, hget,
    hbare⟩
  -- A signature without a body is no implementation, so it is itself not superseded.
  rintro ⟨e, he, hsuperseded⟩
  cases Option.some.inj (hget.symm.trans he)
  exact hbare.not_implementsOneOf hsuperseded

/-! ## What stays -/

/-- No symbol is lost: the signature before a dropped implementation has its symbol. -/
theorem exists_mem_dropImplementations (hd : d ∈ ds) (hsymbol : d.symbol = some s) :
    ∃ e ∈ dropImplementations ds, e.symbol = some s := by
  induction ds using List.reverseRecOn generalizing d with
  | nil => cases hd
  | append_singleton ds last ih =>
    by_cases hlast : last.ImplementsOneOf ds
    · rw [dropImplementations_concat_of_implements hlast]
      obtain hd | rfl := by simpa using hd
      · exact ih hd hsymbol
      · -- The signature that it implements stands before it and has its symbol.
        obtain ⟨-, _, hsame, e, he, hbare⟩ := hlast
        cases hsymbol.symm.trans hsame
        exact ih he hbare.symbol
    · rw [dropImplementations_concat_of_not_implements hlast]
      obtain hd | rfl := by simpa using hd
      · obtain ⟨e, he, hsame⟩ := ih hd hsymbol
        exact ⟨e, List.mem_append_left _ he, hsame⟩
      · exact ⟨d, List.mem_append_right _ (List.mem_singleton_self d), hsymbol⟩

/-- Nothing is superseded once implementations are dropped. -/
theorem not_superseded_dropImplementations (ds : List Decl) (i : Nat) :
    ¬ Superseded (dropImplementations ds) i := by
  induction ds using List.reverseRecOn with
  | nil => rintro ⟨d, hd, -⟩; cases hd
  | append_singleton ds last ih =>
    by_cases hlast : last.ImplementsOneOf ds
    · rwa [dropImplementations_concat_of_implements hlast]
    · rw [dropImplementations_concat_of_not_implements hlast]
      intro h
      have hi := h.lt_length
      rw [List.length_append, List.length_singleton, Nat.lt_succ_iff_lt_or_eq] at hi
      rcases hi with hi | rfl
      · exact ih ((superseded_append_iff hi).1 h)
      · have hbefore := superseded_concat_length_iff.1 h
        exact hlast (hbefore.mono (Reading.dropImplementations_subset ds))

/-- Where nothing is superseded nothing is dropped. -/
theorem dropImplementations_eq_self (h : ∀ i, ¬ Superseded ds i) : dropImplementations ds = ds := by
  have hlength : (dropImplementations ds).length = ds.length := by
    have heq := congrArg List.length (map_some_dropImplementations ds)
    rw [List.length_map, List.length_map] at heq
    rw [heq, keptPositions, List.filter_eq_self.2 fun i _ => by simpa using h i, List.length_range]
  exact (Reading.dropImplementationsAfter_sublist [] ds).eq_of_length hlength

/-- What stays of a list of declarations is a part of it, in order, in which every symbol still
occurs. The declarations at the other positions are implementations with a signature of the same
symbol before them that stays. No such implementation is left, and to drop them again changes
nothing. -/
theorem dropImplementations_keeps (ds : List Decl) :
    (dropImplementations ds).Sublist ds ∧
    (∀ d ∈ ds, ∀ s, d.symbol = some s → ∃ e ∈ dropImplementations ds, e.symbol = some s) ∧
    (∃ kept : List Nat, kept.Pairwise (· < ·) ∧
      (dropImplementations ds).map some = kept.map (fun i => ds[i]?) ∧
      ∀ i < ds.length, i ∉ kept → ∃ d s, ds[i]? = some d ∧
        (d.form = some "function_declaration" ∨ d.form = some "method_definition") ∧
        d.symbol = some s ∧ ∃ j ∈ kept, j < i ∧ ∃ e, ds[j]? = some e ∧ e.IsBareOf s) ∧
    (∀ i, ¬ Superseded (dropImplementations ds) i) ∧
    dropImplementations (dropImplementations ds) = dropImplementations ds := by
  have hleft := not_superseded_dropImplementations ds
  refine ⟨Reading.dropImplementationsAfter_sublist [] ds,
    fun d hd s hsymbol => exists_mem_dropImplementations hd hsymbol,
    ⟨keptPositions ds, pairwise_keptPositions ds, map_some_dropImplementations ds, ?_⟩, hleft,
    dropImplementations_eq_self hleft⟩
  intro i hi hgone
  have hsuperseded : Superseded ds i := by
    by_contra h
    exact hgone (mem_keptPositions.2 ⟨hi, h⟩)
  exact hsuperseded.exists_kept

end ApiAtlas.Source
