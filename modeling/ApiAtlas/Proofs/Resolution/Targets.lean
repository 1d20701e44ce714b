import ApiAtlas.Proofs.Conversion.Kept
import ApiAtlas.Proofs.Resolution.Outcome

/-!
# Targets of references

In the outcome of a conversion every reference has the target that the table of symbols names, and
the references that were reported are those without target. References are counted where they
stand: in each slot of an entry that holds types (`Entry.Holds`), and there in the type itself or at
any depth inside it (`Ty.Inside`).
-/

set_option autoImplicit false

namespace ApiAtlas

/-- Whether a type is another one or stands inside it, at any depth. -/
def Ty.Inside (u t : Ty) : Prop :=
  Relation.ReflTransGen (fun t u => u ∈ t.parts) t u

/-- A reference inside a type is one of those that the walk through it finds. -/
theorem Ty.Inside.mem_references {u t : Ty} {ref : Reference} (h : u.Inside t)
    (hu : u.reference? = some ref) : ref ∈ t.references :=
  List.mem_filterMap.2 ⟨u, mem_walk_iff.2 h, hu⟩

/-- Whether an entry holds a type, in one of the slots of its form. -/
inductive Entry.Holds (e : Entry) (t : Ty) : Prop
  | type (m : Members) (d : Details) (hb : e.body = .declaration m d) (ht : d.type = some t)
  | extended (m : Members) (d : Details) (hb : e.body = .declaration m d) (ht : t ∈ d.extended)
  | implemented (m : Members) (d : Details) (hb : e.body = .declaration m d)
    (ht : t ∈ d.implemented)
  | result (s : Shape) (hb : e.body = .signature s) (ht : s.type = some t)
  | parameter (v : Option String) (hb : e.body = .parameter (some t) v)
  | constraint (d : Option Ty) (hb : e.body = .typeParameter (some t) d)
  | default (c : Option Ty) (hb : e.body = .typeParameter c (some t))

/-- What an entry holds is among its own types. -/
theorem Entry.Holds.mem_ownTypes {e : Entry} {t : Ty} (h : e.Holds t) : t ∈ e.ownTypes := by
  cases h with
  | type m d hb ht | extended m d hb ht | implemented m d hb ht | result s hb ht =>
    simp [ownTypes, hb, ht]
  | parameter v hb | constraint d hb | default c hb => simp [ownTypes, hb]

namespace Atlas

/-- The references without target, with the entries that hold them: entry by entry, and for each in
the order of a walk through its own types. -/
def untargeted (a : Atlas) : List (EntryId × Reference) :=
  a.ids.flatMap fun i =>
    match a.get? i with
    | some e => ((e.ownTypes.flatMap Ty.references).filter (·.target.isNone)).map fun r => (i, r)
    | none => []

namespace Resolves

variable {a b : Atlas} {i : EntryId}

/-- Resolution leaves where symbols lead. -/
theorem lookup_eq (h : a.Resolves b) : b.lookup = a.lookup := by
  funext symbol
  rw [lookup, lookup, h.symbols]

/-- The references in an entry are those from before with their targets. -/
theorem references_eq (h : a.Resolves b) {e : Entry} (he : b.get? i = some e) :
    ∃ e₀, a.get? i = some e₀ ∧ e.ownTypes.flatMap Ty.references =
      (e₀.ownTypes.flatMap Ty.references).map (Reference.resolve a.lookup) := by
  obtain ⟨e₀, c, he₀, rfl⟩ := h.exists_get? he
  refine ⟨e₀, he₀, ?_⟩
  have hown := e₀.ownTypes_mapTypes (Ty.resolve a.lookup)
  refine (congrArg (List.flatMap Ty.references) hown).trans ?_
  rw [List.flatMap_map, List.map_flatMap]
  exact congrArg e₀.ownTypes.flatMap (funext (Ty.references_resolve a.lookup))

/-- When no reference had a target, each has that of its symbol. -/
theorem target_eq (h : a.Resolves b) (hopen : ∀ j e, a.get? j = some e → e.IsOpen) {e : Entry}
    (he : b.get? i = some e) {ref : Reference} (href : ref ∈ e.ownTypes.flatMap Ty.references) :
    ref.target = b.lookup ref.symbol := by
  obtain ⟨e₀, he₀, heq⟩ := h.references_eq he
  rw [heq] at href
  obtain ⟨ref₀, href₀, rfl⟩ := List.mem_map.1 href
  have hnone : ref₀.target = none := (hopen i e₀ he₀).flatMap ref₀ href₀
  rw [h.lookup_eq, Reference.resolve, hnone, Option.none_or]

/-- What stays without target is what was reported. -/
theorem untargeted_eq (h : a.Resolves b) : b.untargeted = a.dangling := by
  have left : ∀ refs : List Reference,
      (refs.map (Reference.resolve a.lookup)).filter (·.target.isNone) =
        refs.filter fun r => r.target.isNone && (a.lookup r.symbol).isNone := by
    intro refs
    induction refs with
    | nil => rfl
    | cons r refs ih =>
      obtain ⟨name, symbol, target⟩ := r
      cases target <;> cases hs : a.lookup symbol <;>
        simp [Reference.resolve, hs, ih]
  unfold untargeted dangling
  rw [ids, h.size_eq, ids]
  refine congrArg (List.range a.size).flatMap (funext fun i => ?_)
  obtain ⟨c, hc⟩ := h.entries i
  cases he₀ : a.get? i with
  | none =>
    rw [he₀] at hc
    rw [hc]
    rfl
  | some e₀ =>
    rw [he₀] at hc
    obtain ⟨e₁, he₁, heq⟩ := h.references_eq hc
    obtain rfl : e₀ = e₁ := Option.some.inj (he₀.symm.trans he₁)
    rw [hc]
    simp only [Option.map_some, danglingIn, heq, left]

/-- Entries are shown as they were. -/
theorem map_text_eq (h : a.Resolves b) : (b.get? i).map (·.text) = (a.get? i).map (·.text) := by
  obtain ⟨c, hc⟩ := h.entries i
  rw [hc, Option.map_map]
  exact Option.map_congr fun e _ => e.text_mapTypes_resolve a.lookup

end Resolves

/-- The targets that the table of symbols of an identified atlas names are declarations. -/
theorem Identified.isDeclaration_of_lookup {a : Atlas} (h : a.Identified) {symbol : Option String}
    {i : EntryId} (hi : a.lookup symbol = some i) : a.isDeclaration i = true := by
  obtain ⟨s, -, hs⟩ := lookup_eq_some_iff.1 hi
  obtain ⟨e, he, hn, -⟩ := h.registered s i hs
  exact (isDeclaration_eq he).trans hn.1

end Atlas

/-- In the outcome of a conversion, every reference at any depth of a type that an entry holds has
the target that is registered for its symbol, which is a declaration. The references without target
are listed once each, by owner and in the order of a walk through the owner's types, and the
reports of unresolved references are those on them, each with its owner. -/
theorem convert_references (settings : Settings) (files : List Source.File) (d : Draft)
    (r : Resolved) (h : Program.convert settings files = .ok (d, r)) :
    (∀ (i : EntryId) (e : Entry) (t u : Ty) (ref : Reference), r.atlas.get? i = some e →
      e.Holds t → u.Inside t → u.reference? = some ref →
        ref.target = r.atlas.lookup ref.symbol ∧
          ∀ j, ref.target = some j → j < r.atlas.size ∧ r.atlas.isDeclaration j = true) ∧
    r.unresolved = r.atlas.untargeted.map (·.2) ∧
    (d.diagnostics.toList ++ r.diagnostics).filter (·.code = .unresolvedReference) =
      r.atlas.untargeted.map fun q =>
        ⟨.unresolvedReference,
          "cannot resolve '" ++ q.2.name ++ "' in " ++ ((r.atlas.get? q.1).map (·.text)).getD "",
          [("symbol", Json.ofText? q.2.symbol), ("owner", .nat q.1)]⟩ := by
  obtain ⟨rfl, hresolves, hunresolved, hreports⟩ := Program.convert_ok h
  have hmem := ofFiles_mem_states settings files
  obtain ⟨hid, hroutine⟩ := states_identified _ hmem
  have hopen := (states_kept _ hmem).2
  refine ⟨?_, by rw [hunresolved, hresolves.untargeted_eq], ?_⟩
  · intro i e t u ref he ht hu href
    have hin : ref ∈ e.ownTypes.flatMap Ty.references :=
      List.mem_flatMap.2 ⟨t, ht.mem_ownTypes, hu.mem_references href⟩
    have htarget := hresolves.target_eq hopen he hin
    refine ⟨htarget, fun j hj => ?_⟩
    have hdecl :=
      (hresolves.identified hid).isDeclaration_of_lookup (htarget.symm.trans hj)
    exact ⟨Atlas.lt_of_isDeclaration hdecl, hdecl⟩
  · have hbefore : (Draft.ofFiles settings files).diagnostics.toList.filter
        (·.code = .unresolvedReference) = [] := by
      refine List.filter_eq_nil_iff.2 fun g hg => ?_
      simpa using (hroutine g (Array.mem_toList_iff.1 hg)).resolved
    rw [List.filter_append, hbefore, List.nil_append, hreports, hresolves.untargeted_eq]
    rw [List.filter_eq_self.2 fun g hg => ?_]
    · exact List.map_congr_left fun q _ => by rw [Atlas.danglingReport, hresolves.map_text_eq]
    · obtain ⟨q, -, rfl⟩ := List.mem_map.1 hg
      rfl

/-- The outcome for a property whose type refers to something without symbol, and inside to its own
class and to a class that is not there: the second reference has its target, the others are
listed. -/
theorem nested_reference_listed :
    let file : Source.File :=
      { name := "a.ts",
        decls :=
          [{ kind := .class, name := some "A", symbol := some "A",
             children :=
               [{ kind := .property, name := some "p", symbol := some "A.p",
                  type := some
                    { form := .reference, name := some "Map",
                      arguments :=
                        [{ form := .reference, name := some "A", symbol := some "A" },
                         { form := .reference, name := some "B", symbol := some "B" }] } }] }] }
    ∃ d r, Program.convert {} [file] = .ok (d, r) ∧
      r.unresolved = [⟨"Map", none, none⟩, ⟨"B", some "B", none⟩] ∧
      ((d.diagnostics.toList ++ r.diagnostics).filter (·.code = .unresolvedReference)).map
        (·.details) =
          [[("symbol", Json.null), ("owner", .nat 2)], [("symbol", .str "B"), ("owner", .nat 2)]] ∧
      ∀ (e : Entry) (t u : Ty) (ref : Reference), r.atlas.get? 2 = some e → e.Holds t →
        u.Inside t → u.reference? = some ref → ref.target = r.atlas.lookup ref.symbol := by
  intro file
  have hlisted : (Program.convert {} [file]).toOption.map (·.2.atlas.untargeted) =
      some [(2, ⟨"Map", none, none⟩), (2, ⟨"B", some "B", none⟩)] := by
    decide +kernel
  cases hconvert : Program.convert {} [file] with
  | error e =>
    rw [hconvert] at hlisted
    cases hlisted
  | ok made =>
    obtain ⟨d, r⟩ := made
    rw [hconvert] at hlisted
    have huntargeted : r.atlas.untargeted = _ := Option.some.inj hlisted
    obtain ⟨htargets, hunresolved, hreports⟩ := convert_references {} [file] d r hconvert
    refine ⟨d, r, rfl, by rw [hunresolved, huntargeted]; rfl, ?_, ?_⟩
    · rw [hreports, huntargeted]
      rfl
    · exact fun e t u ref he ht hu href => (htargets 2 e t u ref he ht hu href).1

end ApiAtlas
