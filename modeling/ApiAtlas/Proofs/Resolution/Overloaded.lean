import ApiAtlas.Proofs.Conversion.Overloads
import ApiAtlas.Proofs.Resolution.Outcome

/-!
# Overloads of a converted program

Resolution fills in the targets of types and the comments that are inherited. It leaves signatures,
parameters and type parameters what they are (`Atlas.Resolves.overloaded`), so that in the end, as
before, a symbol has one signature for each of its declarations that was visited and let in, in the
order of the visits (`convert_overloads`).
-/

set_option autoImplicit false

namespace ApiAtlas

open Source

namespace Atlas.Resolves

variable {a b : Atlas} {k : String} {i owner : EntryId} {d : Decl} {ds : List Decl}

/-- A written parameter is one still after resolving. -/
theorem hasParam (h : a.Resolves b) {p : Param} (hi : a.HasParam owner p i) :
    b.HasParam owner p i := by
  obtain ⟨e, type, he, hp, hname, hb, htype, hflags⟩ := hi
  obtain ⟨c, hc⟩ := h.of_get? he
  refine ⟨_, type.map (Ty.resolve a.lookup), hc, ?_, ?_, ?_, ?_, ?_⟩
  · rw [Entry.mapTypes_parent, hp]
  · rw [Entry.mapTypes_name, hname]
  · rw [Entry.mapTypes, hb]
  · rw [Option.isSome_map, htype]
  · rwa [Entry.mapTypes_flags]

/-- A written type parameter is one still after resolving. -/
theorem hasTypeParam (h : a.Resolves b) {p : TypeParam} (hi : a.HasTypeParam owner p i) :
    b.HasTypeParam owner p i := by
  obtain ⟨e, limit, standard, he, hp, hname, hb, hlimit, hstandard⟩ := hi
  obtain ⟨c, hc⟩ := h.of_get? he
  refine ⟨_, limit.map (Ty.resolve a.lookup), standard.map (Ty.resolve a.lookup), hc, ?_, ?_, ?_,
    ?_, ?_⟩
  · rw [Entry.mapTypes_parent, hp]
  · rw [Entry.mapTypes_name, hname]
  · rw [Entry.mapTypes, hb]
  · rw [Option.isSome_map, hlimit]
  · rw [Option.isSome_map, hstandard]

/-- An overload is one still after resolving. -/
theorem isOverload (h : a.Resolves b) (hi : a.IsOverload owner d i) : b.IsOverload owner d i := by
  obtain ⟨e, shape, he, hp, hk, hb, hparams, htypeParams⟩ := hi
  obtain ⟨c, hc⟩ := h.of_get? he
  refine ⟨_, { shape with type := shape.type.map (Ty.resolve a.lookup) }, hc, ?_, ?_, ?_,
    hparams.imp fun _ _ => h.hasParam, htypeParams.imp fun _ _ => h.hasTypeParam⟩
  · rw [Entry.mapTypes_parent, hp]
  · rw [Entry.mapTypes_kind, hk]
  · rw [Entry.mapTypes, hb]

/-- A symbol has the overloads that it had. -/
theorem overloaded (h : a.Resolves b) (ha : a.Overloaded k ds) : b.Overloaded k ds := by
  have hlookup : b.lookup (some k) = a.lookup (some k) := congrArg (·.get? k) h.symbols
  refine ha.imp (fun ⟨hnil, hfree⟩ => ⟨hnil, hlookup.trans hfree⟩) ?_
  rintro ⟨hne, i, details, hi, hdetails, hall, hsigs⟩
  obtain ⟨e, he, hd⟩ := Option.bind_eq_some_iff.1 hdetails
  obtain ⟨c, hc⟩ := h.of_get? he
  obtain ⟨name, kind, flags, comment, parent, body⟩ := e
  cases body with
  | declaration members x =>
    obtain rfl : x = details := Option.some.inj hd
    refine ⟨hne, i, { x with
      type := x.type.map (Ty.resolve a.lookup)
      extended := x.extended.map (Ty.resolve a.lookup)
      implemented := x.implemented.map (Ty.resolve a.lookup) }, hlookup.trans hi, ?_, hall,
      hsigs.imp fun _ _ => h.isOverload⟩
    rw [details?, hc]
    rfl
  | _ => cases hd

end Atlas.Resolves

/-- Overloads are kept one to one. Of a symbol whose declarations are functions, methods and
constructors, none of them inside a type that is written on another one, each declaration is visited
at most as often as it is written, and gets an entry exactly if it is named and wanted. The symbol
then has one signature for each visit that is let in, in order and with the parameters and type
parameters of the declaration, both before and after the program is resolved. Where the declarations
stand at the top of files only, all those in the files that are let in are visited, in order. -/
theorem convert_overloads {settings : Settings} {files : List Source.File} {k : String}
    (hk : Overloads k (declsOf (files.flatMap (·.topDecls settings.mode)))) :
    ((Draft.visitsOf k settings files).map (·.decl)).Subperm
        ((declsOf (files.flatMap (·.topDecls settings.mode))).filter (·.symbol = some k)) ∧
      ((∀ d ∈ files.flatMap (·.topDecls settings.mode), ¬Carry d.nested k) →
        (Draft.visitsOf k settings files).map (·.decl) =
          ((files.filter (·.isWantedIn settings)).flatMap (·.topDecls settings.mode)).filter
            (·.symbol = some k)) ∧
      (∀ v ∈ Draft.visitsOf k settings files, v.entry.isSome = v.isAdmitted settings) ∧
      (Draft.ofFiles settings files).atlas.Overloaded k
        (Visit.accepted (Draft.visitsOf k settings files)) ∧
      ∀ d r, Program.convert settings files = .ok (d, r) →
        r.atlas.Overloaded k (Visit.accepted (Draft.visitsOf k settings files)) := by
  obtain ⟨hgathered, hadmitted⟩ := Draft.ofFiles_gathered hk
  refine ⟨Draft.visitsOf_subperm k settings files, fun htop => ?_, hadmitted,
    hgathered.overloaded, ?_⟩
  · exact Draft.visitsOf_of_top fun d hd =>
      ⟨fun hdk => (hk d (mem_declsOf.2 ⟨d, hd, .inl rfl⟩) hdk).1, htop d hd⟩
  · intro d r hconvert
    obtain ⟨rfl, hresolves, -⟩ := Program.convert_ok hconvert
    exact hresolves.overloaded hgathered.overloaded

/-- Overloads of a function in two files, one of which is not exported and therefore left out. -/
theorem unexported_overload_left_out :
    let settings : Settings := { excludeNotExported := true }
    let overload := fun (line : Int) (modifiers : List String) (w : Signature) =>
      ({ kind := .function, name := some "f", symbol := some "f", modifiers := modifiers,
         signature := some w, line := some line } : Decl)
    let a : Source.File :=
      { name := "a.ts",
        decls := [overload 1 ["export"] { parameters := [{ name := "x", optional := true }] },
          overload 2 [] {}] }
    let b : Source.File :=
      { name := "b.ts",
        decls := [overload 3 ["export"]
          { parameters :=
              [{ name := "y", defaultValue := some "1" }, { name := "z", rest := true }],
            typeParameters := [{ name := "T" }] }] }
    Overloads "f" (declsOf ([a, b].flatMap (·.topDecls settings.mode))) ∧
      (Draft.visitsOf "f" settings [a, b]).map (fun v => (v.decl.line, v.entry)) =
        [(some 1, some 1), (some 2, none), (some 3, some 1)] ∧
      ∃ d r, Program.convert settings [a, b] = .ok (d, r) ∧
        (r.atlas.details? 1).map (·.signatures) = some [2, 4] ∧
        r.atlas.Overloaded "f" (Visit.accepted (Draft.visitsOf "f" settings [a, b])) := by
  intro settings overload a b
  have hdecls : Overloads "f" (declsOf ([a, b].flatMap (·.topDecls settings.mode))) := by
    have hplain : ∀ d ∈ a.decls ++ b.decls, d.kind = .function ∧ d.written = [] :=
      List.forall_mem_cons.2 ⟨⟨rfl, rfl⟩, List.forall_mem_cons.2 ⟨⟨rfl, rfl⟩,
        List.forall_mem_singleton.2 ⟨rfl, rfl⟩⟩⟩
    intro d hd _
    obtain ⟨hkind, hwritten⟩ := hplain d hd
    exact ⟨by rw [hkind]; decide, by rw [hwritten]; exact not_carry_nil "f"⟩
  obtain ⟨d, r, hconvert, hsignatures⟩ := Program.exists_convert (show
    (Program.convert settings [a, b]).toOption.map (fun made =>
      (made.2.atlas.details? 1).map (·.signatures)) = some (some [2, 4]) by decide +kernel)
  exact ⟨hdecls, by decide +kernel, d, r, hconvert, hsignatures,
    (convert_overloads hdecls).2.2.2.2 d r hconvert⟩

end ApiAtlas
