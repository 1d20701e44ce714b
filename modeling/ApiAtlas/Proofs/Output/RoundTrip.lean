import ApiAtlas.Output.Outline
import ApiAtlas.Program
import ApiAtlas.Proofs.Output.Fields

/-!
# Outlines of the written atlas

The outline that is read back from a written atlas has the rows of the outline that is made from
the atlas itself. Both walks visit the children of an entry in order; among the fields of a written
entry the children and the overloads stand under names that no other field has.
-/

set_option autoImplicit false

namespace ApiAtlas

namespace Json

variable {fs : List (String × Json)} {items : List Json}

/-- The outline looks at the first field that holds children. -/
theorem outlineChildren_eq (above : Json) (fs : List (String × Json)) :
    outlineChildren above fs =
      match (obj fs).get? "children" with
      | none => .ok []
      | some (.arr items) => outlineItems above items
      | some value => looseChildren value := by
  induction fs with
  | nil => rfl
  | cons f fs ih =>
    obtain ⟨key, value⟩ := f
    have hget : (obj ((key, value) :: fs)).get? "children" =
        if key = "children" then some value else (obj fs).get? "children" := by
      by_cases hkey : key = "children" <;> simp [get?, hkey]
    rw [hget]
    by_cases hkey : key = "children" <;> cases value <;> simp [outlineChildren, hkey, ih]

/-- The outline below an array of children is that of its items. -/
theorem outlineChildren_of_get? {above : Json}
    (h : (obj fs).get? "children" = (arr items).present?) :
    outlineChildren above fs = outlineItems above items := by
  rw [outlineChildren_eq, h]
  cases items <;> rfl

/-- An array of signatures has as many overloads as items. -/
theorem overloads_of_get? {data : Json} (h : data.get? "signatures" = (arr items).present?) :
    data.overloads = .ok items.length := by
  rw [overloads, h]
  cases items <;> rfl

/-- Paths that are read back from strings are put together like those of names. -/
theorem childPath_str (above name : String) :
    childPath (.str above) (.str name) = .str (OutlineRow.childPath above name) := by
  unfold childPath OutlineRow.childPath
  by_cases h : above.isEmpty = true <;> simp [isNothing, shown, h]

end Json

namespace Resolved

variable {r : Resolved} {expand : EntryId → Except Misuse Json} {l : Links} {i : EntryId}
  {e : Entry} {fs : List (String × Json)}

/-! ## Fields of an entry -/

/-- The common fields of an entry hide none of its other fields. -/
theorem get?_commonFields {key : String}
    (hkey : key ∉ ["id", "name", "kind", "kindString", "flags", "comment"]) :
    (Json.obj (commonFields i e ++ fs)).get? key = (Json.obj fs).get? key := by
  simp only [List.mem_cons, List.not_mem_nil, or_false, not_or] at hkey
  rw [Json.get?_append]
  unfold commonFields
  split
  · split <;> simp [Json.get?, hkey, eq_comm (b := key)]
  · simp [Json.get?, hkey, eq_comm (b := key)]

/-- The name of a written entry is read back. -/
theorem fetch_name : (Json.obj (commonFields i e ++ fs)).fetch "name" = .ok (.str e.name) := rfl

/-- The text of the kind of a written entry is read back. -/
theorem fetch_kindString :
    (Json.obj (commonFields i e ++ fs)).fetch "kindString" = .ok (.str e.kind.text) := rfl

/-- The fields of details: the overloads are listed, and there are no children among them. -/
theorem get?_detailFields {d : Details} (h : detailFields expand d l = .ok fs) :
    (Json.obj fs).get? "children" = none ∧ ∃ signatures : List Json,
      signatures.length = d.signatures.length ∧
        (Json.obj fs).get? "signatures" = (Json.arr signatures).present? := by
  obtain ⟨type, typeParameters, signatures, index, getter, setter, extended, implemented, links,
    -, -, hsignatures, -, -, -, -, -, hlinks, rfl⟩ := detailFields_ok h
  obtain ⟨extendedBy, implementedBy, inheritedFrom, overwrites, implementationOf, layers,
    -, -, -, -, -, rfl⟩ := linkFields_ok hlinks
  have hlength : d.signatures.length = signatures.length := hsignatures.length_eq
  refine ⟨?_, signatures, hlength.symm, ?_⟩ <;>
    simp [Json.get?_append, Json.get?_field, Json.get?_map]

/-- What the form of an entry adds: its children and its overloads are listed. -/
theorem get?_bodyFields (h : bodyFields expand l e.body = .ok fs) :
    ∃ children signatures : List Json,
      Expands expand ((e.members?.map (·.ids)).getD []) children ∧
      signatures.length = (e.details?.map (·.signatures.length)).getD 0 ∧
      (Json.obj fs).get? "children" = (Json.arr children).present? ∧
      (Json.obj fs).get? "signatures" = (Json.arr signatures).present? := by
  obtain ⟨name, kind, flags, comment, parent, body⟩ := e
  cases body with
  | plain =>
    obtain rfl := Except.ok.inj h
    exact ⟨[], [], .nil, rfl, rfl, rfl⟩
  | container m | project m =>
    obtain ⟨children, hchildren, rfl⟩ := childFields_ok h
    exact ⟨children, [], hchildren, rfl, by simp [Json.get?_field],
      by simp [Json.get?_field, Json.present?, Json.isVoid]⟩
  | declaration m d =>
    obtain ⟨details, hdetails, h⟩ := Except.exists_of_bind_eq_ok h
    obtain ⟨members, hmembers, h⟩ := Except.exists_of_bind_eq_ok h
    obtain ⟨children, hchildren, rfl⟩ := childFields_ok hmembers
    obtain ⟨hnone, signatures, hlength, hget⟩ := get?_detailFields hdetails
    obtain rfl := Except.ok.inj h
    exact ⟨children, signatures, hchildren, hlength,
      by simp [Json.get?_append, hnone, Json.get?_field],
      by simp [Json.get?_append, hget, Json.get?_field]⟩
  | signature s =>
    obtain ⟨_, htypeParameters, h⟩ := Except.exists_of_bind_eq_ok h
    obtain ⟨_, hparameters, h⟩ := Except.exists_of_bind_eq_ok h
    obtain ⟨type, -, h⟩ := Except.exists_of_bind_eq_ok h
    obtain rfl := Except.ok.inj h
    refine ⟨[], [], .nil, rfl, ?_, ?_⟩ <;>
      simp [Json.get?_append, Json.get?_field, Json.present?, Json.isVoid]
  | parameter t value =>
    obtain ⟨type, -, h⟩ := Except.exists_of_bind_eq_ok h
    obtain rfl := Except.ok.inj h
    refine ⟨[], [], .nil, rfl, ?_, ?_⟩ <;>
      simp [Json.get?_append, Json.get?_field, Json.present?, Json.isVoid]
  | typeParameter c s =>
    obtain ⟨limit, -, h⟩ := Except.exists_of_bind_eq_ok h
    obtain ⟨default, -, h⟩ := Except.exists_of_bind_eq_ok h
    obtain rfl := Except.ok.inj h
    refine ⟨[], [], .nil, rfl, ?_, ?_⟩ <;>
      simp [Json.get?_append, Json.get?_field, Json.present?, Json.isVoid]

/-! ## Rows -/

/-- An entry without room for children has no rows below it. -/
theorem outlineAt_eq_nil {a : Atlas} {depth : Nat} {above : String} (he : a.get? i = some e)
    (hm : e.members?.isSome = false) : a.outlineAt (depth + 1) above i = .ok [] := by
  have hnone : e.members? = none := Option.not_isSome_iff_eq_none.1 (by simp [hm])
  rw [Atlas.outlineAt, Atlas.childrenOf_eq he, hnone]
  rfl

/-- The rows of one child more come first. -/
theorem outlineRows_cons {below : String → EntryId → Except Misuse (List (OutlineRow String))}
    {above : String} {c : EntryId} {ps : List (EntryId × Entry)}
    {rows rest : List (OutlineRow String)}
    (hbelow : (if e.members?.isSome then below (Atlas.outlineRow above e).path c else .ok []) =
      .ok rows)
    (hrest : Atlas.outlineRows below above ps = .ok rest) :
    Atlas.outlineRows below above ((c, e) :: ps) =
      .ok (Atlas.outlineRow above e :: rows ++ rest) := by
  obtain ⟨rest', hrest', h⟩ := Except.exists_of_bind_eq_ok hrest
  obtain rfl := Except.ok.inj h
  rw [Atlas.outlineRows, List.mapM_cons, hrest']
  dsimp only
  split at hbelow
  · next hm =>
    rw [if_pos hm, hbelow]
    rfl
  · next hm =>
    obtain rfl := Except.ok.inj hbelow
    rw [if_neg hm]
    rfl

/-- If the rows below each child are read back, then so are the rows of the children. -/
theorem outlineItems_eq {depth : Nat} (above : String) {cs : List EntryId} {items : List Json}
    (hitems : Expands (r.writeAt depth) cs items)
    (ih : ∀ c item, r.writeAt depth c = .ok item → ∀ path, ∃ rows,
      r.atlas.outlineAt depth path c = .ok rows ∧
        Json.outlineAt (.str path) item = .ok (rows.map OutlineRow.written)) :
    ∃ es rows, r.atlas.fetchAll cs = .ok es ∧
      Atlas.outlineRows (r.atlas.outlineAt depth) above (cs.zip es) = .ok rows ∧
      Json.outlineItems (.str above) items = .ok (rows.map OutlineRow.written) := by
  induction hitems with
  | nil => exact ⟨[], [], rfl, rfl, rfl⟩
  | @cons c item cs items hitem _ ihitems =>
    obtain ⟨es, rest, hes, hrest, hread⟩ := ihitems
    cases depth with
    | zero => cases hitem
    | succ depth =>
      obtain ⟨e, fs, he, hfs, rfl⟩ := writeAt_ok hitem
      obtain ⟨rows, hrows, hbelow⟩ := ih c _ hitem (Atlas.outlineRow above e).path
      obtain ⟨children, signatures, -, hlength, -, hsignatures⟩ := get?_bodyFields hfs
      have hfetch : r.atlas.fetch c = .ok e := by rw [Atlas.fetch, he]
      refine ⟨e :: es, Atlas.outlineRow above e :: rows ++ rest, ?_, ?_, ?_⟩
      · rw [Atlas.fetchAll] at hes ⊢
        rw [List.mapM_cons, hfetch, hes]
        rfl
      · refine outlineRows_cons ?_ hrest
        split
        · exact hrows
        · next hm =>
          rw [outlineAt_eq_nil he (by simpa using hm)] at hrows
          exact hrows
      · have hcount := Json.overloads_of_get?
          ((get?_commonFields (i := c) (e := e) (by decide)).trans hsignatures)
        rw [Json.outlineItems, fetch_name, fetch_kindString, hcount, hlength, hread]
        simp only [bind, Except.bind, Json.childPath_str]
        rw [show OutlineRow.childPath above e.name = (Atlas.outlineRow above e).path from rfl,
          hbelow]
        simp [OutlineRow.written, Atlas.outlineRow]

/-- What is read back from a written entry are the rows below the entry. -/
theorem outlineAt_eq {depth : Nat} {j : Json} (h : r.writeAt depth i = .ok j) (above : String) :
    ∃ rows, r.atlas.outlineAt depth above i = .ok rows ∧
      Json.outlineAt (.str above) j = .ok (rows.map OutlineRow.written) := by
  induction depth generalizing i j above with
  | zero => cases h
  | succ depth ih =>
    obtain ⟨e, fs, he, hfs, rfl⟩ := writeAt_ok h
    obtain ⟨children, signatures, hchildren, -, hget, -⟩ := get?_bodyFields hfs
    obtain ⟨es, rows, hes, hrows, hread⟩ :=
      outlineItems_eq above hchildren fun c item hitem path => ih hitem path
    refine ⟨rows, ?_, ?_⟩
    · rw [Atlas.outlineAt, Atlas.childrenOf_eq he, hes]
      exact hrows
    · rw [Json.outlineAt, Json.outlineChildren_of_get?
        ((get?_commonFields (i := i) (e := e) (by decide)).trans hget), hread]

end Resolved

/-- When an atlas can be written, the outline of the atlas and the outline of what is written are
the same rows in the same order. -/
theorem toJson_outline {r : Resolved} {j : Json} (h : r.toJson = .ok j) :
    ∃ rows, r.atlas.outline = .ok rows ∧ j.outline = .ok (rows.map OutlineRow.written) :=
  r.outlineAt_eq h ""

/-- The outline read back for a namespace with an overloaded function and a class. -/
theorem overloaded_toJson_outline :
    let file : Source.File :=
      { name := "a.ts",
        decls :=
          [{ kind := .namespace, name := some "N", symbol := some "N",
             children :=
               [{ kind := .function, name := some "f", symbol := some "N.f",
                  signature := some {} },
                { kind := .function, name := some "f", symbol := some "N.f",
                  signature := some { parameters := [{ name := "p" }] } },
                { kind := .class, name := some "C", symbol := some "N.C",
                  children :=
                    [{ kind := .property, name := some "q", symbol := some "N.C.q",
                       type := some
                         { form := .object,
                           members :=
                             [{ kind := .property, name := some "i",
                                symbol := some "N.C.q.i" }] } }] }] }] }
    ∃ d r j rows, Program.convert {} [file] = .ok (d, r) ∧ r.toJson = .ok j ∧
      r.atlas.outline = .ok rows ∧ j.outline = .ok (rows.map OutlineRow.written) ∧
      rows.map (fun row => (row.path, row.signatures)) =
        [("N", 0), ("N.f", 2), ("N.C", 0), ("N.C.q", 0)] := by
  intro file
  have hwritten : (Program.convert {} [file]).toOption.map (·.2.toJson.toOption.isSome) =
      some true := by
    decide +kernel
  have hpaths : (Program.convert {} [file]).toOption.map (fun made =>
      made.2.atlas.outline.toOption.map (·.map fun row => (row.path, row.signatures))) =
      some (some [("N", 0), ("N.f", 2), ("N.C", 0), ("N.C.q", 0)]) := by
    decide +kernel
  cases hconvert : Program.convert {} [file] with
  | error e =>
    rw [hconvert] at hwritten
    cases hwritten
  | ok made =>
    obtain ⟨d, r⟩ := made
    rw [hconvert] at hwritten hpaths
    cases hj : r.toJson with
    | error m => simp [Except.toOption, hj] at hwritten
    | ok j =>
      obtain ⟨rows, hrows, hread⟩ := toJson_outline hj
      simp only [Except.toOption, hrows, Option.map_some, Option.some.injEq] at hpaths
      exact ⟨d, r, j, rows, rfl, hj, hrows, hread, hpaths⟩

end ApiAtlas
