import ApiAtlas.Proofs.Output.Pages

/-!
# Where rows stand

A row of the search index names the declaration around its own one. That declaration is no inline
one, and the full name of the row goes on where that of the declaration around it ends. It has a row
too, unless it is external (`convert_searchIndex_surrounded`). A declaration is external as soon as
one part of it is, and its members from other parts are not; so the name in a row may be that of a
declaration without a row (`partly_external_class_without_row`).
-/

set_option autoImplicit false

namespace ApiAtlas

namespace Atlas

/-- Whether a row tells where its entry stands: in a declaration, under the full name of it. -/
structure Surrounds (a : Atlas) (p i : EntryId) (row : SearchRow) : Prop where
  parent : a.parent? i = some p
  isDeclaration : a.isDeclaration p = true
  fullName : ∃ name, a.fullName p = .ok name ∧ row.parent = some name ∧
    row.fullName = name ++ "." ++ row.name

variable {a : Atlas} {i p : EntryId} {e : Entry} {name : String}

/-- A name of what a declaration stands in is the full name of its parent, which is not the project.
-/
theorem parentName?_eq_some (h : a.parentName? e = .ok (some name)) :
    ∃ p q, e.parent = some p ∧ a.get? p = some q ∧ q.kind ≠ .project ∧
      a.fullName p = .ok name := by
  unfold parentName? at h
  split at h
  · next p hp =>
    split at h
    · next q hq =>
      split at h
      · cases h
      · next hk =>
        cases hname : a.fullName p with
        | error m => rw [hname] at h; cases h
        | ok above =>
          rw [hname] at h
          obtain rfl := Option.some.inj (Except.ok.inj h)
          exact ⟨p, q, hp, hq, hk, hname⟩
    · cases h
  · cases h

namespace Charted

variable (h : a.Charted)
include h

/-- The full name of a child goes on where that of its container ends. -/
theorem fullName_child {c : EntryId} (hp : p ≠ root) (hc : c ∈ a.childrenOf p)
    (he : a.get? c = some e) (hname : a.fullName p = .ok name) :
    a.fullName c = .ok (name ++ "." ++ e.name) := by
  obtain ⟨names, hnames, hjoin⟩ := Except.exists_of_bind_eq_ok hname
  obtain rfl := Except.ok.inj hjoin
  rw [fullName, fullNameWith, h.namesUp_child hc he, if_neg hp, hnames]
  refine congrArg Except.ok ?_
  rw [String.intercalate_append_of_ne_nil (namesUp_ne_nil hnames) (List.cons_ne_nil _ _)]
  rfl

/-- A page is listed by the entry around it, which stands in no inline declaration and is the
project or a declaration itself. -/
theorem container_of_isPage (hpage : a.IsPage i) (hp : a.parent? i = some p) :
    i ∈ a.childrenOf p ∧ ¬ a.InLiteral p ∧ (p ≠ root → a.isDeclaration p = true) := by
  obtain ⟨e, he, hd, -⟩ := hpage.shown
  have hep : e.parent = some p := (parent?_eq he).symm.trans hp
  have hc : i ∈ a.childrenOf p := h.placed.listed i e p he
    ⟨hd, fun hk => hpage.standing ((inLiteral_iff he).2 (.inl hk))⟩ hep
  refine ⟨hc, fun hlit => hpage.standing ((inLiteral_iff he).2 (.inr ⟨p, hep, hlit⟩)),
    fun hroot => ?_⟩
  obtain ⟨q, hq⟩ := exists_get? (Nat.lt_trans (h.identified.parent?_lt hp) (get?_lt he))
  exact (isDeclaration_eq hq).trans
    (h.legible.container p q hq hroot (isSome_members_of_child hq hc))

/-- A row that names the entry around its own one tells where that stands. -/
theorem surrounds_of_tells {row : SearchRow} (hpage : a.IsPage i) (htells : a.Tells i row)
    (hname : row.parent = some name) :
    ∃ p, a.Surrounds p i row ∧ (a.hasFlag p .isExternal = true ∨ a.IsPage p) := by
  obtain ⟨⟨e, he, -, hrow, habove⟩, hfull⟩ := htells
  obtain ⟨p, q, hp, hq, hk, hpname⟩ := parentName?_eq_some (hname ▸ habove)
  have hparent : a.parent? i = some p := (parent?_eq he).trans hp
  have hroot : p ≠ root := by
    rintro rfl
    obtain ⟨q', m, hq', -, hk', -⟩ := h.identified.project
    exact hk (Option.some.inj (hq.symm.trans hq') ▸ hk')
  obtain ⟨hc, hout, hdecl⟩ := h.container_of_isPage hpage hparent
  have hrowName : row.fullName = name ++ "." ++ row.name := by
    have hchild := h.fullName_child hroot hc he hpname
    rw [hfull] at hchild
    rw [hrow]
    exact Except.ok.inj hchild
  refine ⟨p, ⟨hparent, hdecl hroot, name, hpname, hname, hrowName⟩, ?_⟩
  cases hext : q.flags.has .isExternal with
  | true =>
    left
    rw [hasFlag, hq]
    exact hext
  | false => exact .inr ⟨⟨q, hq, (isDeclaration_eq hq).symm.trans (hdecl hroot), hext⟩, hout⟩

end Charted

/-- Each page has a row that tells about it. -/
theorem exists_mem_zip_of_forall₂ {pages : List EntryId} {rows : List SearchRow}
    (h : List.Forall₂ a.Tells pages rows) (hi : i ∈ pages) :
    ∃ row, (i, row) ∈ pages.zip rows ∧ a.Tells i row := by
  induction h with
  | nil => cases hi
  | @cons j row js rows htells _ ih =>
    rcases List.mem_cons.1 hi with rfl | hi
    · exact ⟨row, List.mem_cons_self, htells⟩
    · obtain ⟨row', hmem, htells'⟩ := ih hi
      exact ⟨row', List.mem_cons_of_mem _ hmem, htells'⟩

end Atlas

/-- Each row of the search index of a converted program that has a parent is that of a declaration
inside of another one, and its full name is the parent, a dot and its name. The parent is the full
name of the declaration around its own one, and of a row of that declaration, unless that is
external. -/
theorem convert_searchIndex_surrounded {settings : Settings} {files : List Source.File} {d : Draft}
    {r : Resolved} (h : Program.convert settings files = .ok (d, r)) :
    ∃ pages rows, r.atlas.searchIndex = .ok rows ∧ r.atlas.ListsPages pages rows ∧
      ∀ i row, (i, row) ∈ pages.zip rows → row.parent.isSome = true →
        ∃ p, r.atlas.Surrounds p i row ∧ (r.atlas.hasFlag p .isExternal = true ∨
          ∃ around, (p, around) ∈ pages.zip rows ∧ row.parent = some around.fullName) := by
  have hcharted := Atlas.convert_charted h
  obtain ⟨pages, rows, hrows, hpages⟩ := hcharted.identified.searchIndex_ok
  refine ⟨pages, rows, hrows, hpages, fun i row hmem hparent => ?_⟩
  obtain ⟨name, hname⟩ := Option.isSome_iff_exists.1 hparent
  have htells : r.atlas.Tells i row := (List.forall₂_iff_zip.1 hpages.tells).2 hmem
  have hpage := (hpages.mem_iff i).1 (List.of_mem_zip hmem).1
  obtain ⟨p, hsurrounds, hp⟩ := hcharted.surrounds_of_tells hpage htells hname
  refine ⟨p, hsurrounds, hp.imp_right fun hp => ?_⟩
  obtain ⟨around, haround, htold⟩ :=
    Atlas.exists_mem_zip_of_forall₂ hpages.tells ((hpages.mem_iff p).2 hp)
  obtain ⟨above, habove, hrow, -⟩ := hsurrounds.fullName
  rw [htold.fullName] at habove
  exact ⟨around, haround, hrow.trans (congrArg some (Except.ok.inj habove).symm)⟩

/-- The rows of two classes, each with a property, the second of which is also declared in an
external file. -/
theorem properties_searchIndex_surrounded :
    let property (name symbol : String) : Source.Decl :=
      { kind := .property, name := some name, symbol := some symbol }
    let declared (name : String) (members : List Source.Decl) : Source.Decl :=
      { kind := .class, name := some name, symbol := some name, children := members }
    let files : List Source.File :=
      [{ name := "a.ts",
         decls := [declared "A" [property "x" "A.x"], declared "B" [property "y" "B.y"]] },
       { name := "b.ts", decls := [declared "B" []], isExternal := true }]
    ∃ d r, Program.convert {} files = .ok (d, r) ∧
      ∃ pages rows, r.atlas.searchIndex = .ok rows ∧
        rows.map (·.parent) = [none, some "A", some "B"] ∧ r.atlas.ListsPages pages rows ∧
        ∀ i row, (i, row) ∈ pages.zip rows → row.parent.isSome = true →
          ∃ p, r.atlas.Surrounds p i row ∧ (r.atlas.hasFlag p .isExternal = true ∨
            ∃ around, (p, around) ∈ pages.zip rows ∧ row.parent = some around.fullName) := by
  intro property declared files
  have hmade : (Program.convert {} files).toOption.map (fun made =>
      made.2.atlas.searchIndex.toOption.map fun rows => rows.map (·.parent)) =
      some (some [none, some "A", some "B"]) := by
    decide +kernel
  obtain ⟨d, r, hconvert, hmade⟩ := Program.exists_convert hmade
  obtain ⟨pages, rows, hrows, hpages, hsurrounded⟩ := convert_searchIndex_surrounded hconvert
  rw [hrows] at hmade
  exact ⟨d, r, hconvert, pages, rows, hrows, Option.some.inj hmade, hpages, hsurrounded⟩

/-- A class with a property that is also declared in an external file has no row, though the row of
the property names it. -/
theorem partly_external_class_without_row :
    let property : Source.Decl :=
      { kind := .property, name := some "x", symbol := some "A.x" }
    let declared (members : List Source.Decl) : Source.Decl :=
      { kind := .class, name := some "A", symbol := some "A", children := members }
    let files : List Source.File :=
      [{ name := "a.ts", decls := [declared [property]] },
       { name := "b.ts", decls := [declared []], isExternal := true }]
    ∃ d r rows, Program.convert {} files = .ok (d, r) ∧ r.atlas.searchIndex = .ok rows ∧
      (∃ row ∈ rows, row.parent = some "A") ∧ ∀ row ∈ rows, row.fullName ≠ "A" := by
  intro property declared files
  have hmade : (Program.convert {} files).toOption.map (fun made =>
      made.2.atlas.searchIndex.toOption) =
      some (some [⟨0, .property, "x", "A.x", some "A"⟩]) := by
    decide +kernel
  obtain ⟨d, r, hconvert, hmade⟩ := Program.exists_convert hmade
  obtain ⟨rows, hrows, rfl⟩ : ∃ rows, r.atlas.searchIndex = .ok rows ∧
      rows = [⟨0, .property, "x", "A.x", some "A"⟩] := by
    cases hindex : r.atlas.searchIndex with
    | error m => rw [hindex] at hmade; cases hmade
    | ok rows => exact ⟨rows, rfl, by rw [hindex] at hmade; exact Option.some.inj hmade⟩
  refine ⟨d, r, _, hconvert, hrows, ⟨_, List.mem_singleton_self _, rfl⟩, ?_⟩
  simp

end ApiAtlas
