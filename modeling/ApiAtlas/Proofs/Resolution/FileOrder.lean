import ApiAtlas.Proofs.Output.Rows
import ApiAtlas.Proofs.Resolution.Layouts

/-!
# The order of files

Files that share no symbols may be converted in any order: the conversion fails for the same reason,
or the outlines have the same rows and the same references are left without target, each as often
(`convert_fileOrder`).
-/

set_option autoImplicit false

namespace ApiAtlas

/-! ## References without target -/

/-- Going through the positions of a list yields what going through the list does. -/
theorem List.flatMap_range_getElem? {α β : Type} (l : List α) (g : α → List β) :
    (List.range l.length).flatMap (fun i => (l[i]?.map g).getD []) = l.flatMap g := by
  induction l with
  | nil => rfl
  | cons x l ih =>
    rw [List.length_cons, List.range_succ_eq_map, List.flatMap_cons, List.flatMap_map,
      List.flatMap_cons]
    exact congrArg (g x ++ ·) ih

/-- The references that cannot be resolved, entry by entry. -/
theorem Atlas.map_snd_dangling (a : Atlas) :
    a.dangling.map (·.2) = a.entries.toList.flatMap a.danglingIn := by
  rw [← List.flatMap_range_getElem?, dangling, ids, List.map_flatMap, size, Array.length_toList]
  refine List.flatMap_congr fun i _ => ?_
  rw [Array.getElem?_toList, get?]
  cases a.entries[i]? with
  | none => rfl
  | some e => simp

namespace Draft

variable {settings : Settings} {X Y : List (Nat × Source.File)} {x y : Draft}

/-- The names and symbols of the references in an entry that a table of symbols has no target
for. -/
def missing (lookup : Option String → Option EntryId) (e : Entry) :
    List (String × Option String) :=
  ((e.ownTypes.flatMap Ty.references).filter
    fun r => r.target.isNone && (lookup r.symbol).isNone).map fun r => (r.name, r.symbol)

/-- Renumbering an entry leaves the references in it that have no target. -/
theorem missing_rename (lookup : Option String → Option EntryId) (φ : EntryId → EntryId)
    (e : Entry) : missing lookup (e.rename φ) = missing lookup e := by
  have hrefs : (e.rename φ).ownTypes.flatMap Ty.references =
      (e.ownTypes.flatMap Ty.references).map (Reference.rename φ) := by
    rw [e.ownTypes_rename, List.flatMap_map, List.map_flatMap]
    exact List.flatMap_congr fun t _ => t.references_rename φ
  rw [missing, hrefs, List.filter_map, List.map_map, missing]
  refine congrArg (List.map _) (List.filter_congr fun r _ => ?_)
  cases hr : r.target <;> simp [Reference.rename, hr]

/-- The references without target only depend on which symbols lead somewhere. -/
theorem missing_congr {lookup lookup' : Option String → Option EntryId}
    (h : ∀ s, (lookup s).isNone = (lookup' s).isNone) : missing lookup = missing lookup' := by
  funext e
  simp only [missing, h]

/-- What is missing in a program is missing in its files. -/
theorem LaidOut.map_dangling (h : LaidOut settings X x) :
    (x.atlas.dangling.map (·.2)).map (fun r => (r.name, r.symbol)) =
      X.flatMap fun p => (alone settings p.2).entries.flatMap (missing x.atlas.lookup) := by
  obtain ⟨e, m, he, hb, -⟩ := h.identified.project
  have hhead : e ∈ x.atlas.entries.toList.head? := by
    rw [List.head?_eq_getElem?, Array.getElem?_toList]
    exact he
  have hentries : e :: x.entries = x.atlas.entries.toList := List.cons_head?_tail hhead
  have hproject : x.atlas.danglingIn e = [] := by
    rw [Atlas.danglingIn, Entry.ownTypes, hb]
    rfl
  rw [Atlas.map_snd_dangling, ← hentries, List.flatMap_cons, hproject, List.nil_append, h.entries,
    List.map_flatMap, List.flatMap_assoc]
  refine List.flatMap_congr fun p _ => ?_
  rw [List.flatMap_map]
  exact List.flatMap_congr fun e _ => missing_rename x.atlas.lookup (behind p.1) e

/-! ## Permuted files -/

/-- The files that are laid out are those that are given. -/
theorem mem_offsets {f : Source.File} {n : Nat} {files : List Source.File} :
    (∃ m, (m, f) ∈ offsets settings n files) ↔ f ∈ files := by
  conv_rhs => rw [← @map_snd_offsets settings n files]
  rw [List.mem_map]
  exact ⟨fun ⟨m, hm⟩ => ⟨(m, f), hm, rfl⟩, fun ⟨⟨m, _⟩, hm, heq⟩ => ⟨m, heq ▸ hm⟩⟩

/-- Files in another order are the same files at other places. -/
theorem mem_offsets_perm {n n' : Nat} {files files' : List Source.File} (h : files.Perm files')
    (f : Source.File) : (∃ m, (m, f) ∈ offsets settings n files) ↔
      ∃ m, (m, f) ∈ offsets settings n' files' := by
  rw [mem_offsets, mem_offsets, h.mem_iff]

/-- Where files stand does not matter to what is read off each. -/
theorem map_offsets {β : Type} (g : Source.File → β) (n : Nat) (files : List Source.File) :
    (offsets settings n files).map (fun p => g p.2) = files.map g := by
  conv_rhs => rw [← @map_snd_offsets settings n files]
  rw [List.map_map]
  rfl

/-- What is read off the files is the same in another order, up to the order. -/
theorem flatMap_offsets_perm {β : Type} (g : Source.File → List β) {n n' : Nat}
    {files files' : List Source.File} (h : files.Perm files') :
    ((offsets settings n files).flatMap fun p => g p.2).Perm
      ((offsets settings n' files').flatMap fun p => g p.2) := by
  rw [List.flatMap_def, List.flatMap_def, map_offsets, map_offsets]
  exact h.flatMap_right g

end Draft

namespace Program

open Draft

variable {settings : Settings} {files files' : List Source.File}

/-- The outline of the outcome is that of the converted files. -/
theorem convert_outline {d : Draft} {r : Resolved} (h : convert settings files = .ok (d, r)) :
    r.atlas.outline = .ok ((ofFiles settings files).atlas.rowsAt
      ((ofFiles settings files).atlas.size + 1) "" Atlas.root) := by
  obtain ⟨rfl, hresolves, -⟩ := convert_ok h
  have hmem := ofFiles_mem_states settings files
  have hid := hresolves.identified (states_identified _ hmem).1
  have hparent : ∀ p, ∀ c ∈ r.atlas.childrenOf p, r.atlas.parent? c = some p := by
    intro p c hc
    rw [hresolves.parent?_eq]
    exact (states_placed _ hmem).parent p c (hresolves.childrenOf_eq p ▸ hc)
  rw [hid.outline_eq hparent, hresolves.rowsAt_eq, hresolves.size_eq]

section

variable (hperm : files.Perm files')
  (hapart : files.Pairwise (Source.File.Unrelated settings.mode))

include hperm hapart

/-- Files in another order are converted to as many entries. -/
theorem size_ofFiles_perm :
    (ofFiles settings files').atlas.size = (ofFiles settings files).atlas.size := by
  have hapart' := hperm.pairwise hapart fun h => h.symm
  rw [(ofFiles_laidOut hapart').size, (ofFiles_laidOut hapart).size, map_offsets, map_offsets,
    (hperm.map _).sum_nat]

/-- Files in another order have the same rows, up to the order. -/
theorem rows_ofFiles_perm (depth : Nat) :
    ((ofFiles settings files).atlas.rowsAt (depth + 1) "" Atlas.root).Perm
      ((ofFiles settings files').atlas.rowsAt (depth + 1) "" Atlas.root) := by
  have hapart' := hperm.pairwise hapart fun h => h.symm
  rw [(ofFiles_laidOut hapart).rowsAt_root, (ofFiles_laidOut hapart').rowsAt_root]
  exact flatMap_offsets_perm (fun f => (alone settings f).atlas.rowsAt (depth + 1) "" Atlas.root)
    hperm

/-- Entries that come from one entry of a file correspond, whatever the order of files. -/
theorem matching_ofFiles_perm :
    Atlas.Matching (Shared settings (offsets settings 0 files) (offsets settings 0 files'))
      (ofFiles settings files).atlas.resolveReferences
      (ofFiles settings files').atlas.resolveReferences := by
  have hapart' := hperm.pairwise hapart fun h => h.symm
  exact (ofFiles_laidOut hapart).matching (ofFiles_laidOut hapart') (mem_offsets_perm hperm)
    (size_ofFiles_perm hperm hapart)

/-- Files in another order leave the same references without target, up to the order. -/
theorem dangling_ofFiles_perm :
    (((ofFiles settings files).atlas.dangling.map (·.2)).map fun u => (u.name, u.symbol)).Perm
      (((ofFiles settings files').atlas.dangling.map (·.2)).map fun u => (u.name, u.symbol)) := by
  have hx := ofFiles_laidOut hapart
  have hy := ofFiles_laidOut (hperm.pairwise hapart fun h => h.symm)
  have hlookup : ∀ s, ((ofFiles settings files).atlas.lookup s).isNone =
      ((ofFiles settings files').atlas.lookup s).isNone := by
    intro s
    have hrel := hx.lookup_rel hy (mem_offsets_perm hperm) s
    generalize (ofFiles settings files).atlas.lookup s = i at hrel ⊢
    generalize (ofFiles settings files').atlas.lookup s = j at hrel ⊢
    cases hrel <;> rfl
  rw [hx.map_dangling, hy.map_dangling, ← missing_congr hlookup]
  exact flatMap_offsets_perm (fun f => (alone settings f).entries.flatMap (missing _)) hperm

/-- Files that can be converted can be in another order. -/
theorem convert_ok_of_perm (h : ∃ made, convert settings files = .ok made) :
    ∃ made, convert settings files' = .ok made := by
  obtain ⟨hfiles, hends⟩ := convert_ok_iff.1 h
  exact convert_ok_iff.2
    ⟨fun hnil => hfiles (List.perm_nil.1 (hnil ▸ hperm)),
      (matching_ofFiles_perm hperm hapart).ends hends⟩

end

end Program

/-- Files no two of which share a symbol may be converted in any order. If the conversion fails, it
fails for the same reason; otherwise the outlines have the same rows, and the references that are
left without target have the same names and symbols, each as often. -/
theorem convert_fileOrder (settings : Settings) {files files' : List Source.File}
    (hperm : files.Perm files')
    (hapart : files.Pairwise (Source.File.Unrelated settings.mode)) :
    (∀ e, Program.convert settings files = .error e ↔
      Program.convert settings files' = .error e) ∧
    ∀ d r d' r', Program.convert settings files = .ok (d, r) →
      Program.convert settings files' = .ok (d', r') →
        (∃ rows rows', r.atlas.outline = .ok rows ∧ r'.atlas.outline = .ok rows' ∧
          rows.Perm rows') ∧
        (r.unresolved.map fun u => (u.name, u.symbol)).Perm
          (r'.unresolved.map fun u => (u.name, u.symbol)) := by
  have hapart' := hperm.pairwise hapart fun h => h.symm
  have error_of_perm : ∀ {fs fs' : List Source.File}, fs.Perm fs' →
      fs'.Pairwise (Source.File.Unrelated settings.mode) → ∀ e,
        Program.convert settings fs = .error e → Program.convert settings fs' = .error e := by
    intro fs fs' hp ha e he
    cases hconvert : Program.convert settings fs' with
    | ok made =>
      obtain ⟨made', hmade'⟩ := Program.convert_ok_of_perm hp.symm ha ⟨made, hconvert⟩
      cases he.symm.trans hmade'
    | error e' =>
      have hnil : fs' = [] ↔ fs = [] := ⟨fun h => (h ▸ hp).eq_nil, fun h => (h ▸ hp).symm.eq_nil⟩
      rw [Program.convert_error hconvert, Program.convert_error he]
      simp only [hnil]
  refine ⟨fun e => ⟨error_of_perm hperm hapart' e, error_of_perm hperm.symm hapart e⟩, ?_⟩
  intro d r d' r' h h'
  refine ⟨⟨_, _, Program.convert_outline h, Program.convert_outline h', ?_⟩, ?_⟩
  · rw [Program.size_ofFiles_perm hperm hapart]
    exact Program.rows_ofFiles_perm hperm hapart _
  · obtain ⟨rfl, -, hleft, -⟩ := Program.convert_ok h
    obtain ⟨rfl, -, hright, -⟩ := Program.convert_ok h'
    rw [hleft, hright]
    exact Program.dangling_ofFiles_perm hperm hapart

/-- Two modules with a namespace of the same name. A class in the first one extends a class in the
second one, along which the documentation of its method is looked up, and a property in the second
one refers to a class that is not there. -/
theorem same_namespaces_fileOrder :
    let asking : Comment := ⟨"", [⟨"inheritdoc", "C.m", none⟩]⟩
    let method : Source.Decl :=
      { kind := .method, name := some "m", symbol := some "a.N.A#m", comment := some asking }
    let property : Source.Decl :=
      { kind := .property, name := some "p", symbol := some "b.N.B#p",
        type := some { form := .reference, name := some "C", symbol := some "c.C" } }
    let first : Source.File :=
      { name := "a.ts",
        decls := [{ kind := .namespace, name := some "N", symbol := some "a.N",
                    children := [{ kind := .class, name := some "A", symbol := some "a.N.A",
                                   bases := [{ form := .reference, name := some "B",
                                               symbol := some "b.N.B" }],
                                   children := [method] }] }] }
    let second : Source.File :=
      { name := "b.ts",
        decls := [{ kind := .namespace, name := some "N", symbol := some "b.N",
                    children := [{ kind := .class, name := some "B", symbol := some "b.N.B",
                                   children := [property] }] }] }
    let settings : Settings := { mode := .modules }
    [first, second].Perm [second, first] ∧
      [first, second].Pairwise (Source.File.Unrelated .modules) ∧
      ∃ d r d' r', Program.convert settings [first, second] = .ok (d, r) ∧
        Program.convert settings [second, first] = .ok (d', r') ∧
        (∃ rows rows', r.atlas.outline = .ok rows ∧ r'.atlas.outline = .ok rows' ∧
          rows.map (·.path) = ["\"a.ts\"", "\"a.ts\".N", "\"a.ts\".N.A", "\"a.ts\".N.A.m",
            "\"b.ts\"", "\"b.ts\".N", "\"b.ts\".N.B", "\"b.ts\".N.B.p"] ∧
          rows.Perm rows') ∧
        (r.unresolved.map fun u => (u.name, u.symbol)) = [("C", some "c.C")] ∧
        (r.unresolved.map fun u => (u.name, u.symbol)).Perm
          (r'.unresolved.map fun u => (u.name, u.symbol)) := by
  intro asking method property first second settings
  have hperm : [first, second].Perm [second, first] := .swap ..
  have hapart : [first, second].Pairwise (Source.File.Unrelated .modules) := by decide +kernel
  have hoks : (Program.convert settings [second, first]).toOption.isSome = true := by
    decide +kernel
  have hmade : (Program.convert settings [first, second]).toOption.map (fun made =>
      (made.2.atlas.outline.toOption.map (List.map (·.path)),
        made.2.unresolved.map fun u => (u.name, u.symbol))) =
      some (some ["\"a.ts\"", "\"a.ts\".N", "\"a.ts\".N.A", "\"a.ts\".N.A.m",
        "\"b.ts\"", "\"b.ts\".N", "\"b.ts\".N.B", "\"b.ts\".N.B.p"],
        [("C", some "c.C")]) := by
    decide +kernel
  cases hconvert : Program.convert settings [first, second] with
  | error e =>
    rw [hconvert] at hmade
    cases hmade
  | ok made =>
    cases hconvert' : Program.convert settings [second, first] with
    | error e =>
      rw [hconvert'] at hoks
      cases hoks
    | ok made' =>
      rw [hconvert] at hmade
      obtain ⟨hpaths, hunresolved⟩ := Prod.mk.inj (Option.some.inj hmade)
      obtain ⟨⟨rows, rows', hrows, hrows', hsame⟩, hleft⟩ :=
        (convert_fileOrder settings hperm hapart).2 _ _ _ _ hconvert hconvert'
      rw [hrows] at hpaths
      exact ⟨hperm, hapart, _, _, _, _, rfl, rfl,
        ⟨rows, rows', hrows, hrows', Option.some.inj hpaths, hsame⟩, hunresolved, hleft⟩

end ApiAtlas
