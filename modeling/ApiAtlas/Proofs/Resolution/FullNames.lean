import ApiAtlas.Proofs.Output.Paths
import ApiAtlas.Proofs.Resolution.Counterparts
import ApiAtlas.Proofs.Text.Pieces

/-!
# Looking up full names

The names on the way from the project down to an entry (`Atlas.NamesTo`) are what its full name
joins, and a path of names that leads to an entry consists of them. If the children of a container
have different names, the names on the way lead to the entry, so that its full name does so exactly
when none of them has a dot (`convert_find_fullName`).
-/

set_option autoImplicit false

namespace ApiAtlas

namespace Atlas

/-- Whether no two children of a container have the same name. -/
def DistinctChildren (a : Atlas) : Prop :=
  ∀ p, ((a.childrenOf p).map a.nameOf).Nodup

/-- The names on the way from the project down to an entry. -/
inductive NamesTo (a : Atlas) : EntryId → List String → Prop
  | project : NamesTo a root []
  | child {p c : EntryId} {names : List String} (h : NamesTo a p names)
    (hc : c ∈ a.childrenOf p) : NamesTo a c (names ++ [a.nameOf c])

variable {a : Atlas} {i p c : EntryId} {names : List String}

/-- What is not in an atlas has no children. -/
theorem childrenOf_eq_nil (h : a.size ≤ p) : a.childrenOf p = [] := by
  rw [childrenOf, get?_eq_none h]
  rfl

instance (a : Atlas) : Decidable a.DistinctChildren :=
  decidable_of_iff (∀ p < a.size, ((a.childrenOf p).map a.nameOf).Nodup) <| by
    refine ⟨fun h p => ?_, fun h p _ => h p⟩
    by_cases hp : p < a.size
    · exact h p hp
    · rw [childrenOf_eq_nil (Nat.le_of_not_lt hp)]
      exact List.nodup_nil

/-- A path of several names leads where its last name leads from where the others lead. -/
theorem child?_concat (hne : names ≠ []) (p : EntryId) (name : String) :
    a.child? p (names ++ [name]) = (a.child? p names).bind (a.child? · [name]) := by
  induction names generalizing p with
  | nil => exact absurd rfl hne
  | cons first rest ih =>
    rw [List.cons_append, child?, child?]
    cases ((a.get? p).bind (·.members?)).bind (·.first? first) with
    | none => rfl
    | some q =>
      cases rest with
      | nil => rfl
      | cons second rest => exact ih (List.cons_ne_nil _ _) q

namespace NamesTo

/-- Names lead to each entry that is reached from the project. -/
theorem of_reaches (h : Reaches a.childrenOf root i) : ∃ names, a.NamesTo i names := by
  induction h with
  | refl => exact ⟨[], .project⟩
  | tail _ hc ih =>
    obtain ⟨names, hnames⟩ := ih
    exact ⟨_, hnames.child hc⟩

/-- The names that lead to an entry other than the project are not none. -/
theorem ne_nil (h : a.NamesTo i names) (hne : i ≠ root) : names ≠ [] := by
  cases h with
  | project => exact absurd rfl hne
  | child hp hc => exact List.concat_ne_nil _ _

end NamesTo

/-- A child of the name that a path goes on with. -/
theorem Catalogued.of_child? (h : a.Catalogued) {name : String}
    (hc : a.child? p [name] = some c) : c ∈ a.childrenOf p ∧ a.nameOf c = name := by
  rw [h.child?_eq_find?] at hc
  exact ⟨List.mem_of_find?_eq_some hc, by simpa using List.find?_some hc⟩

/-- A path of names from the project consists of the names on the way to where it leads. -/
theorem Catalogued.namesTo_of_find? (h : a.Catalogued) (hi : a.find? names = some i) :
    a.NamesTo i names := by
  induction names using List.reverseRecOn generalizing i with
  | nil => cases hi
  | append_singleton names name ih =>
    cases names with
    | nil =>
      obtain ⟨hc, rfl⟩ := h.of_child? hi
      exact NamesTo.project.child hc
    | cons first rest =>
      rw [find?, child?_concat (List.cons_ne_nil _ _)] at hi
      obtain ⟨q, hq, hi⟩ := Option.bind_eq_some_iff.1 hi
      obtain ⟨hc, rfl⟩ := h.of_child? hi
      exact (ih hq).child hc

/-- If children have different names, a child is found by its own. -/
theorem Catalogued.child?_nameOf (h : a.Catalogued) (hdistinct : a.DistinctChildren)
    (hc : c ∈ a.childrenOf p) : a.child? p [a.nameOf c] = some c := by
  rw [h.child?_eq_find?]
  cases hfound : (a.childrenOf p).find? (a.nameOf · = a.nameOf c) with
  | none => simpa using List.find?_eq_none.1 hfound c hc
  | some c' =>
    have hname : a.nameOf c' = a.nameOf c := by simpa using List.find?_some hfound
    rw [List.inj_on_of_nodup_map (hdistinct p) (List.mem_of_find?_eq_some hfound) hc hname]

namespace Charted

variable (h : a.Charted)
include h

/-- No names lead to the project. -/
theorem namesTo_root (hi : a.NamesTo root names) : names = [] := by
  cases hi with
  | project => rfl
  | child hp hc => exact absurd rfl (h.ne_root_of_child hc)

/-- The names on the way to an entry are those on the way up from it. -/
theorem namesUp_of_namesTo (hi : a.NamesTo i names) (hne : i ≠ root) :
    a.namesUp (a.size + 1) i = .ok names := by
  induction hi with
  | project => exact absurd rfl hne
  | @child p c names hp hc ih =>
    obtain ⟨e, he, -⟩ := h.lists.named p c hc
    rw [h.namesUp_child hc he, nameOf_eq he]
    by_cases hroot : p = root
    · subst hroot
      rw [if_pos rfl, h.namesTo_root hp]
      rfl
    · rw [if_neg hroot, ih hroot]
      rfl

/-- There is one way to an entry. -/
theorem namesTo_unique {names' : List String} (hi : a.NamesTo i names)
    (hi' : a.NamesTo i names') : names = names' := by
  by_cases hne : i = root
  · subst hne
    rw [h.namesTo_root hi, h.namesTo_root hi']
  · exact Except.ok.inj
      ((h.namesUp_of_namesTo hi hne).symm.trans (h.namesUp_of_namesTo hi' hne))

/-- The full name joins the names on the way with dots. -/
theorem fullName_of_namesTo (hi : a.NamesTo i names) (hne : i ≠ root) :
    a.fullName i = .ok (".".intercalate names) := by
  rw [fullName, fullNameWith, h.namesUp_of_namesTo hi hne]
  rfl

/-- If children have different names, the names on the way to an entry lead to it. -/
theorem find?_of_namesTo (hc : a.Catalogued) (hdistinct : a.DistinctChildren)
    (hi : a.NamesTo i names) (hne : i ≠ root) : a.find? names = some i := by
  induction hi with
  | project => exact absurd rfl hne
  | @child p c names hp hchild ih =>
    have hlast := hc.child?_nameOf hdistinct hchild
    by_cases hroot : p = root
    · subst hroot
      rwa [h.namesTo_root hp]
    · rw [find?, child?_concat (hp.ne_nil hroot)]
      exact Option.bind_eq_some_iff.2 ⟨p, ih hroot, hlast⟩

/-- If children have different names, a path leads to an entry exactly when it consists of the
names on the way. -/
theorem find?_eq_some_iff (hc : a.Catalogued) (hdistinct : a.DistinctChildren)
    (hi : a.NamesTo i names) (hne : i ≠ root) {path : List String} :
    a.find? path = some i ↔ path = names := by
  constructor
  · exact fun hpath => h.namesTo_unique (hc.namesTo_of_find? hpath) hi
  · rintro rfl
    exact h.find?_of_namesTo hc hdistinct hi hne

end Charted

end Atlas

variable {settings : Settings} {files : List Source.File} {d : Draft} {r : Resolved}
  {i : EntryId}

/-- If the children of each container have different names, what can be reached from the project is
found by the names on the way to it, and by its full name exactly when none of them has a dot. -/
theorem convert_find_fullName (h : Program.convert settings files = .ok (d, r))
    (hdistinct : r.atlas.DistinctChildren) (hne : i ≠ Atlas.root)
    (hreach : Atlas.Reaches r.atlas.childrenOf Atlas.root i) :
    ∃ names, r.atlas.NamesTo i names ∧ r.atlas.find? names = some i ∧
      ∃ text, r.atlas.fullName i = .ok text ∧
        (r.atlas.find? (Text.dotted text) = some i ↔ ∀ name ∈ names, '.' ∉ name.toList) := by
  have hcharted := Atlas.convert_charted h
  obtain ⟨rfl, hresolves, -⟩ := Program.convert_ok h
  have hcatalogued := hresolves.catalogued (states_catalogued _ (ofFiles_mem_states settings files))
  obtain ⟨names, hnames⟩ := Atlas.NamesTo.of_reaches hreach
  refine ⟨names, hnames, hcharted.find?_of_namesTo hcatalogued hdistinct hnames hne,
    _, hcharted.fullName_of_namesTo hnames hne, ?_⟩
  rw [hcharted.find?_eq_some_iff hcatalogued hdistinct hnames hne]
  exact Text.dotted_intercalate_eq_iff (hnames.ne_nil hne)

/-- A class in a namespace: both names are free of dots. -/
theorem nested_class_found :
    let file : Source.File :=
      { name := "a.ts",
        decls :=
          [{ kind := .namespace, name := some "N", symbol := some "N",
             children := [{ kind := .class, name := some "A", symbol := some "N.A" }] }] }
    ∃ d r, Program.convert {} [file] = .ok (d, r) ∧ r.atlas.DistinctChildren ∧
      Atlas.Reaches r.atlas.childrenOf Atlas.root 2 ∧
      ∃ names, r.atlas.NamesTo 2 names ∧ r.atlas.find? names = some 2 ∧
        ∃ text, r.atlas.fullName 2 = .ok text ∧
          (r.atlas.find? (Text.dotted text) = some 2 ↔ ∀ name ∈ names, '.' ∉ name.toList) := by
  intro file
  have hmade : (Program.convert {} [file]).toOption.map (fun made =>
      (decide made.2.atlas.DistinctChildren, made.2.atlas.childrenOf Atlas.root,
        made.2.atlas.childrenOf 1)) = some (true, [1], [2]) := by
    decide +kernel
  obtain ⟨d, r, hconvert, hmade⟩ := Program.exists_convert hmade
  simp only [Prod.mk.injEq, decide_eq_true_eq] at hmade
  obtain ⟨hdistinct, hroot, hmodule⟩ := hmade
  have hreach : Atlas.Reaches r.atlas.childrenOf Atlas.root 2 :=
    (Relation.ReflTransGen.single (hroot ▸ List.mem_singleton_self 1)).tail
      (hmodule ▸ List.mem_singleton_self 2)
  exact ⟨d, r, hconvert, hdistinct, hreach,
    convert_find_fullName hconvert hdistinct (by decide) hreach⟩

/-- The name of the module of a file has a dot, so the full name of a class in it leads nowhere. -/
theorem class_in_module_not_found :
    let file : Source.File :=
      { name := "a.ts", decls := [{ kind := .class, name := some "A", symbol := some "A" }] }
    ∃ d r, Program.convert { mode := .modules } [file] = .ok (d, r) ∧ r.atlas.DistinctChildren ∧
      r.atlas.childrenOf Atlas.root = [1] ∧ r.atlas.childrenOf 1 = [2] ∧
      r.atlas.fullName 2 = .ok "\"a.ts\".A" ∧
      r.atlas.find? (Text.dotted "\"a.ts\".A") = none := by
  intro file
  have hmade : (Program.convert { mode := .modules } [file]).toOption.map (fun made =>
      (decide made.2.atlas.DistinctChildren, made.2.atlas.childrenOf Atlas.root,
        made.2.atlas.childrenOf 1, decide (made.2.atlas.fullName 2 = .ok "\"a.ts\".A"),
        made.2.atlas.find? (Text.dotted "\"a.ts\".A"))) =
      some (true, [1], [2], true, none) := by
    decide +kernel
  obtain ⟨d, r, hconvert, hmade⟩ := Program.exists_convert hmade
  simp only [Prod.mk.injEq, decide_eq_true_eq] at hmade
  obtain ⟨hdistinct, hroot, hmodule, hname, hfind⟩ := hmade
  exact ⟨d, r, hconvert, hdistinct, hroot, hmodule, hname, hfind⟩

end ApiAtlas
