import ApiAtlas.Proofs.Atlas.Preorder
import ApiAtlas.Proofs.Conversion.Legible
import ApiAtlas.Proofs.Output.Rows
import ApiAtlas.Proofs.Resolution.Outcome

/-!
# Paths

Going down along the children of the project, an outline builds the path of each entry from the
path above it; the full name of an entry is built from below, along its parents. Where children and
parents agree (`Atlas.Charted`), the path of an entry is its full name, and the outline walks over
the children in preorder (`Atlas.Charted.titles_rowsAt`).
-/

set_option autoImplicit false

namespace ApiAtlas

/-- The path and the kind in a row. -/
def OutlineRow.title (row : OutlineRow String) : String × String :=
  (row.path, row.kind)

/-- A path that ends in a name is not empty. -/
theorem OutlineRow.childPath_ne (above : String) {name : String} (h : name ≠ "") :
    childPath above name ≠ "" := by
  unfold childPath
  split <;> simp [h]

namespace Atlas

/-- An atlas in which children and parents agree and everything can be told by its path. -/
structure Charted (a : Atlas) : Prop where
  identified : a.Identified
  placed : a.Placed
  lists : a.ListsDeclared
  legible : a.Legible

variable {a b : Atlas} {i p c : EntryId} {e : Entry} {above : String} {names : List String}
  {steps : Nat}

/-! ## Resolution -/

/-- Resolution leaves what an entry is, its kind and its children. -/
theorem Resolves.exists_keeps (h : a.Resolves b) (he : b.get? i = some e) :
    ∃ e₀, a.get? i = some e₀ ∧ e₀.Keeps e ∧ e.kind = e₀.kind ∧ e.members? = e₀.members? := by
  obtain ⟨e₀, comment, he₀, rfl⟩ := h.exists_get? he
  obtain ⟨e', he', hkeep⟩ := h.grows i e₀ he₀
  obtain rfl := Option.some.inj (he.symm.trans he')
  exact ⟨e₀, he₀, hkeep, e₀.mapTypes_kind _, e₀.members?_mapTypes _⟩

/-- Children and their index are in step still after resolving. -/
theorem Resolves.placed (h : a.Resolves b) (ha : a.Placed) : b.Placed where
  parent p c hc := by
    rw [h.childrenOf_eq] at hc
    rw [h.parent?_eq]
    exact ha.parent p c hc
  listed c e p he hn hp := by
    obtain ⟨e₀, he₀, hkeep, -⟩ := h.exists_keeps he
    rw [h.childrenOf_eq]
    exact ha.listed c e₀ p he₀ (hkeep.isNamed_iff.1 hn) (hkeep.parent.symm.trans hp)
  indexed p e m he hm := by
    obtain ⟨e₀, he₀, -, -, hmembers⟩ := h.exists_keeps he
    exact ha.indexed p e₀ m he₀ (hmembers.symm.trans hm)

/-- Listed children are declared and listed by age still after resolving. -/
theorem Resolves.listsDeclared (h : a.Resolves b) (ha : a.ListsDeclared) : b.ListsDeclared where
  named p c hc := by
    rw [h.childrenOf_eq] at hc
    obtain ⟨e, he, hn⟩ := ha.named p c hc
    obtain ⟨e', he', hkeep⟩ := h.grows c e he
    exact ⟨e', he', hkeep.isNamed_iff.2 hn⟩
  increasing p := h.childrenOf_eq p ▸ ha.increasing p

/-- An atlas is legible still after resolving. -/
theorem Resolves.legible (h : a.Resolves b) (ha : a.Legible) : b.Legible where
  container i e he hi hm := by
    obtain ⟨e₀, he₀, hkeep, -, hmembers⟩ := h.exists_keeps he
    exact hkeep.isDeclaration.trans (ha.container i e₀ he₀ hi (hmembers ▸ hm))
  project i e he hi := by
    obtain ⟨e₀, he₀, -, hkind, -⟩ := h.exists_keeps he
    exact hkind ▸ ha.project i e₀ he₀ hi
  name symbol i hi := by
    have hlookup : b.lookup symbol = a.lookup symbol := by rw [lookup, h.symbols, lookup]
    obtain ⟨e, he, hname⟩ := ha.name symbol i (hlookup ▸ hi)
    obtain ⟨e', he', hkeep⟩ := h.grows i e he
    exact ⟨e', he', hkeep.name ▸ hname⟩

/-- An atlas is charted still after resolving. -/
theorem Resolves.charted (h : a.Resolves b) (ha : a.Charted) : b.Charted :=
  ⟨h.identified ha.identified, h.placed ha.placed, h.listsDeclared ha.lists, h.legible ha.legible⟩

/-- The outcome of a conversion is charted. -/
theorem convert_charted {settings : Settings} {files : List Source.File} {d : Draft}
    {r : Resolved} (h : Program.convert settings files = .ok (d, r)) : r.atlas.Charted := by
  obtain ⟨rfl, hresolves, -⟩ := Program.convert_ok h
  have hmem := ofFiles_mem_states settings files
  exact hresolves.charted ⟨(states_identified _ hmem).1, states_placed _ hmem,
    ofFiles_listsDeclared, ofFiles_legible⟩

/-! ## Full names -/

/-- A walk up that has ended is not changed by more steps. -/
theorem namesUp_succ (h : a.namesUp steps i = .ok names) :
    a.namesUp (steps + 1) i = .ok names := by
  induction steps generalizing i names with
  | zero => cases h
  | succ steps ih =>
    rw [namesUp] at h ⊢
    obtain ⟨e, he, h⟩ := Except.exists_of_bind_eq_ok h
    rw [he]
    simp only [bind, Except.bind] at h ⊢
    split at h
    · exact h
    · next p q hpq =>
      split at h
      · next hk => rw [if_pos hk]; exact h
      · next hk =>
        rw [if_neg hk]
        cases hup : a.namesUp steps p with
        | error m => rw [hup] at h; cases h
        | ok above => rw [hup] at h; rw [ih hup]; exact h

/-- The names on the way up from an entry are not none. -/
theorem namesUp_ne_nil (h : a.namesUp steps i = .ok names) : names ≠ [] := by
  cases steps with
  | zero => cases h
  | succ steps =>
    rw [namesUp] at h
    obtain ⟨e, -, h⟩ := Except.exists_of_bind_eq_ok h
    split at h
    · exact Except.ok.inj h ▸ List.cons_ne_nil _ _
    · split at h
      · exact Except.ok.inj h ▸ List.cons_ne_nil _ _
      · obtain ⟨above, -, h⟩ := Except.exists_of_bind_eq_ok h
        exact Except.ok.inj h ▸ List.concat_ne_nil _ _

/-- Whether a path leads to an entry: the empty one to the project, the full name to any other. -/
inductive IsPath (a : Atlas) : EntryId → String → Prop
  | project : IsPath a root ""
  | below {i : EntryId} {path : String} (hi : i ≠ root) (hpath : path ≠ "")
    (h : a.fullName i = .ok path) : IsPath a i path

/-- The path to an entry other than the project is its full name. -/
theorem IsPath.fullName_eq (h : a.IsPath i above) (hi : i ≠ root) : a.fullName i = .ok above := by
  cases h with
  | project => exact absurd rfl hi
  | below _ _ h => exact h

/-- The full name and the kind of an entry, as they are shown. -/
def title (a : Atlas) (i : EntryId) : String × String :=
  ((a.fullName i).toOption.getD "", ((a.get? i).map (·.kind.text)).getD "")

/-- There are no rows below an entry that cannot have children. -/
theorem rowsAt_of_members? (he : a.get? i = some e) (hm : e.members? = none) (depth : Nat)
    (above : String) : a.rowsAt depth above i = [] := by
  cases depth with
  | zero => rfl
  | succ depth =>
    rw [rowsAt, childrenOf_eq he, hm]
    rfl

namespace Charted

variable (h : a.Charted)
include h

/-- A child is not the project. -/
theorem ne_root_of_child (hc : c ∈ a.childrenOf p) : c ≠ root :=
  Nat.ne_of_gt (Nat.zero_lt_of_lt (h.identified.parent?_lt (h.placed.parent p c hc)))

/-- What is listed as a child has a name. -/
theorem name_ne (hc : c ∈ a.childrenOf p) (he : a.get? c = some e) : e.name ≠ "" := by
  obtain ⟨e', he', hn⟩ := h.lists.named p c hc
  obtain ⟨s, -, hs⟩ := h.identified.named c e' he' hn
  obtain ⟨e'', he'', hname⟩ := h.legible.name (some s) c hs
  exact Option.some.inj (he''.symm.trans he) ▸ hname

/-- Going up from a child, its own name comes after the names on the way up from its container. -/
theorem namesUp_child (hc : c ∈ a.childrenOf p) (he : a.get? c = some e) :
    a.namesUp (a.size + 1) c =
      if p = root then .ok [e.name] else (· ++ [e.name]) <$> a.namesUp (a.size + 1) p := by
  have hpc := h.placed.parent p c hc
  have hparent : e.parent = some p := (parent?_eq he).symm.trans hpc
  obtain ⟨q, hq⟩ := exists_get? (Nat.lt_trans (h.identified.parent?_lt hpc) (get?_lt he))
  obtain ⟨names, hnames⟩ := h.identified.namesUp_ok (get?_lt hq) (get?_lt hq)
  rw [namesUp, fetch, he]
  simp only [bind, Except.bind, hparent, Option.bind_some, hq, Option.map_some]
  rw [hnames, namesUp_succ hnames]
  by_cases hp : p = root
  · obtain ⟨q', m, hq', -, hk, -⟩ := h.identified.project
    obtain rfl := Option.some.inj ((hp ▸ hq').symm.trans hq)
    rw [if_pos hk, if_pos hp]
  · rw [if_neg (h.legible.project p q hq hp), if_neg hp]
    rfl

/-- The path of a child goes on where that of its container ends. -/
theorem isPath_child (hp : a.IsPath p above) (hc : c ∈ a.childrenOf p)
    (he : a.get? c = some e) : a.IsPath c (OutlineRow.childPath above e.name) := by
  have hne := h.ne_root_of_child hc
  have hname := h.name_ne hc he
  have hup := h.namesUp_child hc he
  cases hp with
  | project =>
    refine .below hne hname ?_
    rw [fullName, fullNameWith, hup, if_pos rfl]
    rfl
  | below hi hpath hfull =>
    obtain ⟨names, hnames, hjoin⟩ := Except.exists_of_bind_eq_ok hfull
    obtain rfl := Except.ok.inj hjoin
    have hpath' : ".".intercalate (names ++ [e.name]) =
        OutlineRow.childPath (".".intercalate names) e.name := by
      rw [String.intercalate_append_of_ne_nil (namesUp_ne_nil hnames) (List.cons_ne_nil _ _),
        OutlineRow.childPath, if_neg (by simpa using hpath)]
      rfl
    refine .below hne (OutlineRow.childPath_ne _ hname) ?_
    rw [fullName, fullNameWith, hup, if_neg hi, hnames, ← hpath']
    rfl

/-! ## The outline -/

/-- Each entry has below it what it lists as children. -/
theorem branches : a.Branches a.childrenOf :=
  ⟨fun p => (h.lists.increasing p).imp Nat.ne_of_lt, h.placed.parent⟩

/-- An outline has the titles of the entries below a path, in preorder. -/
theorem titles_rowsAt (depth : Nat) (hp : a.IsPath p above) :
    (a.rowsAt depth above p).map OutlineRow.title =
      (preorder a.childrenOf depth p).tail.map a.title := by
  induction depth generalizing p above with
  | zero => rfl
  | succ depth ih =>
    rw [rowsAt, preorder, List.tail_cons, List.map_flatMap, List.map_flatMap]
    refine List.flatMap_congr fun c hc => ?_
    obtain ⟨e, he, -⟩ := h.lists.named p c hc
    have hpath := h.isPath_child hp hc he
    have hrow : (outlineRow above e).title = a.title c := by
      rw [title, hpath.fullName_eq (h.ne_root_of_child hc), he]
      rfl
    have hrows : a.rowsOf (a.rowsAt depth) above c =
        outlineRow above e :: a.rowsAt depth (OutlineRow.childPath above e.name) c := by
      rw [rowsOf, he]
      refine congrArg (List.cons _) ?_
      split
      · rfl
      · next hm => exact (rowsAt_of_members? he (by simpa using hm) ..).symm
    rw [preorder_eq_cons, List.map_cons, ← ih hpath, hrows, List.map_cons, hrow]

end Charted

end Atlas

end ApiAtlas
