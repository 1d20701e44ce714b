import ApiAtlas.Proofs.Conversion.SideBySide
import ApiAtlas.Proofs.Resolution.Ends
import ApiAtlas.Proofs.Resolution.Targets

/-!
# Layouts of the same files

Once references are resolved, what is read off an entry of a file does not depend on where the file
stands among others, save for the numbers of the entries. So the atlases of two layouts of the same
files match (`Draft.LaidOut.matching`): searches along first bases pass entries that correspond to
each other (`Atlas.Matching`), and such a search ends in the one if it ends in the other.
-/

set_option autoImplicit false

/-! ## Matching atlases -/

namespace ApiAtlas

namespace Atlas

/-- A correspondence between the entries of two atlases that searches respect. -/
structure Matching (R : EntryId → EntryId → Prop) (a b : Atlas) : Prop where
  identified : b.Identified
  size : b.size = a.size
  lt : ∀ {i j}, R i j → j < b.size
  bases : ∀ {i j}, R i j → Option.Rel
    (fun d d' => Option.Rel R (a.firstBase? d) (b.firstBase? d')) (a.details? i) (b.details? j)
  first : ∀ {i j}, R i j → ∀ name, Option.Rel R
    (((a.get? i).bind (·.members?)).bind (·.first? name))
    (((b.get? j).bind (·.members?)).bind (·.first? name))
  parents : ∀ {i j}, R i j →
    Option.Rel R ((a.parent? i).filter a.isDeclaration) ((b.parent? j).filter b.isDeclaration)
  comments : ∀ {i j}, R i j → b.commentOf j = a.commentOf i
  onto : ∀ j, b.isDeclaration j = true → ∃ i, a.isDeclaration i = true ∧ R i j

namespace Matching

variable {R : EntryId → EntryId → Prop} {a b : Atlas} {i j : EntryId} {names : List String}

/-- Corresponding entries have corresponding children under a path of names. -/
theorem child? (h : Matching R a b) (hR : R i j) (names : List String) :
    Option.Rel R (a.child? i names) (b.child? j names) := by
  induction names generalizing i j with
  | nil => exact .none
  | cons name names ih =>
    have hfirst := h.first hR name
    rw [Atlas.child?, Atlas.child?]
    generalize ((a.get? i).bind (·.members?)).bind (·.first? name) = c at hfirst ⊢
    generalize ((b.get? j).bind (·.members?)).bind (·.first? name) = c' at hfirst ⊢
    cases hfirst with
    | none => exact .none
    | some hc =>
      dsimp only
      split
      · exact .some hc
      · exact ih hc

/-- A search that ends in one of the atlases ends in the other one. -/
theorem searchBases_ok (h : Matching R a b) {steps : Nat} (hR : R i j)
    (ha : ∃ found, a.searchBases names steps i = .ok found) :
    ∃ found, b.searchBases names steps j = .ok found := by
  induction steps generalizing i j with
  | zero =>
    obtain ⟨found, hfound⟩ := ha
    cases hfound
  | succ steps ih =>
    obtain ⟨found, hfound⟩ := ha
    have hbases := h.bases hR
    have hchild := h.child? hR names
    rw [searchBases] at hfound ⊢
    generalize a.details? i = d at hbases hfound
    generalize b.details? j = d' at hbases ⊢
    cases hbases with
    | none => exact h.identified.searchOutward_ok (Nat.succ_lt_succ (h.lt hR))
    | @some d d' hbase =>
      dsimp only at hfound ⊢
      generalize a.child? i names = c at hchild hfound
      generalize b.child? j names = c' at hchild ⊢
      cases hchild with
      | some => exact ⟨_, rfl⟩
      | none =>
        dsimp only at hfound ⊢
        have haround : ∃ around, b.searchOutward names (b.size + 1) (b.parent? j) = .ok around :=
          h.identified.searchAround_ok (h.lt hR)
        generalize a.firstBase? d = base at hbase hfound
        generalize b.firstBase? d' = base' at hbase ⊢
        cases hbase with
        | none => exact haround
        | some hbase =>
          obtain ⟨inherited, hinherited, -⟩ := Except.exists_of_bind_eq_ok hfound
          obtain ⟨inherited', hinherited'⟩ := ih hbase ⟨inherited, hinherited⟩
          dsimp only
          rw [hinherited']
          cases inherited' with
          | none => exact haround
          | some found => exact ⟨some found, rfl⟩

/-- A search that ends for an entry ends for the corresponding one. -/
theorem sourceEnds (h : Matching R a b) (hR : R i j) (ha : a.SourceEnds i) : b.SourceEnds j := by
  intro c t hc ht htext
  obtain hempty | hends := namedSource_ok_iff.1 (ha c t (h.comments hR ▸ hc) ht htext)
  · exact namedSource_ok_iff.2 (.inl hempty)
  · refine namedSource_ok_iff.2 (.inr fun start hstart => ?_)
    have hparents := h.parents hR
    rw [hstart] at hparents
    generalize hp : (a.parent? i).filter a.isDeclaration = p at hparents
    cases hparents with
    | some hstarts => exact h.size ▸ h.searchBases_ok hstarts (hends _ hp)

/-- When all searches for documentation end in one of the atlases, they do in the other one. -/
theorem ends (h : Matching R a b) (ha : ∀ d ∈ a.declarations, a.SourceEnds d) :
    ∀ d ∈ b.declarations, b.SourceEnds d := by
  intro d hd
  obtain ⟨i, hi, hR⟩ := h.onto d (mem_declarations.1 hd)
  exact h.sourceEnds hR (ha i (mem_declarations.2 hi))

end Matching

end Atlas

end ApiAtlas

/-! ## Two layouts -/

namespace ApiAtlas

/-- Renumbering members renumbers the first one of a name. -/
theorem Members.first?_rename (φ : EntryId → EntryId) (m : Members) (name : String) :
    (m.rename φ).first? name = (m.first? name).map φ := by
  rw [first?, rename, Table.get?_mapValues, first?]
  cases m.byName.get? name with
  | none => rfl
  | some bucket => exact List.head?_map

/-- What an open type refers to after it is renumbered and resolved. -/
theorem Ty.target?_resolve_rename {t : Ty} (h : t.IsOpen) (φ : EntryId → EntryId)
    (lookup : Option String → Option EntryId) :
    ((t.rename φ).resolve lookup).target? = t.reference?.bind fun r => lookup r.symbol := by
  rw [target?, reference?_resolve, reference?_rename]
  cases hr : t.reference? with
  | none => rfl
  | some r =>
    have hmem : r ∈ t.references := by
      rw [references_eq]
      exact List.mem_append_left _ (Option.mem_toList.2 hr)
    simp [Reference.rename, Reference.resolve, h r hmem]

namespace Atlas

variable {a : Atlas}

/-- What is found under a name is a child. -/
theorem Placed.mem_childrenOf_of_first? (h : a.Placed) {i c : EntryId} {name : String}
    (hc : ((a.get? i).bind (·.members?)).bind (·.first? name) = some c) :
    c ∈ a.childrenOf i := by
  obtain ⟨m, hm, hfirst⟩ := Option.bind_eq_some_iff.1 hc
  obtain ⟨e, he, hem⟩ := Option.bind_eq_some_iff.1 hm
  rw [childrenOf_eq he, hem]
  exact h.indexed i e m he hem name c (List.mem_of_mem_head? hfirst)

end Atlas

namespace Draft

open Atlas (root)

variable {settings : Settings} {X Y : List (Nat × Source.File)} {x y : Draft}
  {f : Source.File} {n n' : Nat} {i j k : EntryId} {e : Entry}

/-- Entries that come from the same entry of a file, in two layouts. -/
inductive Shared (settings : Settings) (X Y : List (Nat × Source.File)) : EntryId → EntryId → Prop
  | mk {n n' : Nat} {f : Source.File} {k : EntryId} (hp : (n, f) ∈ X) (hq : (n', f) ∈ Y)
    (hk : k < (alone settings f).atlas.size) (hne : k ≠ root) :
    Shared settings X Y (k + n) (k + n')

/-- What comes from one entry of a file in two layouts corresponds. -/
theorem rel_shared (hp : (n, f) ∈ X) (hq : (n', f) ∈ Y) {o : Option EntryId}
    (ho : ∀ c ∈ o, c < (alone settings f).atlas.size ∧ c ≠ root) :
    Option.Rel (Shared settings X Y) (o.map (behind n)) (o.map (behind n')) := by
  cases o with
  | none => exact .none
  | some c =>
    obtain ⟨hlt, hne⟩ := ho c rfl
    rw [Option.map_some, Option.map_some, behind_of_ne hne, behind_of_ne hne]
    exact .some (.mk hp hq hlt hne)

namespace LaidOut

/-- An entry of a laid out file is the renumbered entry of the file alone, with its types resolved.
-/
theorem get?_resolveReferences (h : LaidOut settings X x) (hp : (n, f) ∈ X) (hne : k ≠ root)
    (he : (alone settings f).atlas.get? k = some e) :
    x.atlas.resolveReferences.get? (k + n) =
      some ((e.rename (behind n)).mapTypes (Ty.resolve x.atlas.lookup)) := by
  rw [Atlas.get?_resolveReferences, h.entry _ hp k e hne he, Option.map_some]

/-- An entry of a laid out file is a declaration just when it is one in the file alone. -/
theorem isDeclaration_eq (h : LaidOut settings X x) (hp : (n, f) ∈ X) (hne : k ≠ root)
    (hk : k < (alone settings f).atlas.size) :
    x.atlas.resolveReferences.isDeclaration (k + n) =
      (alone settings f).atlas.isDeclaration k := by
  obtain ⟨e, he⟩ := Atlas.exists_get? hk
  rw [Atlas.isDeclaration_eq (h.get?_resolveReferences hp hne he), Atlas.isDeclaration_eq he]
  have hkeep := ((e.rename (behind n)).keeps_mapTypes (Ty.resolve x.atlas.lookup)).isDeclaration
  exact hkeep.trans (e.isDeclaration_rename _)

/-- What is found under a name in an entry of a laid out file is found there in the file alone. -/
theorem first?_eq (h : LaidOut settings X x) (hp : (n, f) ∈ X) (hne : k ≠ root)
    (hk : k < (alone settings f).atlas.size) (name : String) :
    ((x.atlas.resolveReferences.get? (k + n)).bind (·.members?)).bind (·.first? name) =
      ((((alone settings f).atlas.get? k).bind (·.members?)).bind (·.first? name)).map
        (behind n) := by
  obtain ⟨e, he⟩ := Atlas.exists_get? hk
  rw [h.get?_resolveReferences hp hne he, he, Option.bind_some, Entry.members?_mapTypes,
    Entry.members?_rename, Option.bind_some]
  cases e.members? with
  | none => rfl
  | some m => exact m.first?_rename _ name

/-- An entry of a laid out file has the comment that it has in the file alone. -/
theorem commentOf_eq (h : LaidOut settings X x) (hp : (n, f) ∈ X) (hne : k ≠ root)
    (hk : k < (alone settings f).atlas.size) :
    x.atlas.resolveReferences.commentOf (k + n) = (alone settings f).atlas.commentOf k := by
  obtain ⟨e, he⟩ := Atlas.exists_get? hk
  rw [Atlas.commentOf, h.get?_resolveReferences hp hne he, Atlas.commentOf, he]
  obtain ⟨name, kind, flags, comment, parent, body⟩ := e
  cases body <;> rfl

/-- A layout is identified once references are resolved. -/
theorem resolveReferences_identified (h : LaidOut settings X x) :
    x.atlas.resolveReferences.Identified :=
  x.atlas.resolves_resolveReferences.identified h.identified

/-- The declaration around an entry is as if the file were alone. -/
theorem parent?_eq (h : LaidOut settings X x) (hp : (n, f) ∈ X) (hne : k ≠ root)
    (hk : k < (alone settings f).atlas.size) :
    (x.atlas.resolveReferences.parent? (k + n)).filter x.atlas.resolveReferences.isDeclaration =
      (((alone settings f).atlas.parent? k).filter (alone settings f).atlas.isDeclaration).map
        (behind n) := by
  have halone := alone_identified settings f
  obtain ⟨e, he⟩ := Atlas.exists_get? hk
  obtain ⟨q, hq, hqk⟩ := halone.older k e he hne
  rw [Atlas.parent?_eq (h.get?_resolveReferences hp hne he), Entry.mapTypes_parent,
    Entry.rename_parent, Atlas.parent?_eq he, hq, Option.map_some]
  by_cases hroot : q = root
  · subst hroot
    rw [behind_root, Option.filter_some, Option.filter_some,
      h.resolveReferences_identified.isDeclaration_root, halone.isDeclaration_root]
    rfl
  · have hdecl := h.isDeclaration_eq hp hroot (Nat.lt_trans hqk hk)
    rw [Option.filter_some, Option.filter_some, behind_of_ne hroot, hdecl]
    split
    · rw [Option.map_some, behind_of_ne hroot]
    · rfl

/-- The first base of a declaration is what the symbol of its first extended type stands for. -/
theorem firstBase?_eq (h : LaidOut settings X x) (hp : (n, f) ∈ X) (hne : k ≠ root)
    (hk : k < (alone settings f).atlas.size) :
    (x.atlas.resolveReferences.details? (k + n)).map x.atlas.resolveReferences.firstBase? =
      ((alone settings f).atlas.details? k).map fun d =>
        (d.extended.head?.bind Ty.reference?).bind fun r => x.atlas.lookup r.symbol := by
  obtain ⟨e, he⟩ := Atlas.exists_get? hk
  have hopen := (states_kept _ (alone_mem_states settings f)).2 k e he
  rw [Atlas.details?, h.get?_resolveReferences hp hne he, Atlas.details?, he]
  obtain ⟨name, kind, flags, comment, parent, body⟩ := e
  cases body with
  | declaration m d =>
    refine congrArg some ?_
    cases hext : d.extended with
    | nil => simp [Atlas.firstBase?, Details.rename, hext]
    | cons t ts =>
      have ht : t.IsOpen := hopen t (by simp [Entry.ownTypes, hext])
      have htarget := Ty.target?_resolve_rename ht (behind n) x.atlas.lookup
      simp only [Atlas.firstBase?, Details.rename, hext, List.map_cons, htarget, List.head?_cons,
        Option.bind_some]
      cases hbase : t.reference?.bind fun r => x.atlas.lookup r.symbol with
      | none => rfl
      | some base =>
        obtain ⟨r, -, hlookup⟩ := Option.bind_eq_some_iff.1 hbase
        exact if_pos (h.resolveReferences_identified.isDeclaration_of_lookup hlookup)
  | _ => rfl

section

variable (hx : LaidOut settings X x) (hy : LaidOut settings Y y)
  (hXY : ∀ f, (∃ n, (n, f) ∈ X) ↔ ∃ n, (n, f) ∈ Y)

include hx hy hXY

/-- A symbol stands for entries that come from the same entry of a file. -/
theorem lookup_rel (s : Option String) :
    Option.Rel (Shared settings X Y) (x.atlas.lookup s) (y.atlas.lookup s) := by
  cases s with
  | none => exact .none
  | some s =>
    rw [Atlas.lookup, Atlas.lookup, Option.bind_some, Option.bind_some]
    by_cases hs : ∃ p ∈ X, p.2.Carries settings.mode s
    · obtain ⟨⟨n, f⟩, hp, hs⟩ := hs
      obtain ⟨n', hq⟩ := (hXY f).1 ⟨n, hp⟩
      rw [hx.registered _ hp s hs, hy.registered _ hq s hs]
      refine rel_shared hp hq fun c hc => ?_
      have halone := alone_identified settings f
      have hdecl := halone.isDeclaration_of_lookup (Atlas.lookup_eq_some_iff.2 ⟨s, rfl, hc⟩)
      exact ⟨Atlas.lt_of_isDeclaration hdecl, halone.ne_root hdecl⟩
    · have hfree : ∀ q ∈ Y, ¬q.2.Carries settings.mode s := by
        rintro ⟨n', f⟩ hq hqs
        obtain ⟨n, hp⟩ := (hXY f).2 ⟨n', hq⟩
        exact hs ⟨(n, f), hp, hqs⟩
      rw [hx.free s fun p hp hps => hs ⟨p, hp, hps⟩, hy.free s hfree]
      exact .none

/-- Entries that come from one entry of a file have corresponding first bases. -/
theorem firstBase?_rel (hR : Shared settings X Y i j) : Option.Rel
    (fun d d' => Option.Rel (Shared settings X Y) (x.atlas.resolveReferences.firstBase? d)
      (y.atlas.resolveReferences.firstBase? d'))
    (x.atlas.resolveReferences.details? i) (y.atlas.resolveReferences.details? j) := by
  obtain @⟨n, n', f, k, hp, hq, hk, hne⟩ := hR
  have hleft := hx.firstBase?_eq hp hne hk
  have hright := hy.firstBase?_eq hq hne hk
  cases hd : (alone settings f).atlas.details? k with
  | none =>
    rw [hd] at hleft hright
    rw [Option.map_eq_none_iff.1 hleft, Option.map_eq_none_iff.1 hright]
    exact .none
  | some d₀ =>
    rw [hd] at hleft hright
    obtain ⟨d, hd, hbase⟩ := Option.map_eq_some_iff.1 hleft
    obtain ⟨d', hd', hbase'⟩ := Option.map_eq_some_iff.1 hright
    rw [hd, hd']
    refine .some ?_
    rw [hbase, hbase']
    dsimp only
    cases d₀.extended.head?.bind Ty.reference? with
    | none => exact .none
    | some r => exact hx.lookup_rel hy hXY r.symbol

/-- Each declaration of a layout comes from an entry that is in the other layout too. -/
theorem exists_shared (hj : y.atlas.resolveReferences.isDeclaration j = true) :
    ∃ i, x.atlas.resolveReferences.isDeclaration i = true ∧ Shared settings X Y i j := by
  have hid := hy.resolveReferences_identified
  have hlt := Atlas.lt_of_isDeclaration hj
  rw [y.atlas.resolves_resolveReferences.size_eq] at hlt
  obtain ⟨⟨n', f⟩, hq, k, hk, hne, rfl⟩ := hy.cover j hlt (hid.ne_root hj)
  obtain ⟨n, hp⟩ := (hXY f).2 ⟨n', hq⟩
  refine ⟨k + n, ?_, .mk hp hq hk hne⟩
  rwa [hx.isDeclaration_eq hp hne hk, ← hy.isDeclaration_eq hq hne hk]

/-- The atlases of two layouts of the same files match. -/
theorem matching (hsize : y.atlas.size = x.atlas.size) :
    Atlas.Matching (Shared settings X Y) x.atlas.resolveReferences
      y.atlas.resolveReferences where
  identified := hy.resolveReferences_identified
  size := by
    rw [y.atlas.resolves_resolveReferences.size_eq, x.atlas.resolves_resolveReferences.size_eq,
      hsize]
  lt := by
    rintro _ _ ⟨-, hq, hk, hne⟩
    obtain ⟨e, he⟩ := Atlas.exists_get? hk
    exact Atlas.get?_lt (hy.get?_resolveReferences hq hne he)
  bases := hx.firstBase?_rel hy hXY
  first := by
    rintro _ _ @⟨n, n', f, k, hp, hq, hk, hne⟩ name
    rw [hx.first?_eq hp hne hk, hy.first?_eq hq hne hk]
    refine rel_shared hp hq fun c hc => ?_
    have hmem := (states_placed _ (alone_mem_states settings f)).mem_childrenOf_of_first? hc
    exact ⟨(alone_identified settings f).children k c hmem, ne_root_of_mem_childrenOf hmem⟩
  parents := by
    rintro _ _ @⟨n, n', f, k, hp, hq, hk, hne⟩
    rw [hx.parent?_eq hp hne hk, hy.parent?_eq hq hne hk]
    refine rel_shared hp hq fun c hc => ?_
    have hdecl := (Option.filter_eq_some_iff.1 hc).2
    exact ⟨Atlas.lt_of_isDeclaration hdecl,
      (alone_identified settings f).ne_root hdecl⟩
  comments := by
    rintro _ _ ⟨hp, hq, hk, hne⟩
    rw [hx.commentOf_eq hp hne hk, hy.commentOf_eq hq hne hk]
  onto _ hj := hx.exists_shared hy hXY hj

end

end LaidOut

end Draft

end ApiAtlas
