import ApiAtlas.Proofs.Atlas.Preorder
import ApiAtlas.Proofs.Atlas.Traversal
import ApiAtlas.Proofs.Conversion.Children
import ApiAtlas.Proofs.Conversion.Ownership
import ApiAtlas.Proofs.Conversion.Stratified
import ApiAtlas.Proofs.Output.EntryIds
import ApiAtlas.Proofs.Resolution.Hierarchies
import Mathlib.Data.Finset.Card
import Mathlib.Data.Finset.Range

/-!
# Complete writing

Writing goes from an entry to what it holds and to what is inside the types of its hierarchy, which
other entries hold. In a stratified atlas that always leads on in one order: from the ground to what
is written inside types, and to younger entries otherwise. So writing ends before the depth is used
up, and apart from the hierarchies it walks over what is held in preorder: it meets each entry of
the atlas once.
-/

set_option autoImplicit false

namespace ApiAtlas

open Source (Decl PlainInlined)

/-- The inline declarations of an entry are not among its children, if it holds nothing twice. -/
theorem Entry.notMem_ids_of_literal {e : Entry} {m : Members} {c : EntryId} (h : e.held.Nodup)
    (hm : e.members? = some m) (hc : c ∈ e.ownTypes.flatMap Ty.literals) : c ∉ m.ids := by
  obtain ⟨name, kind, flags, comment, parent, body⟩ := e
  cases body with
  | declaration m' d =>
    obtain rfl : m' = m := Option.some.inj hm
    have hd : c ∈ d.held := by
      simp only [Entry.ownTypes, List.flatMap_append] at hc
      simp only [Details.held, List.mem_append]
      have htypes := (List.mem_append.1 hc).imp List.mem_append.1 id
      exact .inl (.inl (.inl (.inl (.inr htypes))))
    exact List.disjoint_of_nodup_append h hd
  | container | project => cases hc
  | _ => cases hm

namespace Atlas

variable {a : Atlas} {ds : List Decl} {i j k c p : EntryId} {e : Entry}

/-! ## The order of writing -/

/-- Whether an entry comes before another one in the order of writing: what is on the ground before
what is not, and an older entry before a younger one of the same stratum. -/
def Precedes (a : Atlas) (ds : List Decl) (i j : EntryId) : Prop :=
  a.OnGround ds i ∧ ¬ a.OnGround ds j ∨ (a.OnGround ds i ↔ a.OnGround ds j) ∧ i < j

/-- No entry comes before itself in the order of writing. -/
theorem not_precedes_self : ¬ a.Precedes ds i i := by
  rintro (⟨hi, hi'⟩ | ⟨-, hlt⟩)
  · exact hi' hi
  · exact Nat.lt_irrefl i hlt

/-- The order of writing is transitive. -/
theorem Precedes.trans (hij : a.Precedes ds i j) (hjk : a.Precedes ds j k) :
    a.Precedes ds i k := by
  rcases hij with ⟨hi, hj⟩ | ⟨hij, hlt⟩ <;> rcases hjk with ⟨hj', hk⟩ | ⟨hjk, hlt'⟩
  · exact absurd hj' hj
  · exact .inl ⟨hi, mt hjk.2 hj⟩
  · exact .inl ⟨hij.2 hj', hk⟩
  · exact .inr ⟨hij.trans hjk, Nat.lt_trans hlt hlt'⟩

open Classical in
/-- How many entries an entry comes before. -/
noncomputable def height (a : Atlas) (ds : List Decl) (i : EntryId) : Nat :=
  {j ∈ Finset.range a.size | a.Precedes ds i j}.card

/-- An entry that comes before another one is higher. -/
theorem Precedes.height_lt (h : a.Precedes ds i j) (hj : j < a.size) :
    a.height ds j < a.height ds i := by
  classical
  refine Finset.card_lt_card (Finset.ssubset_iff_of_subset ?_ |>.2 ⟨j, ?_, ?_⟩)
  · exact Finset.monotone_filter_right _ fun _ _ hjk => h.trans hjk
  · exact Finset.mem_filter.2 ⟨Finset.mem_range.2 hj, h⟩
  · exact fun hmem => not_precedes_self (Finset.mem_filter.1 hmem).2

/-- The height of an entry is less than the number of entries. -/
theorem height_lt_size (hi : i < a.size) : a.height ds i < a.size := by
  classical
  calc
    a.height ds i < (Finset.range a.size).card := by
      refine Finset.card_lt_card (Finset.ssubset_iff_of_subset (Finset.filter_subset _ _) |>.2
        ⟨i, Finset.mem_range.2 hi, ?_⟩)
      exact fun hmem => not_precedes_self (Finset.mem_filter.1 hmem).2
    _ = a.size := Finset.card_range _

/-- In a stratified atlas an entry comes after its parent. -/
theorem Stratified.precedes_of_parent? (h : a.Stratified ds) (ha : a.Identified)
    (hp : a.parent? c = some p) : a.Precedes ds p c := by
  have hlt := ha.parent?_lt hp
  by_cases hc : a.OnGround ds c
  · rcases hc with rfl | ⟨d, hd, hlookup⟩
    · exact absurd hlt (Nat.not_lt_zero p)
    · obtain ⟨e, q, he, hq, hground⟩ := h.parent d hd c hlookup
      obtain rfl : q = p := Option.some.inj (hq.symm.trans ((parent?_eq he).symm.trans hp))
      exact .inr ⟨iff_of_true hground (.inr ⟨d, hd, hlookup⟩), hlt⟩
  · by_cases hground : a.OnGround ds p
    · exact .inl ⟨hground, hc⟩
    · exact .inr ⟨iff_of_false hground hc, hlt⟩

/-- An inline declaration is not on the ground: what is registered is held as a child. -/
theorem Tidy.not_onGround_of_literal (h : a.Tidy []) (ha : a.Identified) (hplaced : a.Placed)
    (he : a.get? k = some e) (hc : c ∈ e.ownTypes.flatMap Ty.literals) : ¬ a.OnGround ds c := by
  have hparent : a.parent? c = some k :=
    ((h.mem_held k e c he).1 (e.literals_subset_held hc)).1
  rintro (rfl | ⟨d, -, hlookup⟩)
  · exact absurd (ha.parent?_lt hparent) (Nat.not_lt_zero k)
  · obtain ⟨s, -, hs⟩ := lookup_eq_some_iff.1 hlookup
    obtain ⟨e', he', hnamed, -⟩ := ha.registered s c hs
    have hchild := hplaced.listed c e' k he' hnamed ((parent?_eq he').symm.trans hparent)
    rw [childrenOf, he, Option.bind_some] at hchild
    cases hm : e.members? with
    | none => rw [hm] at hchild; cases hchild
    | some m =>
      rw [hm] at hchild
      exact Entry.notMem_ids_of_literal (h.nodup_held k e he) hm hc hchild

/-! ## The walk over what is held -/

/-- The walk from the project over what is held meets each entry once. -/
theorem Tidy.preorder_perm (h : a.Tidy []) (ha : a.Identified) {depth : Nat}
    (hdepth : a.size ≤ depth) :
    (preorder a.heldBy depth root).Perm (List.range a.size) := by
  have hbranches : a.Branches a.heldBy := ⟨h.nodup_heldBy, fun _ _ hc => (h.mem_heldBy.1 hc).1⟩
  refine (List.perm_ext_iff_of_nodup (hbranches.nodup_preorder ha depth root)
    List.nodup_range).2 fun i => ?_
  rw [List.mem_range]
  constructor
  · intro hi
    rcases (hbranches.chain (reaches_of_mem_preorder hi)).cases_tail with rfl | ⟨p, -, hp⟩
    · obtain ⟨e, m, he, -⟩ := ha.project
      exact get?_lt he
    · exact parent?_lt hp
  · intro hi
    have hreaches : Reaches a.heldBy root i := by
      refine Relation.ReflTransGen.mono (fun p c hpc => ?_) _ _ (ha.rooted hi)
      exact h.mem_heldBy.2 ⟨hpc, Nat.lt_trans (ha.parent?_lt hpc) (parent?_lt hpc)⟩
    exact hbranches.mem_preorder ha hreaches
      (Nat.le_trans (Nat.le_of_lt (Nat.lt_of_lt_of_le hi hdepth)) (Nat.le_add_left ..))

end Atlas

/-! ## Writing -/

/-- Whether everything that is written inside an entry is there and ranked below it. -/
structure Resolved.Ranks (r : Resolved) (rank : EntryId → Nat) : Prop where
  held : ∀ i e, r.atlas.get? i = some e → ∀ c ∈ e.held, c < r.atlas.size ∧ rank c < rank i
  layers : ∀ i, ∀ layer ∈ (r.linksOf i).hierarchy, ∀ c ∈ layer.types.flatMap Ty.literals,
    c < r.atlas.size ∧ rank c < rank i

/-- With more depth than its rank an entry is written, and apart from hierarchies with all that it
holds in it. -/
theorem Resolved.Ranks.writeAt_preorder {r : Resolved} {rank : EntryId → Nat} (h : r.Ranks rank)
    {depth : Nat} {i : EntryId} (hi : i < r.atlas.size) (hdepth : rank i < depth) :
    Yields (r.writeAt depth i) fun j =>
      (j.entryIds true).Perm ((preorder r.atlas.heldBy depth i).map Json.nat) := by
  induction depth generalizing i with
  | zero => exact absurd hdepth (Nat.not_lt_zero _)
  | succ depth ih =>
    obtain ⟨e, he⟩ := Atlas.exists_get? hi
    have inside : ∀ c, c < r.atlas.size ∧ rank c < rank i →
        Yields (r.writeAt depth c) fun j =>
          (j.entryIds true).Perm ((preorder r.atlas.heldBy depth c).map Json.nat) :=
      fun c hc => ih hc.1 (Nat.lt_of_lt_of_le hc.2 (Nat.le_of_lt_succ hdepth))
    have expands : ∀ c, c < r.atlas.size ∧ rank c < rank i → ∃ j, r.writeAt depth c = .ok j :=
      fun c hc => (inside c hc).imp fun _ hj => hj.1
    refine (writeAt_yields he (fun c hc => expands c (h.held i e he c hc))
      fun layer hlayer c hc => expands c (h.layers i layer hlayer c hc)).mono fun j hj => ?_
    have hheld : r.atlas.heldBy i = e.held := by rw [Atlas.heldBy, he]; rfl
    rw [preorder, hheld, List.map_cons, List.map_flatMap]
    refine hj.trans (.cons _ (List.Perm.flatMap_left _ fun c hc => ?_))
    obtain ⟨j', hj', hperm⟩ := inside c (h.held i e he c hc)
    rw [idsAt, hj']
    exact hperm

/-- An outcome is ranked by the order of writing, if no declaration inside a type carries the symbol
of one around that type, and inline objects only have plain members. -/
theorem convert_ranks {settings : Settings} {files : List Source.File} {d : Draft} {r : Resolved}
    (hap : ∀ f ∈ files, Source.Apart (Source.declsOf (f.topDecls settings.mode)))
    (hplain : PlainInlined (Source.topDeclsOf files settings.mode))
    (h : Program.convert settings files = .ok (d, r)) :
    r.Ranks (d.atlas.height (Source.topDeclsOf files settings.mode)) := by
  obtain ⟨rfl, hresolves, -⟩ := Program.convert_ok h
  have hmem := ofFiles_mem_states settings files
  have hid := (states_identified _ hmem).1
  have hstratified := ofFiles_stratified hplain
  have htidy := ofFiles_tidy hap
  constructor
  · intro i e he c hc
    have hparent := (((hresolves.tidy htidy).mem_held i e c he).1 hc).1
    rw [hresolves.parent?_eq] at hparent
    have hlt := Atlas.parent?_lt hparent
    exact ⟨hresolves.size_eq ▸ hlt, (hstratified.precedes_of_parent? hid hparent).height_lt hlt⟩
  · intro i layer hlayer c hc
    obtain ⟨t, ht, hct⟩ := List.mem_flatMap.1 hc
    obtain ⟨⟨e, he, hclass⟩, k, e', he', hc'⟩ := Program.convert_layers h hlayer ht hct
    have hlt := htidy.held_lt he' (e'.literals_subset_held hc')
    have hprecedes : Atlas.Precedes _ (Source.topDeclsOf files settings.mode) i c :=
      .inl ⟨hstratified.classes i e he hclass,
        htidy.not_onGround_of_literal hid (states_placed _ hmem) he' hc'⟩
    exact ⟨hresolves.size_eq ▸ hlt, hprecedes.height_lt hlt⟩

/-- If no declaration inside a type carries the symbol of a declaration, or of the module of a file,
around that type, and inline objects only have plain members, then the outcome can be written, and
apart from the hierarchies each of its entries is written once. -/
theorem convert_entryIds {settings : Settings} {files : List Source.File} {d : Draft} {r : Resolved}
    (hap : ∀ f ∈ files, Source.Apart (Source.declsOf (f.topDecls settings.mode)))
    (hplain : PlainInlined (Source.topDeclsOf files settings.mode))
    (h : Program.convert settings files = .ok (d, r)) :
    ∃ j, r.toJson = .ok j ∧
      (j.entryIds true).Perm ((List.range r.atlas.size).map Json.nat) := by
  have hranks := convert_ranks hap hplain h
  obtain ⟨rfl, hresolves, -⟩ := Program.convert_ok h
  have hid := (states_identified _ (ofFiles_mem_states settings files)).1
  have hroot : Atlas.root < r.atlas.size := by
    obtain ⟨e, m, he, -⟩ := (hresolves.identified hid).project
    exact Atlas.get?_lt he
  have hheight : Atlas.height _ (Source.topDeclsOf files settings.mode) Atlas.root < _ :=
    Atlas.height_lt_size (hresolves.size_eq ▸ hroot)
  have hdepth : Atlas.height _ _ Atlas.root < r.atlas.size + 1 :=
    hresolves.size_eq ▸ Nat.lt_succ_of_lt hheight
  obtain ⟨j, hj, hperm⟩ := hranks.writeAt_preorder hroot hdepth
  have hwalk := ((hresolves.tidy (ofFiles_tidy hap)).preorder_perm (hresolves.identified hid)
    (Nat.le_succ r.atlas.size)).map Json.nat
  exact ⟨j, hj, hperm.trans hwalk⟩

/-- The outcome for a class with an inline declaration in a property and one in what it extends, and
a class that extends it; the hierarchies of both repeat the latter. -/
theorem inline_base_entryIds :
    let file : Source.File :=
      { name := "a.ts",
        decls :=
          [{ kind := .class, name := some "A", symbol := some "A",
             bases :=
               [{ form := .reference, name := some "Base", symbol := some "Base",
                  arguments :=
                    [{ form := .object,
                       members :=
                         [{ kind := .property, name := some "x", symbol := some "A.x" }] }] }],
             children :=
               [{ kind := .property, name := some "p", symbol := some "A.p",
                  type := some
                    { form := .object,
                      members :=
                        [{ kind := .property, name := some "q", symbol := some "A.p.q" }] } }] },
           { kind := .class, name := some "B", symbol := some "B",
             bases := [{ form := .reference, name := some "A", symbol := some "A" }] }] }
    ∃ d r j, Program.convert {} [file] = .ok (d, r) ∧ r.atlas.size = 8 ∧ r.toJson = .ok j ∧
      (j.entryIds true).Perm ((List.range r.atlas.size).map Json.nat) := by
  intro file
  have hap : ∀ f ∈ [file], Source.Apart (Source.declsOf (f.topDecls ({} : Settings).mode)) := by
    decide +kernel
  have hplain : PlainInlined (Source.topDeclsOf [file] ({} : Settings).mode) := by
    decide +kernel
  have hsize : (Program.convert {} [file]).toOption.map (·.2.atlas.size) = some 8 := by
    decide +kernel
  cases hconvert : Program.convert {} [file] with
  | error e =>
    rw [hconvert] at hsize
    cases hsize
  | ok made =>
    obtain ⟨d, r⟩ := made
    rw [hconvert] at hsize
    obtain ⟨j, hj, hperm⟩ := convert_entryIds hap hplain hconvert
    exact ⟨d, r, j, rfl, Option.some.inj hsize, hj, hperm⟩

end ApiAtlas
