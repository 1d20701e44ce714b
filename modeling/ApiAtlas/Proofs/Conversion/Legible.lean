import ApiAtlas.Proofs.Atlas.Held
import ApiAtlas.Proofs.Conversion.Children
import ApiAtlas.Proofs.Conversion.LawWalk

/-!
# Legible atlases

What paths of names rest on: below the project only declarations have children, nothing else is a
project, and what a symbol is registered for has a name. What is listed as a child was declared, and
children are listed by age.
-/

set_option autoImplicit false

namespace ApiAtlas

namespace Atlas

/-- Whether the entries below the project can be told by paths of names. -/
structure Legible (a : Atlas) : Prop where
  container : ∀ i e, a.get? i = some e → i ≠ root → e.members?.isSome = true →
    e.isDeclaration = true
  project : ∀ i e, a.get? i = some e → i ≠ root → e.kind ≠ .project
  name : ∀ symbol i, a.lookup symbol = some i → ∃ e, a.get? i = some e ∧ e.name ≠ ""

namespace Legible

variable {Fits : Atlas → EntryId → Source.Decl → Prop} {seen a b : Atlas}

/-- An atlas that only has the project is legible. -/
theorem create (name : String) : (Atlas.create name).Legible := by
  have hroot : ∀ i e, (Atlas.create name).get? i = some e → i = root := fun i e he =>
    Nat.lt_one_iff.1 (get?_lt he)
  refine ⟨fun i e he hi => absurd (hroot i e he) hi, fun i e he hi => absurd (hroot i e he) hi,
    fun symbol i hi => ?_⟩
  obtain ⟨s, -, hs⟩ := lookup_eq_some_iff.1 hi
  cases hs

/-- An amendment leaves an atlas legible. -/
theorem amend (h : a.Legible) (ha : a.Amendment Fits seen b) : b.Legible := by
  have hentries := ha.entries (P := fun i e => i ≠ root →
    (e.members?.isSome = true → e.isDeclaration = true) ∧ e.kind ≠ .project)
    (fun i e he hi => ⟨h.container i e he hi, h.project i e he hi⟩) ?_ ?_ ?_ ?_ ?_
  · refine ⟨fun i e he hi => (hentries i e he hi).1, fun i e he hi => (hentries i e he hi).2,
      fun symbol i hi => ?_⟩
    rcases ha.lookup_inv hi with hold | ⟨scope, e, d, -, rfl, -, he, hname, -⟩
    · obtain ⟨e, he, hname⟩ := h.name symbol i hold
      obtain ⟨e', he', heq, -⟩ := ha.exists_get? he
      exact ⟨e', he', heq ▸ hname⟩
    · exact ⟨e, he, hname⟩
  · intro e hb hk _
    refine ⟨fun hm => ?_, ?_⟩
    · rcases hb with hb | ⟨hb, -⟩
      · rw [Entry.members?_of_isPart hb] at hm
        cases hm
      · rw [Entry.isDeclaration, Entry.details?, hb]
        rfl
    · rintro hproject
      rw [hproject] at hk
      exact absurd hk (by decide)
  · intro scope e d _ _ _ hb _ hk _
    refine ⟨fun _ => ?_, hk.project⟩
    rw [Entry.isDeclaration, Entry.details?, hb]
    rfl
  · intro i e f hP hi
    obtain ⟨name, kind, flags, comment, parent, body⟩ := e
    cases body <;> exact hP hi
  · intro i e scope d kind _ _ hd _ hk _
    exact ⟨fun _ => hd, hk.project⟩
  · intro i e e' hP hamend hi
    obtain ⟨hcontainer, hproject⟩ := hP hi
    refine ⟨fun hm => ?_, hamend.kind ▸ hproject⟩
    cases hamend with
    | same | merge => exact hcontainer hm
    | details => rfl
    | parameter | typeParameter => cases hm
    | fill body hnew hb =>
      rw [Entry.members?_of_isPart hb] at hm
      cases hm

end Legible

/-- Whether all that is listed as a child was declared, and is listed by age. -/
structure ListsDeclared (a : Atlas) : Prop where
  named : ∀ p, ∀ c ∈ a.childrenOf p, ∃ e, a.get? c = some e ∧ e.IsNamed
  increasing : ∀ p, (a.childrenOf p).Pairwise (· < ·)

end Atlas

/-- What is told by paths of names stays so. -/
def Law.legible : Law where
  Holds := Atlas.Legible
  Fits _ _ _ := True
  Inside _ := True
  amend _ := Atlas.Legible.amend
  grow _ h := h
  inside _ := trivial
  child _ _ _ _ _ := trivial

variable {settings : Settings} {files : List Source.File}

/-- The atlas of a program is legible. -/
theorem ofFiles_legible : (Draft.ofFiles settings files).atlas.Legible := by
  have hobeyed : Law.legible.Obeyed (Draft.start settings) :=
    ⟨.create settings.name, (Draft.start_identified settings).children⟩
  exact Conv.convertFiles_holds hobeyed (fun a scope d => trivial) fun d => trivial

/-- What an edit adds to a list of children is a new entry that was declared. -/
theorem Edit.childrenOf {i : EntryId} {x y : Draft} (h : Edit i x y) (hx : x.atlas.Identified)
    (p : EntryId) : y.atlas.childrenOf p = x.atlas.childrenOf p ∨
      y.atlas.childrenOf p = x.atlas.childrenOf p ++ [x.atlas.size] ∧
        ∃ e, y.atlas.get? x.atlas.size = some e ∧ e.IsNamed := by
  cases h with
  | report | files => exact .inl rfl
  | add e q hq hlt hb => exact .inl (Atlas.childrenOf_add (fun m => hb.members) p)
  | enter e d s hb hd hs hk hi =>
    dsimp only
    rw [hx.childrenOf_enter hb hi]
    split
    · next hp =>
      have hget := Atlas.get?_enter e (some s) hi.lt (hx.size_notMem_childrenOf i) x.atlas.size
      refine .inr ⟨hp ▸ rfl, _, hget.trans (if_pos rfl), ?_, hk⟩
      simp [Entry.isDeclaration, Entry.details?, hb]
    · exact .inl rfl
  | change f hf => exact .inl (Atlas.childrenOf_modify (fun e he => (hf e he).members?) p)

/-- After an edit all listed children are declared and listed by age, if they were before. -/
theorem Edit.listsDeclared {i : EntryId} {x y : Draft} (h : Edit i x y)
    (hx : x.atlas.Identified) (hc : x.atlas.ListsDeclared) : y.atlas.ListsDeclared := by
  have hold : ∀ p, ∀ c ∈ x.atlas.childrenOf p, ∃ e, y.atlas.get? c = some e ∧ e.IsNamed := by
    intro p c hmem
    obtain ⟨e, he, hn⟩ := hc.named p c hmem
    obtain ⟨e', he', hkeep⟩ := h.grows hx c e he
    exact ⟨e', he', hkeep.isNamed_iff.2 hn⟩
  refine ⟨fun p c hmem => ?_, fun p => ?_⟩ <;>
    rcases h.childrenOf hx p with heq | ⟨heq, hnew⟩
  · exact hold p c (heq ▸ hmem)
  · rcases List.mem_append.1 (heq ▸ hmem) with hmem | hmem
    · exact hold p c hmem
    · exact List.mem_singleton.1 hmem ▸ hnew
  · exact heq ▸ hc.increasing p
  · exact heq ▸ pairwise_lt_concat (hc.increasing p) (hx.children p)

/-- The atlas of a program lists declarations as children, by age. -/
theorem ofFiles_listsDeclared : (Draft.ofFiles settings files).atlas.ListsDeclared := by
  have hnone : ∀ p, (Draft.start settings).atlas.childrenOf p = [] := by
    intro p
    refine List.eq_nil_iff_forall_not_mem.2 fun c hc => ?_
    have hparent := (Atlas.placed_create settings.name).parent p c hc
    obtain rfl : c = Atlas.root := Nat.lt_one_iff.1 (Atlas.parent?_lt hparent)
    cases hparent
  have hstart : (Draft.start settings).atlas.ListsDeclared := by
    refine ⟨fun p c hc => ?_, fun p => ?_⟩
    · rw [hnone] at hc
      cases hc
    · rw [hnone]
      exact List.Pairwise.nil
  have hstep : ∀ i x y, Edit i x y → x.atlas.Identified → x.atlas.ListsDeclared →
      y.atlas.ListsDeclared := fun i x y he hx hlists => he.listsDeclared hx hlists
  exact (states_always hstart hstep _ (ofFiles_mem_states settings files)).2

end ApiAtlas
