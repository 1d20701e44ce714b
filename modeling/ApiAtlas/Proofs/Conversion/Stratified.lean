import ApiAtlas.Proofs.Conversion.Identity
import ApiAtlas.Proofs.Conversion.LawWalk

/-!
# Strata of an atlas

When inline objects only have plain members, the entries of an atlas fall into two strata: the
ground, which is the project and what is registered for the declarations that stand in the program,
and what is written inside types. Classes and interfaces are on the ground, and so is the parent of
anything on the ground. This is a law of conversion.
-/

set_option autoImplicit false

namespace ApiAtlas

open Source (Decl standing PlainInlined)

namespace Atlas

/-- Whether an entry is the project, or registered for a declaration that stands in a program. -/
def OnGround (a : Atlas) (ds : List Decl) (i : EntryId) : Prop :=
  i = root ∨ ∃ d ∈ standing ds, a.lookup d.symbol = some i

/-- Whether classes and interfaces are on the ground, and with each entry its parent. -/
structure Stratified (a : Atlas) (ds : List Decl) : Prop where
  classes : ∀ i e, a.get? i = some e → e.kind.isIn Kind.classOrInterface = true →
    a.OnGround ds i
  parent : ∀ d ∈ standing ds, ∀ i, a.lookup d.symbol = some i →
    ∃ e p, a.get? i = some e ∧ e.parent = some p ∧ a.OnGround ds p

/-- Whether a declaration may stand in a scope: on the ground, or as a plain member of an inline
object. -/
def Suits (ds : List Decl) (a : Atlas) (scope : EntryId) (d : Decl) : Prop :=
  d ∈ standing ds ∧ a.OnGround ds scope ∨ d.IsPlainMember ds

variable {a b seen : Atlas} {ds : List Decl} {i scope : EntryId} {d : Decl}

/-- What is on the ground still is when symbols lead where they did. -/
theorem OnGround.mono (h : a.OnGround ds i)
    (hab : ∀ symbol i, a.lookup symbol = some i → b.lookup symbol = some i) :
    b.OnGround ds i :=
  h.imp id fun ⟨d, hd, hi⟩ => ⟨d, hd, hab _ _ hi⟩

/-- What is entered as a class or an interface is a declaration that stands in the program. -/
theorem Suits.standing (h : Suits ds a scope d) {kind : Kind} (hk : d.Becomes kind)
    (hclass : kind.isIn Kind.classOrInterface = true) : d ∈ Source.standing ds := by
  rcases h with h | h
  · exact h.1
  · rcases hk.heritage hclass with hd | hd <;>
      exact absurd (hd ▸ h.kind) (by decide)

/-- An amendment with declarations that suit leaves an atlas stratified. -/
theorem Stratified.amend (h : a.Stratified ds) (hab : a.Amendment (Suits ds) seen b) :
    b.Stratified ds := by
  have kept : ∀ {i}, a.OnGround ds i → b.OnGround ds i := fun hi =>
    hi.mono fun _ _ => hab.lookup_eq
  constructor
  · refine hab.entries (P := fun i e => e.kind.isIn Kind.classOrInterface = true →
      b.OnGround ds i) (fun i e he hk => kept (h.classes i e he hk)) ?_ ?_ ?_ ?_ ?_
    · intro e _ hk hclass
      have hnone : ∀ kind ∈ Kind.partKinds, kind.isIn Kind.classOrInterface = false := by decide
      exact absurd ((hnone _ hk).symm.trans hclass) Bool.false_ne_true
    · intro scope e d _ hid hsuits _ _ hk hclass
      exact .inr ⟨d, hsuits.standing hk hclass, hid⟩
    · intro i e f hP hclass
      refine hP ?_
      obtain ⟨name, kind, flags, comment, parent, body⟩ := e
      cases body <;> exact hclass
    · intro i e scope d kind _ hid _ hsuits hk hclass
      exact .inr ⟨d, hsuits.standing hk hclass, hab.lookup_eq hid⟩
    · intro i e e' hP hamend hclass
      exact hP (hamend.kind ▸ hclass)
  · intro d hd i hi
    rcases hab.lookup_inv hi with hold | ⟨scope, e, d', hsymbol, rfl, hsuits, he, -, hp, -⟩
    · obtain ⟨e, p, he, hp, hground⟩ := h.parent d hd i hold
      obtain ⟨e', he', -, hparent⟩ := hab.exists_get? he
      exact ⟨e', p, he', hparent.trans hp, kept hground⟩
    · rcases hsuits with ⟨-, hground⟩ | hplain
      · exact ⟨e, scope, he, hp, kept hground⟩
      · obtain ⟨s, hs, -⟩ := lookup_eq_some_iff.1 hi
        refine absurd hsymbol (hplain.symbol d hd ?_)
        rw [← hsymbol, hs]
        exact Option.some_ne_none s

/-- An atlas that only has the project is stratified. -/
theorem stratified_create (name : String) : (create name).Stratified ds := by
  constructor
  · intro i e he _
    exact .inl (Nat.lt_one_iff.1 (get?_lt he))
  · intro d _ i hi
    obtain ⟨s, -, hs⟩ := lookup_eq_some_iff.1 hi
    cases hs

end Atlas

/-- That an atlas is stratified is kept, if declarations stand where they suit. -/
def Law.stratified (ds : List Decl) : Law where
  Holds a := a.Stratified ds
  Fits := Atlas.Suits ds
  Inside m := m.IsPlainMember ds
  amend _ h hab := h.amend hab
  grow hab h := h.imp (fun h => ⟨h.1, h.2.mono hab⟩) id
  inside := .inr
  child h hk hid c hc := by
    rcases h with ⟨hd, -⟩ | hplain
    · refine .inl ⟨?_, .inr ⟨_, hd, hid⟩⟩
      exact Source.standing_children_subset hd (Source.subset_standing _ hc)
    · have hnone : ∀ kind ∈ Source.DeclKind.plainMembers,
          kind ∉ Source.DeclKind.containers := by decide
      exact absurd hk (hnone _ hplain.kind)

/-- The top declarations of all files of a program. -/
def Source.topDeclsOf (files : List Source.File) (mode : Mode) : List Decl :=
  files.flatMap (·.topDecls mode)

/-- The atlas of a program whose inline objects only have plain members is stratified. -/
theorem ofFiles_stratified {settings : Settings} {files : List Source.File}
    (h : PlainInlined (Source.topDeclsOf files settings.mode)) :
    (Draft.ofFiles settings files).atlas.Stratified (Source.topDeclsOf files settings.mode) := by
  have top : ∀ f ∈ files, f.topDecls settings.mode ⊆ Source.topDeclsOf files settings.mode :=
    fun f hf d hd => List.mem_flatMap.2 ⟨f, hf, hd⟩
  have hobeyed : (Law.stratified (Source.topDeclsOf files settings.mode)).Obeyed
      (Draft.start settings) :=
    ⟨Atlas.stratified_create settings.name, (Draft.start_identified settings).children⟩
  refine (Conv.convertFiles_upholds hobeyed (fun f hf d hd a => ?_)
    fun f hf m hm => ?_).1.obeyed.holds
  · exact .inl ⟨Source.subset_standing _ (top f hf hd), .inl rfl⟩
  · refine h m ?_
    rw [Source.inlinedOf_eq_flatMap, List.mem_flatMap] at hm ⊢
    obtain ⟨d, hd, hmd⟩ := hm
    exact ⟨d, top f hf hd, hmd⟩

end ApiAtlas
