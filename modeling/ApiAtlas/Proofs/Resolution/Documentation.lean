import ApiAtlas.Proofs.Resolution.CommentRun
import ApiAtlas.Proofs.Resolution.Outcome

/-!
# Inherited documentation

Where the sources run in no circle, the comment of a declaration after the walk is the one that it
inherits along its sources (`Atlas.Inherits`), whatever the order of the walk. Signatures follow:
when they are completed, those of the source have been, so that they depend on the chain of sources
only (`Atlas.Completed`), and not on the walk.
-/

set_option autoImplicit false

namespace ApiAtlas

namespace Atlas

variable {a b b' : Atlas} {links : Array Links} {src : EntryId → Option EntryId}
  {d i s : EntryId}

/-- Whether the sources of the declarations run in no circle. -/
def Acyclic (a : Atlas) (src : EntryId → Option EntryId) : Prop :=
  ∀ d ∈ a.declarations, ¬ Relation.TransGen (IsSource src) d d

/-- Sources that lead from every declaration to a later one run in no circle. -/
theorem acyclic_of_lt (h : ∀ d s, IsSource src d s → d < s) : a.Acyclic src := by
  have ascending : ∀ d s, Relation.TransGen (IsSource src) d s → d < s := by
    intro d s hds
    induction hds with
    | single hs => exact h _ _ hs
    | tail _ hs ih => exact Nat.lt_trans ih (h _ _ hs)
  exact fun d _ hd => Nat.lt_irrefl d (ascending d d hd)

/-- The comment that a declaration has in the end: its own, unless its source has one in the end,
which its own is merged into. -/
inductive Inherits (a : Atlas) (src : EntryId → Option EntryId) : EntryId → Option Comment → Prop
  | own {d : EntryId} (hs : src d = none) : Inherits a src d (a.commentOf d)
  | silent {d s : EntryId} (hs : src d = some s) (h : Inherits a src s none) :
    Inherits a src d (a.commentOf d)
  | merged {d s : EntryId} {c : Comment} (hs : src d = some s) (h : Inherits a src s (some c)) :
    Inherits a src d (some (Comment.inherit c (a.commentOf d)))

/-- There is at most one such comment. -/
theorem Inherits.unique {c c' : Option Comment} (h : a.Inherits src d c)
    (h' : a.Inherits src d c') : c = c' := by
  induction h generalizing c' with
  | own hs =>
    cases h' with
    | own => rfl
    | silent hs' | merged hs' =>
      cases hs.symm.trans hs'
  | silent hs _ ih =>
    cases h' with
    | own hs' =>
      cases hs.symm.trans hs'
    | silent => rfl
    | merged hs' h' =>
      obtain rfl := Option.some.inj (hs.symm.trans hs')
      cases ih h'
  | merged hs _ ih =>
    cases h' with
    | own hs' =>
      cases hs.symm.trans hs'
    | silent hs' h' =>
      obtain rfl := Option.some.inj (hs.symm.trans hs')
      cases ih h'
    | merged hs' h' =>
      obtain rfl := Option.some.inj (hs.symm.trans hs')
      obtain rfl := Option.some.inj (ih h')
      rfl

/-- The atlas in which a declaration and the chain of its sources have been completed, and nothing
else. -/
inductive Completed (a : Atlas) (src : EntryId → Option EntryId) : EntryId → Atlas → Prop
  | own {d : EntryId} (hs : src d = none) : Completed a src d a
  | source {d s : EntryId} {b : Atlas} (hs : src d = some s) (h : Completed a src s b) :
    Completed a src d (b.takeOver d s)

namespace Completed

/-- Completing a declaration has one result. -/
theorem unique (h : a.Completed src d b) (h' : a.Completed src d b') : b = b' := by
  induction h generalizing b' with
  | own hs =>
    cases h' with
    | own => rfl
    | source hs' =>
      cases hs.symm.trans hs'
  | source hs _ ih =>
    cases h' with
    | own hs' =>
      cases hs.symm.trans hs'
    | source hs' h' =>
      obtain rfl := Option.some.inj (hs.symm.trans hs')
      rw [ih h']

/-- Completing a declaration changes comments only. -/
theorem recommented (h : a.Completed src d b) : a.Recommented b := by
  induction h with
  | own => exact .refl a
  | source _ _ ih => exact ih.trans (recommented_takeOver ..)

/-- What belongs to no declaration of the chain is as it was. -/
theorem commentOf_eq (h : a.Completed src d b)
    (hi : ∀ x, Relation.ReflTransGen (IsSource src) d x → ¬ a.Concerns x i) :
    b.commentOf i = a.commentOf i := by
  induction h with
  | own => rfl
  | source hs hc ih =>
    rw [← ih fun x hx => hi x (.head hs hx)]
    exact commentOf_takeOver_of_not_concerns
      fun hd => hi _ .refl (hc.recommented.concerns_iff.1 hd)

end Completed

end Atlas

namespace CommentWalk

open Atlas

variable {a : Atlas} {links : Array Links} {src : EntryId → Option EntryId} {w w' : CommentWalk}

/-- The completed declarations have the comments that they have in the end. -/
def Inherited (a : Atlas) (src : EntryId → Option EntryId) (w : CommentWalk) : Prop :=
  ∀ d ∈ w.done, a.Inherits src d (w.atlas.commentOf d)

/-- Completed declarations have the comments that they have in the end still after a step. -/
theorem Inherited.step (hacyclic : a.Acyclic src) (hw : Sound a w) (h : Inherited a src w)
    (hs : Step a src w w') : Inherited a src w' := by
  cases hs with
  | own d hd hnew hs =>
    intro e he
    rcases List.mem_append.1 he with he | he
    · exact h e he
    · rw [List.mem_singleton.1 he, hw.untouched d hd hnew]
      exact .own hs
  | take d s hd hnew hs hready =>
    have hsdone : s ∈ w.done := hready.resolve_right (hacyclic d (mem_declarations.2 hd))
    have hdecl : ∀ e, w.atlas.isDeclaration e = a.isDeclaration e :=
      fun e => hw.recommented.isDeclaration_eq
    intro e he
    rcases List.mem_append.1 he with he | he
    · have hed : e ≠ d := fun hed => hnew (hed ▸ he)
      rw [commentOf_takeOver_of_isDeclaration ((hdecl e).trans (hw.declared e he)) hed]
      exact h e he
    · rw [List.mem_singleton.1 he, commentOf_takeOver_self ((hdecl d).trans hd),
        hw.untouched d hd hnew]
      have hsource := h s hsdone
      cases hc : w.atlas.commentOf s with
      | none => exact .silent hs (hc ▸ hsource)
      | some c => exact .merged hs (hc ▸ hsource)

/-- The entries of completed declarations are as completing the chain of sources alone makes them,
and all others as they were. -/
structure Chained (a : Atlas) (src : EntryId → Option EntryId) (w : CommentWalk) : Prop where
  done : ∀ d ∈ w.done, ∃ b, a.Completed src d b ∧
    ∀ i, a.Concerns d i → w.atlas.commentOf i = b.commentOf i
  rest : ∀ i, (∀ d ∈ w.done, ¬ a.Concerns d i) → w.atlas.commentOf i = a.commentOf i

/-- Entries of completed declarations are as completing their chains alone makes them still after a
step. -/
theorem Chained.step (hsrc : a.Sources links src) (hacyclic : a.Acyclic src)
    (howned : a.SignaturesOwned) (hw : Sound a w) (h : Chained a src w) (hs : Step a src w w') :
    Chained a src w' := by
  have fresh : ∀ d i, a.isDeclaration d = true → d ∉ w.done → a.Concerns d i →
      w.atlas.commentOf i = a.commentOf i := by
    intro d i hd hnew hi
    refine h.rest i fun e he hei => hnew ?_
    rw [howned.concerns_unique hd (hw.declared e he) hi hei]
    exact he
  cases hs with
  | own d hd hnew hs =>
    refine ⟨fun e he => ?_, fun i hi => h.rest i fun e he => hi e (List.mem_append_left _ he)⟩
    rcases List.mem_append.1 he with he | he
    · exact h.done e he
    · rw [List.mem_singleton.1 he]
      exact ⟨a, .own hs, fun i hi => fresh d i hd hnew hi⟩
  | take d s hd hnew hs hready =>
    have hdd : d ∈ a.declarations := mem_declarations.2 hd
    have hsdone : s ∈ w.done := hready.resolve_right (hacyclic d hdd)
    obtain ⟨b, hb, hagree⟩ := h.done s hsdone
    have hbw : b.Recommented w.atlas := hb.recommented.symm.trans hw.recommented
    have other : ∀ i, ¬ a.Concerns d i →
        (w.atlas.takeOver d s).commentOf i = w.atlas.commentOf i :=
      fun i hi => commentOf_takeOver_of_not_concerns
        fun hc => hi (hw.recommented.concerns_iff.1 hc)
    -- Sources are declarations, so that an entry of `d` belongs to no other one of the chain.
    have declared : ∀ x, Relation.ReflTransGen (IsSource src) s x → a.isDeclaration x = true := by
      intro x hx
      induction hx with
      | refl => exact hw.declared s hsdone
      | tail _ hxy ih =>
        exact isDeclaration_of_commentSource ((hsrc _ (mem_declarations.2 ih)).trans
          (congrArg Except.ok hxy))
    have untouched : ∀ i, a.Concerns d i → b.commentOf i = a.commentOf i := by
      intro i hi
      refine hb.commentOf_eq fun x hx hxi => hacyclic d hdd ?_
      obtain rfl := howned.concerns_unique hd (declared x hx) hi hxi
      exact .head' hs hx
    refine ⟨fun e he => ?_, fun i hi => ?_⟩
    · rcases List.mem_append.1 he with he | he
      · obtain ⟨b', hb', hagree'⟩ := h.done e he
        refine ⟨b', hb', fun i hi => (other i fun hdi => hnew ?_).trans (hagree' i hi)⟩
        rw [howned.concerns_unique hd (hw.declared e he) hdi hi]
        exact he
      · rw [List.mem_singleton.1 he]
        refine ⟨b.takeOver d s, .source hs hb, fun i hi => ?_⟩
        refine hbw.commentOf_takeOver (fun j hj => ?_) (hb.recommented.concerns_iff.2 hi)
        rw [hb.recommented.concerns_iff, hb.recommented.concerns_iff] at hj
        rcases hj with hj | hj
        · rw [fresh d j hd hnew hj, untouched j hj]
        · exact hagree j hj
    · rw [other i (hi d (List.mem_append_right _ (List.mem_singleton_self d)))]
      exact h.rest i fun e he => hi e (List.mem_append_left _ he)

end CommentWalk

namespace Atlas

variable {a : Atlas} {links : Array Links} {src : EntryId → Option EntryId}
  {order : List EntryId} {w w' : CommentWalk}

open CommentWalk

/-- The walk over the declarations ends, in whatever order, and completes each of them once. When
the sources run in no circle, each has the comment that it inherits. -/
theorem walkComments_inherited (hsrc : a.Sources links src) (horder : order.Perm a.declarations) :
    ∃ w, a.walkComments links order = .ok w ∧ w.done.Perm a.declarations ∧
      (a.Acyclic src → ∀ d ∈ a.declarations, ∀ c,
        a.Inherits src d c ↔ c = w.atlas.commentOf d) := by
  obtain ⟨w, hw, hsteps, -, hdone⟩ := walkComments_steps hsrc horder
  refine ⟨w, hw, hdone, fun hacyclic d hd c => ?_⟩
  have hinherited := (steps_induction hsteps (fun u v hu hI hs => Inherited.step hacyclic hu hI hs)
    (sound_start a) nofun).2 d (hdone.mem_iff.2 hd)
  exact ⟨fun h => h.unique hinherited, fun h => h ▸ hinherited⟩

/-- When the sources run in no circle and signatures belong to one declaration, the order of the
walk does not matter. -/
theorem walkComments_atlas_eq (hsrc : a.Sources links src) (hacyclic : a.Acyclic src)
    (howned : a.SignaturesOwned) (horder : order.Perm a.declarations)
    (hw : a.walkComments links a.declarations = .ok w)
    (hw' : a.walkComments links order = .ok w') : w'.atlas = w.atlas := by
  have chained : ∀ order w, order.Perm a.declarations → a.walkComments links order = .ok w →
      Sound a w ∧ Chained a src w ∧ w.done.Perm a.declarations := by
    intro order w horder hw
    obtain ⟨v, hv, hsteps, hsound, hdone⟩ := walkComments_steps hsrc horder
    obtain rfl : v = w := Except.ok.inj (hv.symm.trans hw)
    refine ⟨hsound, ?_, hdone⟩
    exact (steps_induction hsteps
      (fun u v hu hI hs => Chained.step hsrc hacyclic howned hu hI hs) (sound_start a)
      ⟨nofun, fun _ _ => rfl⟩).2
  obtain ⟨hsound, hchained, hdone⟩ := chained _ w (.refl _) hw
  obtain ⟨hsound', hchained', hdone'⟩ := chained _ w' horder hw'
  have hww : w.atlas.Recommented w'.atlas := hsound.recommented.symm.trans hsound'.recommented
  refine ext_get? (fun i => hww.get?_eq ?_) hww.symbols hww.files hww.resolved
  by_cases hi : ∃ d ∈ a.declarations, a.Concerns d i
  · obtain ⟨d, hd, hdi⟩ := hi
    obtain ⟨b, hb, hagree⟩ := hchained.done d (hdone.mem_iff.2 hd)
    obtain ⟨b', hb', hagree'⟩ := hchained'.done d (hdone'.mem_iff.2 hd)
    rw [hagree i hdi, hagree' i hdi, hb.unique hb']
  · have apart : ∀ d ∈ a.declarations, ¬ a.Concerns d i := fun d hd hdi => hi ⟨d, hd, hdi⟩
    rw [hchained.rest i fun d hd => apart d (hdone.mem_iff.1 hd),
      hchained'.rest i fun d hd => apart d (hdone'.mem_iff.1 hd)]

/-- Resolving references leaves signatures with their declarations. -/
theorem SignaturesOwned.resolveReferences (h : a.SignaturesOwned) :
    a.resolveReferences.SignaturesOwned := by
  intro d details hd sig hsig
  obtain ⟨e', he', hed⟩ := Option.bind_eq_some_iff.1 hd
  rw [get?_resolveReferences] at he'
  obtain ⟨e, he, rfl⟩ := Option.map_eq_some_iff.1 he'
  obtain ⟨d₀, hd₀, hsame⟩ := e.exists_details?_of_mapTypes _ hed
  have howned := h d d₀ (by rw [details?, he]; exact hd₀) sig (hsame ▸ hsig)
  exact a.extends_resolveReferences.isSignatureOf howned

end Atlas

/-- The walk over the declarations of a project ends, in whatever order and wherever the sources
lead, and completes each of them once. When the sources run in no circle, each declaration has the
comment that it inherits, and the order of the walk over a converted program does not matter to
any comment. -/
theorem documentation_inherited (links : Array Links) (src : EntryId → Option EntryId) :
    (∀ (a : Atlas) (order : List EntryId), a.Sources links src → order.Perm a.declarations →
      ∃ w, a.walkComments links order = .ok w ∧ w.done.Perm a.declarations ∧
        (a.Acyclic src → ∀ d ∈ a.declarations, ∀ c,
          a.Inherits src d c ↔ c = w.atlas.commentOf d)) ∧
    ∀ (settings : Settings) (files : List Source.File),
      let a := (Draft.ofFiles settings files).atlas.resolveReferences
      a.Sources links src → a.Acyclic src →
        ∃ b, a.inheritComments links = .ok b ∧ ∀ order, order.Perm a.declarations →
          ∃ w, a.walkComments links order = .ok w ∧ w.atlas = b := by
  refine ⟨fun a order hsrc horder => Atlas.walkComments_inherited hsrc horder, ?_⟩
  intro settings files a hsrc hacyclic
  have howned : a.SignaturesOwned :=
    (states_kept _ (ofFiles_mem_states settings files)).1.resolveReferences
  obtain ⟨w, hw, -⟩ := Atlas.walkComments_inherited hsrc (.refl _)
  refine ⟨w.atlas, by rw [Atlas.inheritComments, hw]; rfl, fun order horder => ?_⟩
  obtain ⟨w', hw', -⟩ := Atlas.walkComments_inherited hsrc horder
  exact ⟨w', hw', Atlas.walkComments_atlas_eq hsrc hacyclic howned horder hw hw'⟩

/-- The documentation of a class reaches the second one along a chain of sources, although the
first one in line is visited before the one between them. -/
theorem chain_documentation_inherited :
    let file : Source.File :=
      { name := "a.ts",
        decls := [{ kind := .class, name := some "C", symbol := some "C" },
                  { kind := .class, name := some "B", symbol := some "B" },
                  { kind := .class, name := some "A", symbol := some "A",
                    comment := some ⟨"Text.", []⟩ }] }
    let a := (Draft.ofFiles {} [file]).atlas.resolveReferences
    let links : Array Links :=
      #[{}, { inheritedFrom := some ⟨"B", some "B", some 2⟩ },
        { inheritedFrom := some ⟨"A", some "A", some 3⟩ }]
    let src : EntryId → Option EntryId := fun d => if d = 1 ∨ d = 2 then some (d + 1) else none
    a.Sources links src ∧ a.Acyclic src ∧
      (∃ w, a.walkComments links [1, 2, 3] = .ok w ∧ w.done.Perm [1, 2, 3] ∧
        w.atlas.commentOf 1 = some ⟨"Text.", []⟩) ∧
      ∃ b, a.inheritComments links = .ok b ∧ ∀ order, order.Perm [1, 2, 3] →
        ∃ w, a.walkComments links order = .ok w ∧ w.atlas = b := by
  intro file a links src
  have hdecl : a.declarations = [1, 2, 3] := by decide +kernel
  have hsrc : a.Sources links src := by
    unfold Atlas.Sources
    decide +kernel
  have hacyclic : a.Acyclic src := by
    refine Atlas.acyclic_of_lt fun d s hs => ?_
    simp only [IsSource, src] at hs
    split at hs
    · exact Option.some.inj hs ▸ Nat.lt_succ_self d
    · cases hs
  have hinherits : a.Inherits src 1 (some ⟨"Text.", []⟩) := by
    have hthree : a.commentOf 3 = some ⟨"Text.", []⟩ := by decide +kernel
    have hmerge : ∀ d ∈ [1, 2], some (Comment.inherit ⟨"Text.", []⟩ (a.commentOf d)) =
        some ⟨"Text.", []⟩ := by
      decide +kernel
    have third : a.Inherits src 3 (some ⟨"Text.", []⟩) := hthree ▸ .own rfl
    have second : a.Inherits src 2 (some ⟨"Text.", []⟩) :=
      hmerge 2 (by decide) ▸ .merged rfl third
    exact hmerge 1 (by decide) ▸ .merged rfl second
  obtain ⟨w, hw, hdone, hfinal⟩ :=
    (documentation_inherited links src).1 a _ hsrc (.refl _)
  have hconverted := (documentation_inherited links src).2 {} [file] hsrc hacyclic
  have hone := (hfinal hacyclic 1 (by rw [hdecl]; decide) _).1 hinherits
  rw [hdecl] at hw hdone
  refine ⟨hsrc, hacyclic, ⟨w, hw, hdone, hone.symm⟩, ?_⟩
  rw [← hdecl]
  exact hconverted

end ApiAtlas
