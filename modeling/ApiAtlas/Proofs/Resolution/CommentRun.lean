import ApiAtlas.Proofs.Resolution.TakeOver
import Mathlib.Data.List.Nodup
import Mathlib.Logic.Relation

/-!
# The run of the comment walk

The walk over the declarations is a sequence of steps, each of which completes one declaration that
was not complete yet (`CommentWalk.Step`). Sources do not change on the way, since a declaration
keeps its comment until it is completed (`CommentWalk.Sound`), so every step follows the sources as
they stood at the beginning. When a declaration is completed its source has been completed before,
unless the two stand on a circle of sources.
-/

set_option autoImplicit false

namespace ApiAtlas

/-- Whether the second declaration is the source of the first one. -/
def IsSource (src : EntryId → Option EntryId) (d s : EntryId) : Prop :=
  src d = some s

namespace Atlas

variable {a : Atlas} {links : Array Links} {src : EntryId → Option EntryId} {d s : EntryId}

/-- Whether the lookups for the declarations of an atlas all end, with the given sources. -/
def Sources (a : Atlas) (links : Array Links) (src : EntryId → Option EntryId) : Prop :=
  ∀ d ∈ a.declarations, a.commentSource links d = .ok (src d)

/-- The declarations of an atlas are its entries that are one. -/
theorem mem_declarations : d ∈ a.declarations ↔ a.isDeclaration d = true := by
  rw [declarations, ids, List.mem_filter, List.mem_range]
  exact ⟨fun h => h.2, fun h => ⟨lt_of_isDeclaration h, h⟩⟩

/-- No declaration is listed twice. -/
theorem nodup_declarations (a : Atlas) : a.declarations.Nodup :=
  List.nodup_range.filter _

/-- A linked source is a declaration. -/
theorem isDeclaration_of_linkedSource? {l : Links} (h : a.linkedSource? l = some s) :
    a.isDeclaration s = true := by
  obtain ⟨r, -, hr⟩ := List.exists_of_findSome?_eq_some h
  exact (Option.filter_eq_some_iff.1 hr).2

/-- A named source is a declaration. -/
theorem isDeclaration_of_namedSource {text : String}
    (h : a.namedSource d text = .ok (some s)) : a.isDeclaration s = true := by
  have picked : ∀ found : Option EntryId,
      found.filter (fun f => a.isDeclaration f && f ≠ d) = some s → a.isDeclaration s = true := by
    intro found hfound
    have hs := (Option.filter_eq_some_iff.1 hfound).2
    rw [Bool.and_eq_true] at hs
    exact hs.1
  rw [namedSource] at h
  split at h
  · cases h
  · dsimp only at h
    split at h <;> obtain ⟨found, -, hs⟩ := Except.exists_of_bind_eq_ok h <;>
      exact picked found (Except.ok.inj hs)

/-- A source is a declaration. -/
theorem isDeclaration_of_commentSource (h : a.commentSource links d = .ok (some s)) :
    a.isDeclaration s = true := by
  have linked : ∀ l, (Except.ok (a.linkedSource? l) : Except Misuse _) = .ok (some s) →
      a.isDeclaration s = true :=
    fun l hl => isDeclaration_of_linkedSource? (Except.ok.inj hl)
  simp only [commentSource] at h
  split at h
  · split at h
    · exact linked _ h
    · cases h
  · split at h
    · exact linked _ h
    · obtain ⟨named, hnamed, hs⟩ := Except.exists_of_bind_eq_ok h
      split at hs
      · rw [hs] at hnamed
        exact isDeclaration_of_namedSource hnamed
      · exact linked _ hs
  · exact linked _ h

end Atlas

namespace CommentWalk

/-- What holds of a walk at any time: only comments have changed, those of the declarations that
are not completed have not, and no declaration is completed twice. -/
structure Sound (a : Atlas) (w : CommentWalk) : Prop where
  recommented : a.Recommented w.atlas
  declared : ∀ d ∈ w.done, a.isDeclaration d = true
  once : w.done.Nodup
  untouched : ∀ d, a.isDeclaration d = true → d ∉ w.done → w.atlas.commentOf d = a.commentOf d

/-- The completion of one more declaration: one without source stays as it is, another one takes
over the documentation of its source, which is completed unless there is a circle. -/
inductive Step (a : Atlas) (src : EntryId → Option EntryId) (w : CommentWalk) : CommentWalk → Prop
  | own (d : EntryId) (hd : a.isDeclaration d = true) (hnew : d ∉ w.done) (hs : src d = none) :
    Step a src w { w with done := w.done ++ [d] }
  | take (d s : EntryId) (hd : a.isDeclaration d = true) (hnew : d ∉ w.done) (hs : src d = some s)
    (hready : s ∈ w.done ∨ Relation.TransGen (IsSource src) d d) :
    Step a src w ⟨w.atlas.takeOver d s, w.done ++ [d]⟩

variable {a : Atlas} {links : Array Links} {src : EntryId → Option EntryId} {d : EntryId}
  {path order : List EntryId} {w w' : CommentWalk}

/-- Before the first step. -/
theorem sound_start (a : Atlas) : Sound a ⟨a, []⟩ :=
  ⟨.refl a, nofun, List.nodup_nil, fun _ _ _ => rfl⟩

/-- In a sound walk, a declaration that is not completed has the source that it had at first. -/
theorem Sound.commentSource_eq (h : Sound a w) (hsrc : a.Sources links src)
    (hd : a.isDeclaration d = true) (hnew : d ∉ w.done) :
    w.atlas.commentSource links d = .ok (src d) := by
  rw [h.recommented.commentSource_eq links (h.untouched d hd hnew)]
  exact hsrc d (Atlas.mem_declarations.2 hd)

/-- One more declaration is completed. -/
theorem Sound.complete (h : Sound a w) (hd : a.isDeclaration d = true) (hnew : d ∉ w.done) :
    Sound a { w with done := w.done ++ [d] } where
  recommented := h.recommented
  declared e he := by
    rcases List.mem_append.1 he with he | he
    · exact h.declared e he
    · exact List.mem_singleton.1 he ▸ hd
  once := List.nodup_append.2 ⟨h.once, List.nodup_singleton d,
    fun x hx y hy hxy => hnew (List.mem_singleton.1 hy ▸ hxy ▸ hx)⟩
  untouched e he hne := h.untouched e he fun hmem => hne (List.mem_append_left _ hmem)

/-- One more declaration is completed from its source. -/
theorem Sound.takeOver (h : Sound a w) (hd : a.isDeclaration d = true) (hnew : d ∉ w.done)
    (s : EntryId) : Sound a ⟨w.atlas.takeOver d s, w.done ++ [d]⟩ where
  recommented := h.recommented.trans (Atlas.recommented_takeOver _ d s)
  declared := (h.complete hd hnew).declared
  once := (h.complete hd hnew).once
  untouched e he hne := by
    have hed : e ≠ d := fun hed => hne (List.mem_append_right _ (List.mem_singleton.2 hed))
    have hdecl : w.atlas.isDeclaration e = true := h.recommented.isDeclaration_eq.trans he
    exact (Atlas.commentOf_takeOver_of_isDeclaration hdecl hed).trans
      (h.untouched e he fun hmem => hne (List.mem_append_left _ hmem))

/-- A walk is sound still after a step. -/
theorem Sound.step (h : Sound a w) (hs : Step a src w w') : Sound a w' := by
  cases hs with
  | own d hd hnew hs => exact h.complete hd hnew
  | take d s hd hnew hs hready => exact h.takeOver hd hnew s

/-- A step leaves completed what is. -/
theorem Step.subset (h : Step a src w w') : w.done ⊆ w'.done := by
  cases h <;> exact List.subset_append_left ..

/-- What every step keeps holds in the end. -/
theorem steps_induction {I : CommentWalk → Prop} (h : Relation.ReflTransGen (Step a src) w w')
    (hI : ∀ u v, Sound a u → I u → Step a src u v → I v) (hw : Sound a w) (hIw : I w) :
    Sound a w' ∧ I w' := by
  induction h with
  | refl => exact ⟨hw, hIw⟩
  | tail _ hs ih => exact ⟨ih.1.step hs, hI _ _ ih.1 ih.2 hs⟩

/-- A walk stays sound. -/
theorem Sound.steps (h : Sound a w) (hs : Relation.ReflTransGen (Step a src) w w') :
    Sound a w' := by
  refine (steps_induction (I := fun _ => True) hs ?_ h trivial).1
  intro u v _ _ _
  trivial

/-- Steps leave completed what is. -/
theorem subset_of_steps (h : Relation.ReflTransGen (Step a src) w w') : w.done ⊆ w'.done := by
  induction h with
  | refl => exact List.Subset.refl _
  | tail _ hs ih => exact List.Subset.trans ih hs.subset

/-- Visiting a declaration ends. It makes steps that complete the declaration, and none of those
that are on their way. -/
theorem visit_steps (hsrc : a.Sources links src) (hw : Sound a w) (hd : a.isDeclaration d = true)
    (hpath : ∀ p ∈ path, Relation.TransGen (IsSource src) p d) :
    ∃ w', visit links a.size path d w = .ok w' ∧ Relation.ReflTransGen (Step a src) w w' ∧
      (d ∉ path → d ∈ w'.done) ∧ ∀ p ∈ path, p ∈ w'.done → p ∈ w.done := by
  -- By induction on the number of entries off the path, of which each visit takes one.
  induction hm : offPath a.size path using Nat.strongRecOn generalizing path d w with
  | ind m ih =>
    rw [visit]
    split
    · next hcond =>
      have hnotMem : d ∉ path := by simpa using hcond.2
      split
      · next hdone =>
        exact ⟨w, rfl, .refl, fun _ => by simpa using hdone, fun p _ hp => hp⟩
      · next hdone =>
        have hnew : d ∉ w.done := by simpa using hdone
        rw [hw.commentSource_eq hsrc hd hnew]
        cases hs : src d with
        | none =>
          refine ⟨{ w with done := w.done ++ [d] }, rfl, .single (.own d hd hnew hs), ?_, ?_⟩
          · exact fun _ => List.mem_append_right _ (List.mem_singleton_self d)
          · intro p hp hmem
            rcases List.mem_append.1 hmem with hmem | hmem
            · exact hmem
            · exact absurd (List.mem_singleton.1 hmem ▸ hp) hnotMem
        | some s =>
          have hsource : a.isDeclaration s = true :=
            Atlas.isDeclaration_of_commentSource
              ((hsrc d (Atlas.mem_declarations.2 hd)).trans (congrArg Except.ok hs))
          have hpath' : ∀ p ∈ d :: path, Relation.TransGen (IsSource src) p s := by
            intro p hp
            rcases List.mem_cons.1 hp with rfl | hp
            · exact .single hs
            · exact (hpath p hp).tail hs
          obtain ⟨w₁, hvisit, hsteps, hdone₁, hfree⟩ :=
            ih _ (hm ▸ offPath_cons_lt hcond.1 hcond.2) hw hsource hpath' rfl
          have hnew₁ : d ∉ w₁.done := fun hmem => hnew (hfree d (List.mem_cons_self ..) hmem)
          -- The source is completed by its visit, unless it was on the path and so in a circle.
          have hready : s ∈ w₁.done ∨ Relation.TransGen (IsSource src) d d := by
            by_cases hcircle : s ∈ d :: path
            · rcases List.mem_cons.1 hcircle with rfl | hcircle
              · exact .inr (.single hs)
              · exact .inr (.head hs (hpath s hcircle))
            · exact .inl (hdone₁ hcircle)
          refine ⟨⟨w₁.atlas.takeOver d s, w₁.done ++ [d]⟩, ?_,
            hsteps.tail (.take d s hd hnew₁ hs hready), ?_, ?_⟩
          · simp only [hvisit, bind, Except.bind, pure, Except.pure]
          · exact fun _ => List.mem_append_right _ (List.mem_singleton_self d)
          · intro p hp hmem
            rcases List.mem_append.1 hmem with hmem | hmem
            · exact hfree p (List.mem_cons_of_mem _ hp) hmem
            · exact absurd (List.mem_singleton.1 hmem ▸ hp) hnotMem
    · next hcond =>
      refine ⟨w, rfl, .refl, fun hd' => absurd ⟨Atlas.lt_of_isDeclaration hd, ?_⟩ hcond,
        fun p _ hp => hp⟩
      simpa using hd'

/-- Visiting some declarations one after the other ends, and completes them all. -/
theorem foldlM_visit_steps (hsrc : a.Sources links src) (hw : Sound a w)
    (horder : ∀ d ∈ order, a.isDeclaration d = true) :
    ∃ w', order.foldlM (fun w d => visit links a.size [] d w) w = .ok w' ∧
      Relation.ReflTransGen (Step a src) w w' ∧ order ⊆ w'.done := by
  induction order generalizing w with
  | nil => exact ⟨w, rfl, .refl, List.nil_subset _⟩
  | cons d order ih =>
    obtain ⟨w₁, hvisit, hsteps, hdone, -⟩ :=
      visit_steps hsrc hw (horder d (List.mem_cons_self ..)) (List.forall_mem_nil _)
    obtain ⟨w', hfold, hsteps', horder'⟩ :=
      ih (hw.steps hsteps) fun e he => horder e (List.mem_cons_of_mem _ he)
    refine ⟨w', ?_, hsteps.trans hsteps', ?_⟩
    · rw [List.foldlM_cons, hvisit]
      exact hfold
    · intro e he
      rcases List.mem_cons.1 he with rfl | he
      · exact subset_of_steps hsteps' (hdone List.not_mem_nil)
      · exact horder' he

end CommentWalk

/-- The walk over the declarations of an atlas, in whatever order, ends. It is a sequence of steps
that completes every declaration once. -/
theorem Atlas.walkComments_steps {a : Atlas} {links : Array Links} {src : EntryId → Option EntryId}
    {order : List EntryId} (hsrc : a.Sources links src) (horder : order.Perm a.declarations) :
    ∃ w, a.walkComments links order = .ok w ∧
      Relation.ReflTransGen (CommentWalk.Step a src) ⟨a, []⟩ w ∧ CommentWalk.Sound a w ∧
      w.done.Perm a.declarations := by
  have hdecl : ∀ d ∈ order, a.isDeclaration d = true :=
    fun d hd => mem_declarations.1 (horder.mem_iff.1 hd)
  obtain ⟨w, hw, hsteps, hdone⟩ :=
    CommentWalk.foldlM_visit_steps hsrc (CommentWalk.sound_start a) hdecl
  have hsound := (CommentWalk.sound_start a).steps hsteps
  refine ⟨w, hw, hsteps, hsound, ?_⟩
  refine (List.perm_ext_iff_of_nodup hsound.once (nodup_declarations a)).2 fun d => ?_
  exact ⟨fun hd => mem_declarations.2 (hsound.declared d hd), fun hd => hdone (horder.mem_iff.2 hd)⟩

end ApiAtlas
