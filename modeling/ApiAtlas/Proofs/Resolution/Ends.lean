import ApiAtlas.Proofs.Atlas.Chains
import ApiAtlas.Proofs.Conversion.Identity
import ApiAtlas.Proofs.Resolution.CommentRun
import ApiAtlas.Proofs.Resolution.Outcome

/-!
# When resolution ends

The conversion of some files fails for one reason only: a tag names the documentation that it asks
for, and the search for that along first bases never ends (`Atlas.SourceEnds`).
-/

set_option autoImplicit false

namespace ApiAtlas

namespace Atlas

variable {a : Atlas} {links : Array Links} {d i : EntryId} {m : Misuse} {text : String}

/-! ## Sources -/

/-- The names in the text of a tag that asks for documentation. -/
def tagNames (text : String) : List String :=
  (Text.dotted (String.ofList (Text.trim (Text.oneOf "\x7b\x7d ") text.toList))).filter
    (!·.isEmpty)

/-- Whether the search for the documentation that a declaration asks for ends. -/
def SourceEnds (a : Atlas) (d : EntryId) : Prop :=
  ∀ c t, a.commentOf d = some c → c.tag? Comment.inheritTag none = some t →
    t.text.isEmpty = false → ∃ s, a.namedSource d t.text = .ok s

/-- What a tag names is found or missed, unless the search along first bases never ends. -/
theorem namedSource_ok_iff : (∃ s, a.namedSource d text = .ok s) ↔
    tagNames text = [] ∨ ∀ start, (a.parent? d).filter a.isDeclaration = some start →
      ∃ found, a.searchBases (tagNames text) (a.size + 1) start = .ok found := by
  unfold namedSource
  dsimp only
  rw [← tagNames]
  cases tagNames text with
  | nil => exact iff_of_true ⟨none, rfl⟩ (.inl rfl)
  | cons name names =>
    rw [or_iff_right (List.cons_ne_nil _ _), if_neg (by exact Bool.false_ne_true)]
    cases (a.parent? d).filter a.isDeclaration with
    | none => exact iff_of_true ⟨_, rfl⟩ nofun
    | some start =>
      constructor
      · rintro ⟨s, hs⟩ _ ⟨rfl⟩
        obtain ⟨found, hfound, -⟩ := Except.exists_of_bind_eq_ok hs
        exact ⟨found, hfound⟩
      · intro h
        obtain ⟨found, hfound⟩ := h start rfl
        have hsearch : a.search start (name :: names) true = .ok found := hfound
        exact ⟨found.filter fun f => a.isDeclaration f && f ≠ d, by dsimp only; rw [hsearch]; rfl⟩

/-- The source of a declaration can be told just when the search for it ends. -/
theorem commentSource_ok_iff : (∃ s, a.commentSource links d = .ok s) ↔ a.SourceEnds d := by
  unfold commentSource SourceEnds
  cases a.commentOf d with
  | none => exact iff_of_true ⟨_, rfl⟩ nofun
  | some c =>
    cases ht : c.tag? Comment.inheritTag none with
    | none =>
      refine iff_of_true ?_ fun c' t hc ht' => ?_
      · simp only [Option.bind_some, ht]
        split <;> exact ⟨_, rfl⟩
      · cases Option.some.inj hc
        cases ht.symm.trans ht'
    | some t =>
      simp only [Option.bind_some, ht]
      constructor
      · rintro ⟨s, hs⟩ c' t' hc ht' htext
        cases Option.some.inj hc
        obtain rfl := Option.some.inj (ht.symm.trans ht')
        rw [if_neg (by rw [htext]; exact Bool.false_ne_true)] at hs
        obtain ⟨named, hnamed, -⟩ := Except.exists_of_bind_eq_ok hs
        exact ⟨named, hnamed⟩
      · intro h
        split
        · exact ⟨_, rfl⟩
        · next htext =>
          obtain ⟨named, hnamed⟩ := h c t rfl ht (Bool.eq_false_of_not_eq_true htext)
          rw [hnamed]
          cases named <;> exact ⟨_, rfl⟩

/-- The lookup of a named source only fails by not ending. -/
theorem eq_endless_of_namedSource (h : a.namedSource d text = .error m) : m = .endless := by
  unfold namedSource at h
  dsimp only at h
  split at h
  · cases h
  · split at h
    · rcases Except.of_bind_eq_error h with hsearch | ⟨found, -, hfound⟩
      · exact eq_endless_of_searchBases hsearch
      · cases hfound
    · cases h

/-- The lookup of a source only fails by not ending. -/
theorem eq_endless_of_commentSource (h : a.commentSource links d = .error m) : m = .endless := by
  unfold commentSource at h
  dsimp only at h
  split at h
  · split at h <;> cases h
  · split at h
    · cases h
    · rcases Except.of_bind_eq_error h with hnamed | ⟨named, -, hsource⟩
      · exact eq_endless_of_namedSource hnamed
      · split at hsource <;> cases hsource
  · cases h

end Atlas

/-! ## The walk -/

namespace CommentWalk

open Atlas

variable {a : Atlas} {links : Array Links} {d : EntryId} {path order : List EntryId}
  {w w' : CommentWalk} {m : Misuse}

/-- What visits that end have done: the searches for the declarations that they completed have
ended, and none of those on their way is completed. -/
structure Ended (a : Atlas) (path : List EntryId) (w w' : CommentWalk) : Prop where
  sound : Sound a w'
  subset : w.done ⊆ w'.done
  ended : ∀ e ∈ w'.done, e ∈ w.done ∨ a.SourceEnds e
  waiting : ∀ p ∈ path, p ∈ w'.done → p ∈ w.done

/-- A walk without visits ends. -/
theorem Ended.refl (h : Sound a w) : Ended a path w w :=
  ⟨h, List.Subset.refl _, fun _ he => .inl he, fun _ _ hp => hp⟩

/-- One more declaration is completed after its source. -/
theorem Ended.append {w₁ : CommentWalk} (h : Ended a (d :: path) w w₁) (hd : d ∉ path)
    (hends : a.SourceEnds d) (hdone : w'.done = w₁.done ++ [d]) (hsound : Sound a w') :
    Ended a path w w' ∧ d ∈ w'.done := by
  have hmem : ∀ e, e ∈ w'.done ↔ e ∈ w₁.done ∨ e = d := by simp [hdone]
  refine ⟨⟨hsound, fun e he => (hmem e).2 (.inl (h.subset he)), fun e he => ?_, fun p hp he => ?_⟩,
    (hmem d).2 (.inr rfl)⟩
  · rcases (hmem e).1 he with he | rfl
    · exact h.ended e he
    · exact .inr hends
  · rcases (hmem p).1 he with he | rfl
    · exact h.waiting p (List.mem_cons_of_mem _ hp) he
    · exact absurd hp hd

/-- A visit that ends completes the declaration, unless that is on its way. -/
theorem visit_ended (hw : Sound a w) (hd : a.isDeclaration d = true)
    (h : visit links a.size path d w = .ok w') :
    Ended a path w w' ∧ (d ∉ path → d ∈ w'.done) := by
  induction hm : offPath a.size path using Nat.strongRecOn generalizing path d w w' with
  | ind m ih =>
    rw [visit] at h
    split at h
    · next hcond =>
      have hnotMem : d ∉ path := by simpa using hcond.2
      split at h
      · next hdone =>
        obtain rfl := Except.ok.inj h
        exact ⟨.refl hw, fun _ => by simpa using hdone⟩
      · next hdone =>
        have hnew : d ∉ w.done := by simpa using hdone
        obtain ⟨source, hsource, h⟩ := Except.exists_of_bind_eq_ok h
        rw [hw.recommented.commentSource_eq links (hw.untouched d hd hnew)] at hsource
        have hends : a.SourceEnds d := commentSource_ok_iff.1 ⟨source, hsource⟩
        cases source with
        | none =>
          obtain rfl := Except.ok.inj h
          have hsound := hw.complete hd hnew
          exact ((Ended.refl hw).append hnotMem hends rfl hsound).imp_right fun hmem _ => hmem
        | some s =>
          obtain ⟨w₁, hvisit, h⟩ := Except.exists_of_bind_eq_ok h
          obtain rfl := Except.ok.inj h
          have hlt := hm ▸ offPath_cons_lt hcond.1 hcond.2
          obtain ⟨hended, -⟩ := ih _ hlt hw (isDeclaration_of_commentSource hsource) hvisit rfl
          have hnew₁ : d ∉ w₁.done :=
            fun hmem => hnew (hended.waiting d (List.mem_cons_self ..) hmem)
          have hsound := hended.sound.takeOver hd hnew₁ s
          exact (hended.append hnotMem hends rfl hsound).imp_right fun hmem _ => hmem
    · next hcond =>
      obtain rfl := Except.ok.inj h
      refine ⟨.refl hw, fun hnotMem => absurd ⟨lt_of_isDeclaration hd, ?_⟩ hcond⟩
      simpa using hnotMem

/-- A walk that ends has completed its declarations. -/
theorem foldlM_visit_ended (hw : Sound a w) (horder : ∀ d ∈ order, a.isDeclaration d = true)
    (h : order.foldlM (fun w d => visit links a.size [] d w) w = .ok w') :
    Ended a [] w w' ∧ order ⊆ w'.done := by
  induction order generalizing w with
  | nil =>
    obtain rfl := Except.ok.inj h
    exact ⟨.refl hw, List.nil_subset _⟩
  | cons d order ih =>
    rw [List.foldlM_cons] at h
    obtain ⟨w₁, hvisit, h⟩ := Except.exists_of_bind_eq_ok h
    obtain ⟨hfirst, hdone⟩ := visit_ended hw (horder d (List.mem_cons_self ..)) hvisit
    obtain ⟨hrest, hsubset⟩ :=
      ih hfirst.sound (fun e he => horder e (List.mem_cons_of_mem _ he)) h
    refine ⟨⟨hrest.sound, List.Subset.trans hfirst.subset hrest.subset, fun e he => ?_, nofun⟩,
      List.cons_subset.2 ⟨hrest.subset (hdone List.not_mem_nil), hsubset⟩⟩
    rcases hrest.ended e he with he | he
    · exact hfirst.ended e he
    · exact .inr he

/-- A visit only fails when a search does not end. -/
theorem eq_endless_of_visit {n : Nat} (h : visit links n path d w = .error m) : m = .endless := by
  induction hm : offPath n path using Nat.strongRecOn generalizing path d w with
  | ind k ih =>
    rw [visit] at h
    split at h
    · next hcond =>
      split at h
      · cases h
      · rcases Except.of_bind_eq_error h with hsource | ⟨source, -, h⟩
        · exact eq_endless_of_commentSource hsource
        · cases source with
          | none => cases h
          | some s =>
            rcases Except.of_bind_eq_error h with hvisit | ⟨w₁, -, h⟩
            · exact ih _ (hm ▸ offPath_cons_lt hcond.1 hcond.2) hvisit rfl
            · cases h
    · cases h

end CommentWalk

namespace Atlas

variable {a : Atlas} {links : Array Links} {m : Misuse}

/-- When all searches end, there are the sources that they find. -/
theorem exists_sources (links : Array Links) (h : ∀ d ∈ a.declarations, a.SourceEnds d) :
    ∃ src, a.Sources links src := by
  have hex : ∀ d, ∃ s, d ∈ a.declarations → a.commentSource links d = .ok s := by
    intro d
    by_cases hd : d ∈ a.declarations
    · obtain ⟨s, hs⟩ := commentSource_ok_iff.2 (h d hd)
      exact ⟨s, fun _ => hs⟩
    · exact ⟨none, fun hmem => absurd hmem hd⟩
  exact Classical.skolem.1 hex

/-- Documentation is inherited when all searches for it end. -/
theorem inheritComments_ok_iff (links : Array Links) :
    (∃ b, a.inheritComments links = .ok b) ↔ ∀ d ∈ a.declarations, a.SourceEnds d := by
  constructor
  · rintro ⟨b, hb⟩ d hd
    obtain ⟨w, hw, -⟩ := Except.exists_of_bind_eq_ok hb
    obtain ⟨hended, hdone⟩ := CommentWalk.foldlM_visit_ended (CommentWalk.sound_start a)
      (fun d hd => mem_declarations.1 hd) hw
    exact (hended.ended d (hdone hd)).resolve_left List.not_mem_nil
  · intro h
    obtain ⟨src, hsrc⟩ := exists_sources links h
    obtain ⟨w, hw, -⟩ := walkComments_steps hsrc (.refl _)
    exact ⟨w.atlas, by rw [inheritComments, hw]; rfl⟩

/-- Inheriting comments only fails when a search does not end. -/
theorem eq_endless_of_inheritComments (h : a.inheritComments links = .error m) :
    m = .endless := by
  have walked : ∀ (order : List EntryId) (w : CommentWalk),
      order.foldlM (fun w id => CommentWalk.visit links a.size [] id w) w = .error m →
        m = .endless := by
    intro order
    induction order with
    | nil => exact fun w hw => nomatch hw
    | cons d order ih =>
      intro w hw
      rw [List.foldlM_cons] at hw
      rcases Except.of_bind_eq_error hw with hvisit | ⟨v, -, hrest⟩
      · exact CommentWalk.eq_endless_of_visit hvisit
      · exact ih v hrest
  rcases Except.of_bind_eq_error h with hw | ⟨w, -, hw⟩
  · exact walked _ _ hw
  · cases hw

/-! ## Resolution -/

/-- Linking members always succeeds, since all children are there. -/
theorem Identified.memberLinks_ok (h : a.Identified) : ∃ links, a.memberLinks = .ok links := by
  have each : ∀ links id, ∃ links', a.linkMembers links id = .ok links' := by
    intro links id
    obtain ⟨es, hes, -⟩ := fetchAll_ok fun c hc => h.children id c hc
    rw [fetchAll] at hes
    unfold linkMembers
    dsimp only
    rw [hes]
    split <;> split <;> exact ⟨_, rfl⟩
  have all : ∀ (ids : List EntryId) links,
      ∃ links', ids.foldlM a.linkMembers links = .ok links' := by
    intro ids
    induction ids with
    | nil => exact fun links => ⟨links, rfl⟩
    | cons id ids ih =>
      intro links
      obtain ⟨links', hlinks'⟩ := each links id
      rw [List.foldlM_cons, hlinks']
      exact ih links'
  exact all _ _

/-- An identified atlas can be completed just when the search for the documentation of each
declaration ends. -/
theorem Identified.complete_ok_iff (h : a.Identified) :
    (∃ made, a.complete = .ok made) ↔ ∀ d ∈ a.declarations, a.SourceEnds d := by
  obtain ⟨found, hfound⟩ := h.memberLinks_ok
  have hcomplete : a.complete = a.inheritComments (a.addHierarchies found) >>= fun documented =>
      .ok ({ documented with resolved := true }, a.addHierarchies found) := by
    rw [complete, allLinks, hfound]
    rfl
  rw [hcomplete, ← inheritComments_ok_iff (a.addHierarchies found)]
  constructor
  · rintro ⟨made, hmade⟩
    obtain ⟨documented, hdocumented, -⟩ := Except.exists_of_bind_eq_ok hmade
    exact ⟨documented, hdocumented⟩
  · rintro ⟨documented, hdocumented⟩
    exact ⟨_, by rw [hdocumented]; rfl⟩

/-- Completing an identified atlas only fails when a search does not end. -/
theorem Identified.eq_endless_of_complete (h : a.Identified) (hm : a.complete = .error m) :
    m = .endless := by
  obtain ⟨found, hfound⟩ := h.memberLinks_ok
  rw [complete, allLinks, hfound] at hm
  rcases Except.of_bind_eq_error hm with hlinks | ⟨links, -, hm⟩
  · cases hlinks
  · rcases Except.of_bind_eq_error hm with hdocumented | ⟨documented, -, hm⟩
    · exact eq_endless_of_inheritComments hdocumented
    · cases hm

end Atlas

/-! ## Conversion -/

/-- While converting nothing is resolved. -/
theorem Edit.resolved {i : EntryId} {x y : Draft} (h : Edit i x y) :
    y.atlas.resolved = x.atlas.resolved := by
  cases h with
  | enter e d s =>
    simp only [Atlas.enter, Atlas.attach]
    split <;> rfl
  | _ => rfl

/-- The atlas of a program is not resolved yet. -/
theorem ofFiles_resolved (settings : Settings) (files : List Source.File) :
    (Draft.ofFiles settings files).atlas.resolved = false := by
  have hstart : (Draft.start settings).atlas.resolved = false := rfl
  have hstep : ∀ i x y, Edit i x y → x.atlas.Identified → x.atlas.resolved = false →
      y.atlas.resolved = false := fun i x y he _ hopen => he.resolved.trans hopen
  exact (states_always hstart hstep _ (ofFiles_mem_states settings files)).2

namespace Program

variable {settings : Settings} {files : List Source.File}

/-- What a conversion results in, if there are files at all. -/
theorem convert_eq (hfiles : files ≠ []) :
    convert settings files =
      match (Draft.ofFiles settings files).atlas.resolveReferences.complete with
      | .ok (closed, links) =>
        let a := (Draft.ofFiles settings files).atlas
        .ok (Draft.ofFiles settings files,
          { atlas := closed
            links := links
            unresolved := a.dangling.map (·.2)
            diagnostics := a.dangling.map fun d => a.danglingReport d.1 d.2 })
      | .error m => .error (.misuse m) := by
  have hempty : files.isEmpty = false := by simpa using hfiles
  unfold convert Atlas.resolve
  simp only [hempty, ofFiles_resolved, Bool.false_eq_true, if_false]
  cases (Draft.ofFiles settings files).atlas.resolveReferences.complete <;> rfl

/-- What conversion ends with is identified once references are resolved. -/
theorem resolveReferences_identified (settings : Settings) (files : List Source.File) :
    (Draft.ofFiles settings files).atlas.resolveReferences.Identified :=
  (Atlas.resolves_resolveReferences _).identified
    (states_identified _ (ofFiles_mem_states settings files)).1

/-- A conversion succeeds when there are files and all searches for documentation end. -/
theorem convert_ok_iff : (∃ made, convert settings files = .ok made) ↔ files ≠ [] ∧
    ∀ d ∈ (Draft.ofFiles settings files).atlas.resolveReferences.declarations,
      (Draft.ofFiles settings files).atlas.resolveReferences.SourceEnds d := by
  have hid := resolveReferences_identified settings files
  constructor
  · rintro ⟨made, hmade⟩
    have hfiles : files ≠ [] := by
      rintro rfl
      cases hmade
    refine ⟨hfiles, hid.complete_ok_iff.1 ?_⟩
    rw [convert_eq hfiles] at hmade
    split at hmade
    · next hcomplete => exact ⟨_, hcomplete⟩
    · cases hmade
  · rintro ⟨hfiles, hends⟩
    obtain ⟨⟨closed, links⟩, hcomplete⟩ := hid.complete_ok_iff.2 hends
    exact ⟨_, by rw [convert_eq hfiles, hcomplete]⟩

/-- A conversion that fails has no files, or a search that never ends. -/
theorem convert_error {e : Refusal} (h : convert settings files = .error e) :
    e = if files = [] then .failure .noInput else .misuse .endless := by
  split
  · next hfiles =>
    subst hfiles
    exact (Except.error.inj h).symm
  · next hfiles =>
    rw [convert_eq hfiles] at h
    split at h
    · cases h
    · next m hcomplete =>
      have hid := resolveReferences_identified settings files
      rw [← Except.error.inj h, hid.eq_endless_of_complete hcomplete]

end Program

end ApiAtlas
