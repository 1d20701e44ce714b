import ApiAtlas.Proofs.Conversion.Opened

/-!
# Runs of filling

Filling the entry of a declaration `Runs` within some reach when the conversions of its parts do,
wherever they start.
-/

set_option autoImplicit false

namespace ApiAtlas.Conv

open Source (Decl)

variable {x y : Draft} {s : Site} {d : Decl} {id : EntryId} {A : EntryId → Prop}

/-! ## Heritage -/

/-- Adding heritage types keeps the old ones in front. Of the new ones all that hold an inline
declaration are kept. -/
theorem extendHeritage_eq (types more : List Ty) :
    ∃ kept, extendHeritage types more = types ++ kept ∧ kept.Sublist more ∧
      kept.flatMap Ty.literals = more.flatMap Ty.literals := by
  induction more generalizing types with
  | nil => exact ⟨[], by simp [extendHeritage], .refl _, rfl⟩
  | cons t more ih =>
    obtain ⟨kept, heq, hsub, hlit⟩ := ih (addHeritage types t)
    rw [extendHeritage, List.foldl_cons, ← extendHeritage, heq]
    by_cases hdrop : (types.map heritageKey).contains (heritageKey t) ∧ t.literals.isEmpty
    · refine ⟨kept, ?_, hsub.cons t, ?_⟩
      · rw [addHeritage, if_pos (by simpa using hdrop)]
      · rw [List.flatMap_cons, List.isEmpty_iff.1 hdrop.2, hlit, List.nil_append]
    · refine ⟨t :: kept, ?_, hsub.cons_cons t, ?_⟩
      · rw [addHeritage, if_neg (by simpa using hdrop), List.append_assoc, List.singleton_append]
      · rw [List.flatMap_cons, List.flatMap_cons, hlit]

/-- Adding bases to an entry runs if they have no targets yet. -/
theorem extended_runs {ts : List Ty} (hd : x.atlas.NoAccessor id) (ht : Ty.AllOpen ts)
    (hA : A id) :
    (changeDetails id fun d => { d with extended := extendHeritage d.extended ts }).Runs x A
      fun _ _ => True := by
  refine changeDetails_runs hA (fun e m dd he _ => ?_) fun _ _ => trivial
  obtain ⟨kept, heq, hsub, -⟩ := extendHeritage_eq dd.extended ts
  obtain ⟨e', he', hk⟩ := hd
  rw [he, Option.some.injEq] at he'
  rw [heq]
  exact .extended kept (fun t h => ht t (hsub.subset h)) (he' ▸ hk)

/-- Adding interfaces to an entry runs if they have no targets yet. -/
theorem implemented_runs {ts : List Ty} (hd : x.atlas.NoAccessor id) (ht : Ty.AllOpen ts)
    (hA : A id) :
    (changeDetails id fun d => { d with implemented := extendHeritage d.implemented ts }).Runs x A
      fun _ _ => True := by
  refine changeDetails_runs hA (fun e m dd he _ => ?_) fun _ _ => trivial
  obtain ⟨kept, heq, hsub, -⟩ := extendHeritage_eq dd.implemented ts
  obtain ⟨e', he', hk⟩ := hd
  rw [he, Option.some.injEq] at he'
  rw [heq]
  exact .implemented kept (fun t h => ht t (hsub.subset h)) (he' ▸ hk)

/-! ## Kinds of declarations -/

/-- Setting the type of an entry runs if the type has no targets yet. -/
theorem setType_runs {t : Option Ty} (ht : ∀ u ∈ t, u.IsOpen) (hA : A id) :
    (changeDetails id fun d => { d with type := t }).Runs x A fun _ _ => True :=
  changeDetails_runs hA (fun _ _ _ _ _ => .type t ht) fun _ _ => trivial

/-- Writing a type in place runs if filling its declaration does. -/
theorem inlineType_runs {fill : EntryId → Conv Unit} (hx : x.atlas.Identified)
    (hs : s.scope < x.atlas.size) (hnew : A x.atlas.size)
    (hfill : ∀ y : Draft, y.atlas.Hosts x.atlas.size → x.atlas.Extends y.atlas →
      y.atlas.Identified → (fill x.atlas.size).Runs y A fun _ _ => True) :
    (inlineType s fill).Runs x A fun ty _ => ty.IsOpen := by
  refine .bind hx (openLiteral_runs hs hnew) ?_
  rintro id y ⟨rfl, hy⟩ hxy hyi
  refine .bind hyi (hfill y hy hxy hyi) ?_
  intro _ z _ _ _
  exact .pure (Ty.isOpen_of_parts_eq_nil rfl rfl)

/-- Filling a container runs if converting its members does. -/
theorem fillContainer_runs {members : Site → Conv (List EntryId)} (hx : x.atlas.Identified)
    (hm : (members (s.within id [])).Runs x A fun _ _ => True) :
    (fillContainer s members id).Runs x A fun _ _ => True :=
  .then_pure hx hm

/-- Binding the type parameters of an entry, unless it has them, runs if creating them does. -/
theorem knownOrNew_runs {typeParams : EntryId → Conv (List String)}
    (htp : (typeParams id).Runs x A fun _ _ => True) :
    (knownOrNew typeParams id).Runs x A fun _ _ => True := by
  refine .ask_bind ?_
  split
  · exact htp
  · exact .ask trivial

/-- Filling a class runs if converting its type parameters, its heritage and its members does. -/
theorem fillClass_runs {typeParams : EntryId → Conv (List String)}
    {bases interfaces : Site → Conv (List Ty)} {members : Site → Conv (List EntryId)}
    (hx : x.atlas.Identified) (hd : x.atlas.NoAccessor id) (hA : A id)
    (htp : (typeParams id).Runs x A fun _ _ => True)
    (hb : ∀ bound (y : Draft), x.atlas.Extends y.atlas → y.atlas.Identified →
      (bases (s.within id bound)).Runs y A fun tys _ => Ty.AllOpen tys)
    (hi : ∀ bound (y : Draft), x.atlas.Extends y.atlas → y.atlas.Identified →
      (interfaces (s.within id bound)).Runs y A fun tys _ => Ty.AllOpen tys)
    (hm : ∀ bound (y : Draft), x.atlas.Extends y.atlas → y.atlas.Identified →
      (members (s.within id bound)).Runs y A fun _ _ => True) :
    (fillClass s typeParams bases interfaces members id).Runs x A fun _ _ => True := by
  refine .bind hx (knownOrNew_runs htp) fun bound y _ hxy hy => ?_
  refine .bind hy (hb bound y hxy hy) fun extended z hext hyz hz => ?_
  have hxz := hxy.trans hyz
  refine .bind hz (extended_runs (hxz.noAccessor hd) hext hA) fun _ v _ hzv hv => ?_
  have hxv := hxz.trans hzv
  refine .bind hv (hi bound v hxv hv) fun implemented u himp hvu hu => ?_
  have hxu := hxv.trans hvu
  refine .bind hu (implemented_runs (hxu.noAccessor hd) himp hA) fun _ t _ hut ht => ?_
  exact .then_pure ht (hm bound t (hxu.trans hut) ht)

/-- Filling a function or a method runs if converting its signature does. -/
theorem fillCallable_runs {name : Atlas → EntryId → String}
    {signature : Site → String → Conv EntryId} (hx : x.atlas.Identified) (hd : x.atlas.Hosts id)
    (hA : A id)
    (hs : (signature (s.within id []) (name x.atlas id)).Runs x A fun sig y =>
      y.atlas.IsSignatureOf sig id [.callSignature, .constructorSignature]) :
    (fillCallable s name signature id).Runs x A fun _ _ => True :=
  .ask_bind <| .bind hx hs fun _ _ hsig hxy _ => addSignature_runs (hxy.hosts hd) hsig hA

/-- Filling an accessor runs if converting its type and its signature does. -/
theorem fillAccessor_runs {isGetter : Bool} {value : Site → Conv (Option Ty)}
    {signature : Site → Conv EntryId} {symbol : Option String} (hx : x.atlas.Identified)
    (hd : x.atlas.Declares id symbol true) (hA : A id)
    (hv : (value (s.within id [])).Runs x A fun ty _ => ∀ u ∈ ty, u.IsOpen)
    (hs : (signature (s.within id [])).Runs x A fun sig y =>
      y.atlas.IsSignatureOf sig id [if isGetter then .getSignature else .setSignature]) :
    (fillAccessor s d isGetter value signature id).Runs x A fun _ _ => True := by
  refine .ask_bind ?_
  dsimp only
  split
  · split
    · exact .bind hx hv fun _ _ hty _ _ => setType_runs hty hA
    · exact .pure trivial
  · split
    · exact .report hA (fun _ => .of_conflict (by simp)) fun _ _ => trivial
    · refine .bind hx hs fun sig y hsig hxy _ =>
        changeDetails_runs hA (fun e m dd he _ => ?_) fun _ _ => trivial
      obtain ⟨e', he', -, -, hk⟩ := hxy.declares hd
      rw [he, Option.some.injEq] at he'
      subst he'
      cases isGetter with
      | true => exact .getSignature sig hsig hk
      | false => exact .setSignature sig hsig hk

/-- Filling a variable or a property runs if converting its type does. -/
theorem fillValue_runs {type : Site → Conv (Option Ty)} {value : Option String}
    (hx : x.atlas.Identified) (hA : A id)
    (ht : (type (s.within id [])).Runs x A fun ty _ => ∀ u ∈ ty, u.IsOpen) :
    (fillValue s type value id).Runs x A fun _ _ => True := by
  have finish : ∀ y : Draft,
      (changeDetails id fun d => { d with defaultValue := d.defaultValue.or value }).Runs y A
        fun _ _ => True :=
    fun y => changeDetails_runs hA (fun _ _ _ _ _ => .defaultValue _) fun _ _ => trivial
  refine .ask_bind ?_
  split
  · exact .bind hx ht fun ty y hty _ hy => .bind hy (setType_runs hty hA) fun _ z _ _ _ => finish z
  · exact finish x

/-- Filling an alias runs if converting its type parameters and its type does. -/
theorem fillAlias_runs {typeParams : EntryId → Conv (List String)}
    {type : Site → Conv (Option Ty)} (hx : x.atlas.Identified) (hA : A id)
    (htp : (typeParams id).Runs x A fun _ _ => True)
    (ht : ∀ bound (y : Draft), x.atlas.Extends y.atlas → y.atlas.Identified →
      (type (s.within id bound)).Runs y A fun ty _ => ∀ u ∈ ty, u.IsOpen) :
    (fillAlias s d typeParams type id).Runs x A fun _ _ => True := by
  refine .ask_bind ?_
  split
  · exact .ask_bind (.report hA (fun _ => .of_conflict (by simp)) fun _ _ => trivial)
  · refine .bind hx htp fun bound y _ hxy hy => ?_
    exact .bind hy (ht bound y hxy hy) fun _ _ hty _ _ => setType_runs hty hA

/-! ## Signatures of a declaration -/

/-- The report on a signature that belongs to nothing runs. -/
theorem reportLoose_runs {what : String} {line : Option Int} (hx : x.atlas.Identified)
    (hA : A s.scope) (hw : '\'' ∉ what.toList) :
    (reportLoose s what line).Runs x A fun _ _ => True := by
  have quiet : '\'' ∉ (what ++ " outside of a declaration").toList := by
    rw [String.toList_append, List.mem_append]
    rintro (h | h)
    · exact hw h
    · revert h
      decide
  exact .then_pure hx (.report hA (fun _ => .of_unquoted quiet) (R := fun _ _ => True)
    fun _ _ => trivial)

/-- Adding a signature to what it stands in runs if converting the signature does. -/
theorem addCallable_runs {what : String} {line : Option Int} {signature : Conv EntryId}
    (hx : x.atlas.Identified) (hs : x.atlas.Hosts s.scope) (hA : A s.scope)
    (hw : '\'' ∉ what.toList)
    (hsig : signature.Runs x A fun sig y =>
      y.atlas.IsSignatureOf sig s.scope [.callSignature, .constructorSignature]) :
    (addCallable s what line signature).Runs x A fun _ _ => True := by
  refine .ask_bind ?_
  split
  · exact reportLoose_runs hx hA hw
  · refine .bind hx hsig fun sig y hsig hxy hy => ?_
    exact .then_pure hy (addSignature_runs (hxy.hosts hs) hsig hA)

/-- Adding an index signature to what it stands in runs if converting the signature does. -/
theorem addIndex_runs {line : Option Int} {signature : Conv EntryId} (hx : x.atlas.Identified)
    (hs : x.atlas.Hosts s.scope) (hA : A s.scope)
    (hsig : signature.Runs x A fun sig y => y.atlas.IsSignatureOf sig s.scope [.indexSignature]) :
    (addIndex s line signature).Runs x A fun _ _ => True := by
  refine .ask_bind ?_
  split
  · exact reportLoose_runs hx hA (by decide)
  · split
    · refine .ask_bind (.then_pure (Q := fun _ _ => True) hx ?_)
      exact .report hA (fun _ => .of_conflict (by simp)) fun _ _ => trivial
    · refine .bind hx hsig fun sig y h hxy hy => .then_pure (Q := fun _ _ => True) hy ?_
      refine changeDetails_runs hA (fun e m dd he _ => ?_) fun _ _ => trivial
      obtain ⟨e', he', -, hk⟩ := hxy.hosts hs
      rw [he, Option.some.injEq] at he'
      exact .indexSignature sig h (he' ▸ hk)

end ApiAtlas.Conv
