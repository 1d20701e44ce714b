import ApiAtlas.Proofs.Conversion.Sight

/-!
# The order of parameters

A parameter is misplaced if it takes the rest and is not last, or if it is required and stands after
one that may be left out (`Misplaced`). The check goes through the parameters once, and finds the
first misplaced one (`misplaced?_spec`). So converting a signature reports one problem with the
order of its parameters if one of them is misplaced, and none otherwise; what its types report is
about other signatures. The parameters are kept as they are written
(`Conv.convertSignature_order`).
-/

set_option autoImplicit false

namespace ApiAtlas

open Source

/-! ## Misplaced parameters -/

/-- Whether the parameter at a position takes the rest but is not last, or is neither optional nor
has a default nor takes the rest, but stands after one that is optional or has a default. -/
def Misplaced (ps : List Param) (i : Nat) : Prop :=
  ∃ p ∈ ps[i]?, (p.rest = true ∧ i + 1 < ps.length) ∨
    (p.optional = false ∧ p.defaultValue = none ∧ p.rest = false ∧
      ∃ q ∈ ps.take i, q.optional = true ∨ q.defaultValue.isSome = true)

/-- What is reported of a misplaced parameter. -/
def misplacedText (name : String) (p : Param) : String :=
  if p.rest then "rest parameter '" ++ p.name ++ "' of '" ++ name ++ "' is not last"
  else "required parameter '" ++ p.name ++ "' of '" ++ name ++ "' follows an optional one"

namespace Conv

variable {name : String} {p : Param} {ps before : List Param}

/-- A parameter may be left out if it is optional or has a default. -/
theorem mayBeOmitted_iff : mayBeOmitted p = true ↔
    p.optional = true ∨ p.defaultValue.isSome = true := by
  simp [mayBeOmitted]

/-- A parameter may not be left out if it is neither optional nor has a default. -/
theorem mayBeOmitted_eq_false_iff : mayBeOmitted p = false ↔
    p.optional = false ∧ p.defaultValue = none := by
  simp [mayBeOmitted]

/-- Both rules at once: a parameter is reported, or the check goes on with what it changes. -/
theorem misplaced?_cons (name : String) (omitted : Bool) (p : Param) (ps : List Param) :
    misplaced? name omitted (p :: ps) =
      if (p.rest = true ∧ ps ≠ []) ∨
          (mayBeOmitted p = false ∧ p.rest = false ∧ omitted = true) then
        some (misplacedText name p)
      else misplaced? name (omitted || mayBeOmitted p) ps := by
  rw [misplaced?, misplacedText]
  cases p.rest <;> cases mayBeOmitted p <;> cases omitted <;> cases ps <;> simp

/-- A parameter that stands between others is misplaced if it takes the rest before these, or has to
be given after one that may be left out. -/
theorem misplaced_length_iff : Misplaced (before ++ p :: ps) before.length ↔
    (p.rest = true ∧ ps ≠ []) ∨
      (mayBeOmitted p = false ∧ p.rest = false ∧ before.any mayBeOmitted = true) := by
  simp only [Misplaced, mayBeOmitted_eq_false_iff, List.any_eq_true, mayBeOmitted_iff]
  simp [List.length_pos_iff, and_assoc]

/-- The invariant of the check: of the parameters that have passed it remembers whether one of them
may be left out. -/
theorem misplaced?_after (name : String) (before ps : List Param) :
    (misplaced? name (before.any mayBeOmitted) ps = none ∧
      ∀ i, before.length ≤ i → ¬ Misplaced (before ++ ps) i) ∨
    ∃ i p, (before ++ ps)[i]? = some p ∧ before.length ≤ i ∧ Misplaced (before ++ ps) i ∧
      (∀ j, before.length ≤ j → j < i → ¬ Misplaced (before ++ ps) j) ∧
      misplaced? name (before.any mayBeOmitted) ps = some (misplacedText name p) := by
  induction ps generalizing before with
  | nil =>
    refine .inl ⟨rfl, fun i hi => ?_⟩
    rintro ⟨p, hp, -⟩
    rw [List.append_nil, List.getElem?_eq_none hi] at hp
    cases hp
  | cons p ps ih =>
    rw [misplaced?_cons]
    by_cases hfirst : Misplaced (before ++ p :: ps) before.length
    · refine .inr ⟨before.length, p, by simp, Nat.le_refl _, hfirst, fun j hj hlt => ?_, ?_⟩
      · exact absurd hlt (Nat.not_lt.2 hj)
      · rw [if_pos (misplaced_length_iff.1 hfirst)]
    · have hlater : ∀ j, before.length ≤ j → j ≠ before.length → (before ++ [p]).length ≤ j := by
        intro j hj hne
        rw [List.length_append, List.length_singleton]
        omega
      have hany : (before ++ [p]).any mayBeOmitted =
          (before.any mayBeOmitted || mayBeOmitted p) := by simp
      have hrest := ih (before ++ [p])
      rw [List.append_assoc, List.singleton_append, hany] at hrest
      rw [if_neg fun h => hfirst (misplaced_length_iff.2 h)]
      rcases hrest with ⟨hnone, hplaced⟩ | ⟨i, q, hq, hi, hmisplaced, hplaced, hsome⟩
      · refine .inl ⟨hnone, fun j hj => ?_⟩
        by_cases hne : j = before.length
        · exact hne ▸ hfirst
        · exact hplaced j (hlater j hj hne)
      · have hle : before.length ≤ i := by
          rw [List.length_append] at hi
          omega
        refine .inr ⟨i, q, hq, hle, hmisplaced, fun j hj hlt => ?_, hsome⟩
        by_cases hne : j = before.length
        · exact hne ▸ hfirst
        · exact hplaced j (hlater j hj hne) hlt

/-- The check finds the first misplaced parameter. -/
theorem misplaced?_spec (name : String) (ps : List Param) :
    (misplaced? name false ps = none ∧ ∀ i, ¬ Misplaced ps i) ∨
    ∃ i p, ps[i]? = some p ∧ Misplaced ps i ∧ (∀ j < i, ¬ Misplaced ps j) ∧
      misplaced? name false ps = some (misplacedText name p) := by
  rcases misplaced?_after name [] ps with ⟨hnone, hplaced⟩ | ⟨i, p, hp, -, hi, hfirst, hsome⟩
  · exact .inl ⟨hnone, fun i => hplaced i (Nat.zero_le i)⟩
  · exact .inr ⟨i, p, hp, hi, fun j => hfirst j (Nat.zero_le j), hsome⟩

/-- Of two misplaced parameters the first one is found, whatever is wrong with it. -/
example :
    let a : Param := { name := "a", optional := true, defaultValue := some "1" }
    let b : Param := { name := "b" }
    let c : Param := { name := "c", optional := true, rest := true }
    misplaced? "f" false [a, b, c, a] = some (misplacedText "f" b) ∧
      misplaced? "f" false [a, c, b] = some (misplacedText "f" c) := by
  decide

/-! ## Signatures -/

variable {x : Draft} {s : Site} {owner : EntryId} {bound : List String}

/-- Converting the types that are written on a type parameter leaves parts alone. -/
theorem typeParam_leaves {p : TypeParam} : p.All TypeLeaves :=
  ⟨fun t _ => leavesWalk.of_type t, fun t _ => leavesWalk.of_type t⟩

/-- Converting its type parameters adds nothing else to a signature. -/
theorem convertTypeParams_hasBody {ps : List TypeParam} {shape : Shape}
    (hbody : x.atlas.HasBody owner (.signature shape)) :
    (convertTypeParams s owner bound ps).Gives x fun _ y => ∃ is,
      y.atlas.HasBody owner
        (.signature { shape with typeParameters := shape.typeParameters ++ is }) := by
  induction ps generalizing x shape bound with
  | nil => exact ⟨[], by rwa [List.append_nil]⟩
  | cons p ps ih =>
    obtain ⟨name, constraint, default⟩ := p
    rw [convertTypeParams]
    have hne : owner ≠ x.atlas.size := Nat.ne_of_lt hbody.lt
    have hopen : (openTypeParameter owner name).Gives x fun i y => i = x.atlas.size ∧
        y.atlas.HasBody owner
          (.signature { shape with typeParameters := shape.typeParameters ++ [i] }) := by
      obtain ⟨e, he, hb⟩ := hbody
      have hlisted : (openTypeParameter owner name).Gives x _ :=
        (openTypeParameter_listed (Atlas.get?_lt he)).mono fun _ _ h => h.2
      rw [Gives, he, Option.map_some] at hlisted
      refine ⟨rfl, _, hlisted, ?_⟩
      simp only [Entry.addTypeParameter, Entry.mapDetails, Entry.mapShape, hb]
    refine .seq hopen ?_
    rintro _ y ⟨rfl, hy⟩
    refine .seq (convertType?_gives_leavesParts _ constraint y) fun limit z hyz => ?_
    refine .seq (convertType?_gives_leavesParts _ default z) fun standard v hzv => ?_
    have hv := hzv.hasBody (hyz.hasBody hy trivial id) trivial id
    refine .change_bind fun w hw => ?_
    have hsame : w.atlas.get? owner = v.atlas.get? owner := by
      rw [hw, Atlas.get?_modify_of_ne _ hne]
    refine (ih (hv.of_get? hsame)).mono ?_
    rintro _ u ⟨is, hu⟩
    refine ⟨x.atlas.size :: is, ?_⟩
    rwa [List.append_assoc, List.singleton_append] at hu

/-- What checking the order reports is about the first misplaced parameter. -/
theorem checkOrder_gives (s : Site) (sig : EntryId) (name : String) (ps : List Param) (x : Draft) :
    (checkOrder s sig name ps).Gives x fun _ y => y.atlas = x.atlas ∧
      ∃ own, y.diagnostics.toList = x.diagnostics.toList ++ own ∧
        ((∀ i, ¬ Misplaced ps i) → own = []) ∧
        ((∃ i, Misplaced ps i) → ∃ i p g, ps[i]? = some p ∧ Misplaced ps i ∧
          (∀ j < i, ¬ Misplaced ps j) ∧ own = [g] ∧ g.BlamesOrder sig ∧
          g.message = misplacedText name p) := by
  rw [Gives, run_checkOrder]
  rcases misplaced?_spec name ps with ⟨hnone, hplaced⟩ | ⟨i, p, hp, hi, hfirst, hsome⟩
  · rw [hnone]
    exact ⟨rfl, [], (List.append_nil _).symm, fun _ => rfl,
      fun ⟨i, hi⟩ => absurd hi (hplaced i)⟩
  · rw [hsome]
    refine ⟨rfl, [s.orderProblem sig (misplacedText name p)], Array.toList_push, ?_, fun _ => ?_⟩
    · exact fun hplaced => absurd hi (hplaced i)
    · exact ⟨i, p, _, hp, hi, hfirst, rfl, blamesOrder_orderProblem.2 rfl, rfl⟩

/-- A signature is reported once if one of its parameters is misplaced, namely for the first one
that is, and else not at all; and it has all parameters as they are written. What else is reported
is not about their order. -/
theorem convertSignature_order (s : Site) (name : String) (kind : Kind) (comment : Option Comment)
    (flags : Flags) (w : Signature) (x : Draft) :
    (convertSignature s name kind comment flags w).Gives x fun sig y =>
      ∃ others own, y.diagnostics.toList = x.diagnostics.toList ++ others ++ own ∧
        (∀ g ∈ others, ¬ g.BlamesOrder sig) ∧
        ((∀ i, ¬ Misplaced w.parameters i) → own = []) ∧
        ((∃ i, Misplaced w.parameters i) → ∃ i p g, w.parameters[i]? = some p ∧
          Misplaced w.parameters i ∧ (∀ j < i, ¬ Misplaced w.parameters j) ∧
          own = [g] ∧ g.BlamesOrder sig ∧ g.message = misplacedText name p) ∧
        ∃ shape, y.atlas.HasBody sig (.signature shape) ∧
          List.Forall₂ (y.atlas.ReadsParam sig (boundNames w.typeParameters ++ s.bound))
            w.parameters shape.parameters := by
  obtain ⟨parameters, result, typeParameters⟩ := w
  rw [convertSignature]
  have hopen : (openSignature s name kind comment flags).Gives x fun sig y =>
      y.atlas.size = sig + 1 ∧ y.diagnostics = x.diagnostics ∧
        y.atlas.HasBody sig (.signature {}) :=
    ⟨Atlas.size_add _ _, rfl, _, Atlas.get?_add_self x.atlas _, rfl⟩
  refine .seq hopen ?_
  rintro sig y ⟨hsize, hdiagnostics, hbodyy⟩
  -- From here on the signature is the only part that may be changed.
  have hleaves : (convertTypeParams s sig [] typeParameters).Leaves (· = sig) y fun _ => True :=
    convertTypeParams_leaves (fun _ _ => typeParam_leaves) fun _ => rfl
  have htypeParams : (convertTypeParams s sig [] typeParameters).Gives y fun names z =>
      names = boundNames typeParameters ∧ y.LeavesParts (· = sig) z ∧
        ∃ is, z.atlas.HasBody sig (.signature { typeParameters := is }) :=
    ⟨(convertTypeParams_bound typeParameters).trans (List.append_nil _), (hleaves y (.refl y)).1,
      convertTypeParams_hasBody hbodyy⟩
  refine .seq htypeParams ?_
  rintro _ z ⟨rfl, hyz, is, hbodyz⟩
  dsimp only
  have hparams : (convertParams (s.within sig (boundNames typeParameters)) sig comment
      parameters).Gives z fun _ v => y.LeavesParts (· = sig) v ∧ ∃ js,
        v.atlas.HasBody sig (.signature { typeParameters := is, parameters := [] ++ js }) ∧
        List.Forall₂ (v.atlas.ReadsParam sig (boundNames typeParameters ++ s.bound))
          parameters js :=
    ⟨(convertParams_leaves (A := (· = sig)) (fun _ _ t _ => leavesWalk.of_type t) (fun _ => rfl)
        z hyz).1,
      convertParams_reads (s := s.within sig (boundNames typeParameters)) hbodyz⟩
  refine .seq hparams ?_
  rintro _ v ⟨hyv, js, hbodyv, hreadsv⟩
  have hresult : (convertType? (s.within sig (boundNames typeParameters)) result).Gives v
      fun _ u => y.LeavesParts (· = sig) u ∧ v.LeavesParts (fun _ => False) u :=
    ⟨(convertType?_leaves (fun t _ => leavesWalk.of_type t) v hyv).1,
      convertType?_gives_leavesParts _ result v⟩
  refine .seq hresult ?_
  rintro type u ⟨hyu, hvu⟩
  have hbodyu := hvu.hasBody hbodyv trivial id
  have hreadsu := hreadsv.imp fun _ _ h => hvu.readsParam h id
  have hset : (changeEntry sig fun e => e.mapShape fun shape => { shape with type := type }).Gives u
      fun _ t => y.LeavesParts (· = sig) t ∧ (∃ shape, t.atlas.HasBody sig (.signature shape) ∧
        List.Forall₂ (t.atlas.ReadsParam sig (boundNames typeParameters ++ s.bound))
          parameters shape.parameters) := by
    refine ⟨(Leaves.change (A := (· = sig)) _ (fun _ => rfl) u hyu).1, _,
      changeShape_hasBody _ hbodyu, ?_⟩
    refine hreadsu.imp fun _ j hj => hj.congr ?_
    exact Atlas.get?_modify_of_ne _ (hj.isParameter.ne_signature hbodyu)
  refine .seq hset ?_
  rintro _ t ⟨hyt, hkept⟩
  refine .seq (checkOrder_gives s sig name parameters t) ?_
  rintro _ r ⟨hatlas, own, hown, hplaced, hmisplaced⟩
  obtain ⟨others, hothers, hlate⟩ := hyt.reports
  rw [hothers, hdiagnostics] at hown
  refine .pure ⟨others, own, hown, fun g hg hblames => ?_, hplaced, hmisplaced, ?_⟩
  · have hle := hlate g hg sig hblames
    omega
  · rwa [hatlas]

end Conv

end ApiAtlas
