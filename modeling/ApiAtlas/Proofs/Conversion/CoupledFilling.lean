import ApiAtlas.Conversion.Convert
import ApiAtlas.Proofs.Conversion.CoupledSteps

/-!
# Coupled filling

Filling the entry of a declaration couples when the conversions of its parts do, wherever they start
while the entry is being filled.
-/

set_option autoImplicit false

namespace ApiAtlas.Conv

open Source (Decl)

variable {K : Coupling} {x y : Draft} {s : Site} {d : Decl} {i : EntryId} {ds ds' : List Decl}

/-- The conversions of a part couple inside an entry, after whatever else is done there. -/
def PartCouples (K : Coupling) (ds : List Decl) (s : Site) (i : EntryId) (x : Draft) {α β : Type}
    (part : Site → Conv α) (part' : Site → Conv β) (g : α → β) : Prop :=
  ∀ bound z w, K.Related z w → x.Kept ds z →
    Couples K ds (part (K.left (s.within i bound))) (part' (K.right (s.within i bound))) z w g
      fun _ _ => True

namespace PartCouples

variable {α β : Type} {part : Site → Conv α} {part' : Site → Conv β} {g : α → β}

/-- What holds of a part for fewer declarations. -/
theorem inside (hsub : ds' ⊆ ds)
    (h : ∀ bound z w, K.Related z w → x.Kept ds z →
      Couples K ds' (part (K.left (s.within i bound))) (part' (K.right (s.within i bound))) z w g
        fun _ _ => True) : PartCouples K ds s i x part part' g :=
  fun bound z w hrel hkept => (h bound z w hrel hkept).inside hsub

/-- A part that couples wherever its declarations may be converted. -/
theorem of_allowed (hsub : ds' ⊆ ds) (hallow : K.Allows ds) (hi : i < x.atlas.size)
    (h : ∀ (s : Site) (z w : Draft), K.Related z w → s.scope < z.atlas.size → K.Allows ds' →
      Couples K ds' (part (K.left s)) (part' (K.right s)) z w g fun _ _ => True) :
    PartCouples K ds s i x part part' g := by
  refine .inside hsub fun bound z w hrel hkept => ?_
  exact h (s.within i bound) z w hrel (Nat.lt_of_lt_of_le hi hkept.grows.size_le)
    (hallow.mono hsub)

end PartCouples

/-- Writing a type in place couples when filling its declaration does. -/
theorem inlineType_couples {fill fill' : EntryId → Conv Unit} (h : K.Related x y)
    (hs : s.scope < x.atlas.size)
    (hfill : ∀ z w, K.Related z w → z.atlas.Hosts x.atlas.size →
      z.atlas.kindAt x.atlas.size = some .typeLiteral → z.atlas.symbolOf x.atlas.size = none →
      Couples K ds (fill x.atlas.size) (fill' (K.rename x.atlas.size)) z w id fun _ _ => True) :
    Couples K ds (inlineType (K.left s) fill) (inlineType (K.right s) fill') x y
      (Ty.rename K.rename) fun _ _ => True := by
  refine .bind (openLiteral_couples h hs) fun j z w hj hrel _ => ?_
  obtain ⟨rfl, hhosts, hkind, hsymbol⟩ := hj
  exact .then_pure (hfill z w hrel hhosts hkind hsymbol) rfl

/-- Filling a container couples when the conversions of its members do. -/
theorem fillContainer_couples {members members' : Site → Conv (List EntryId)} (h : K.Related x y)
    (hm : PartCouples K ds s i x members members' (List.map K.rename)) :
    Couples K ds (fillContainer (K.left s) members i)
      (fillContainer (K.right s) members' (K.rename i)) x y id fun _ _ => True :=
  .then_pure (hm [] x y h (.refl _ _)) rfl

/-- Binding the type parameters of an entry, unless it has them, couples when creating them does. -/
theorem knownOrNew_couples {typeParams typeParams' : EntryId → Conv (List String)}
    (h : K.Related x y)
    (htp : Couples K ds (typeParams i) (typeParams' (K.rename i)) x y id fun _ _ => True) :
    Couples K ds (knownOrNew typeParams i) (knownOrNew typeParams' (K.rename i)) x y id
      fun _ _ => True := by
  refine .ask_bind ?_
  rw [Coupling.typeParameters_eq h, List.isEmpty_map]
  split
  · exact htp
  · exact .ask h (Coupling.boundBy_eq h i) trivial

/-- Filling a class couples when the conversions of its type parameters, heritage and members do. -/
theorem fillClass_couples {typeParams typeParams' : EntryId → Conv (List String)}
    {bases bases' interfaces interfaces' : Site → Conv (List Ty)}
    {members members' : Site → Conv (List EntryId)} (h : K.Related x y) (hroot : i ≠ Atlas.root)
    (hlt : i < x.atlas.size) (hown : ∀ s, x.atlas.symbolOf i = some s → K.Carried s)
    (htp : Couples K ds (typeParams i) (typeParams' (K.rename i)) x y id fun _ _ => True)
    (hb : PartCouples K ds s i x bases bases' (List.map (Ty.rename K.rename)))
    (hi : PartCouples K ds s i x interfaces interfaces' (List.map (Ty.rename K.rename)))
    (hm : PartCouples K ds s i x members members' (List.map K.rename)) :
    Couples K ds (fillClass (K.left s) typeParams bases interfaces members i)
      (fillClass (K.right s) typeParams' bases' interfaces' members' (K.rename i)) x y id
      fun _ _ => True := by
  refine .bind (knownOrNew_couples h htp) fun bound z w _ hzw hxz => ?_
  refine .bind (hb bound z w hzw hxz) fun extended z' w' _ hzw' hzz' => ?_
  have hxz' := (hxz.trans hzz').grows
  refine .bind (.changeHeritage (U := fun _ _ => True) hzw' hroot (fun d => ?_) (fun _ => rfl)
    (Or.inr fun s hs => hown s ((hxz'.symbolOf_eq hlt).symm.trans hs)) fun _ => trivial)
    fun _ v u _ hvu hzv => ?_
  · simp [Details.rename, extendHeritage_rename]
  have hxv := (hxz.trans hzz').trans hzv
  refine .bind (hi bound v u hvu hxv) fun implemented v' u' _ hvu' hvv' => ?_
  refine .bind (.changeDetails (U := fun _ _ => True) hvu' hroot (fun d => ?_) (fun _ => rfl)
    (fun _ => ⟨rfl, rfl⟩) fun _ => trivial) fun _ r t _ hrt hvr => ?_
  · simp [Details.rename, extendHeritage_rename]
  exact .then_pure (hm bound r t hrt ((hxv.trans hvv').trans hvr)) rfl

/-- Filling a function or a method couples when the conversions of its signature do. -/
theorem fillCallable_couples {name name' : Atlas → EntryId → String}
    {signature signature' : Site → String → Conv EntryId} (h : K.Related x y)
    (hroot : i ≠ Atlas.root) (hname : name' y.atlas (K.rename i) = name x.atlas i)
    (hs : ∀ shown, PartCouples K ds s i x (fun s => signature s shown)
      (fun s => signature' s shown) K.rename) :
    Couples K ds (fillCallable (K.left s) name signature i)
      (fillCallable (K.right s) name' signature' (K.rename i)) x y id fun _ _ => True := by
  refine .ask_bind ?_
  rw [hname]
  exact .bind (hs _ [] x y h (.refl _ _)) fun sig z w _ hrel _ => addSignature_couples hrel hroot

/-- The signature that an accessor has in a slot is renumbered with its details. -/
theorem accessorSignature_rename (isGetter : Bool) (d : Details) :
    accessorSignature isGetter (d.rename K.rename) =
      (accessorSignature isGetter d).map K.rename := by
  cases isGetter <;> rfl

/-- Filling an accessor couples when the conversions of its type and its signature do. -/
theorem fillAccessor_couples {isGetter : Bool} {value value' : Site → Conv (Option Ty)}
    {signature signature' : Site → Conv EntryId} (h : K.Related x y)
    (hd : x.atlas.isDeclaration i = true)
    (hv : PartCouples K ds s i x value value' (Option.map (Ty.rename K.rename)))
    (hs : PartCouples K ds s i x signature signature' K.rename) :
    Couples K ds (fillAccessor (K.left s) d isGetter value signature i)
      (fillAccessor (K.right s) (d.strip K.drop) isGetter value' signature' (K.rename i)) x y id
      fun _ _ => True := by
  have hroot := (K.identified h).ne_root hd
  obtain ⟨e, he⟩ := Atlas.exists_get? (Atlas.lt_of_isDeclaration hd)
  obtain ⟨e', he', halike⟩ := Coupling.exists_alike h he
  obtain ⟨m, hm⟩ : ∃ m, e.details? = some m := by
    rw [← Option.isSome_iff_exists]
    exact (Atlas.isDeclaration_eq he).symm.trans hd
  have hm' : e'.details? = some (m.rename K.rename) := by rw [halike.details, hm, Option.map_some]
  refine .ask_bind ?_
  simp only [he, he', Option.getD_some, hm, hm', halike.kind, halike.name, symbolDetail_strip,
    accessorSignature_rename, Option.isSome_map]
  split
  · have htype : (m.rename K.rename).type.isNone = m.type.isNone := Option.isNone_map ..
    rw [htype]
    split
    · refine .bind (hv [] x y h (.refl _ _)) fun value z w _ hrel _ => ?_
      exact .changeDetails hrel hroot (fun _ => rfl) (fun _ => rfl) (fun _ => ⟨rfl, rfl⟩)
        fun _ => trivial
    · exact .pure h rfl trivial
  · split
    · exact .report (s := s.within i []) h fun _ _ => trivial
    · refine .bind (hs [] x y h (.refl _ _)) fun sig z w _ hrel _ => ?_
      refine .changeDetails hrel hroot (fun d => ?_) (fun d => ?_) (fun d => ?_) fun _ => trivial
      · cases isGetter <;> rfl
      · cases isGetter <;> rfl
      · cases isGetter <;> exact ⟨rfl, rfl⟩

/-- What is known of the type of a declaration. -/
theorem bind_type_eq (h : K.Related x y) (i : EntryId) :
    (y.atlas.details? (K.rename i)).bind (·.type) =
      ((x.atlas.details? i).bind (·.type)).map (Ty.rename K.rename) := by
  rw [Coupling.details?_eq h]
  cases x.atlas.details? i <;> rfl

/-- Filling a variable or a property couples when the conversions of its type do. -/
theorem fillValue_couples {type type' : Site → Conv (Option Ty)} {value : Option String}
    (h : K.Related x y) (hroot : i ≠ Atlas.root)
    (ht : PartCouples K ds s i x type type' (Option.map (Ty.rename K.rename))) :
    Couples K ds (fillValue (K.left s) type value i)
      (fillValue (K.right s) type' value (K.rename i)) x y id fun _ _ => True := by
  have finish : ∀ z w : Draft, K.Related z w →
      Couples K ds (changeDetails i fun d => { d with defaultValue := d.defaultValue.or value })
        (changeDetails (K.rename i) fun d => { d with defaultValue := d.defaultValue.or value })
        z w id fun _ _ => True :=
    fun z w hrel => .changeDetails hrel hroot (fun _ => rfl) (fun _ => rfl)
      (fun _ => ⟨rfl, rfl⟩) fun _ => trivial
  refine .ask_bind ?_
  rw [bind_type_eq h, Option.isNone_map]
  split
  · refine .bind (ht [] x y h (.refl _ _)) fun type z w _ hrel _ => ?_
    refine .bind (.changeDetails (U := fun _ _ => True) hrel hroot (fun _ => rfl) (fun _ => rfl)
      (fun _ => ⟨rfl, rfl⟩) fun _ => trivial) fun _ z' w' _ hrel' _ => ?_
    exact finish z' w' hrel'
  · exact finish x y h

/-- Filling an alias couples when the conversions of its type parameters and its type do. -/
theorem fillAlias_couples {typeParams typeParams' : EntryId → Conv (List String)}
    {type type' : Site → Conv (Option Ty)} (h : K.Related x y) (hroot : i ≠ Atlas.root)
    (htp : Couples K ds (typeParams i) (typeParams' (K.rename i)) x y id fun _ _ => True)
    (ht : PartCouples K ds s i x type type' (Option.map (Ty.rename K.rename))) :
    Couples K ds (fillAlias (K.left s) d typeParams type i)
      (fillAlias (K.right s) (d.strip K.drop) typeParams' type' (K.rename i)) x y id
      fun _ _ => True := by
  refine .ask_bind ?_
  rw [bind_type_eq h, Option.isSome_map]
  split
  · refine .ask_bind ?_
    rw [Coupling.nameOf_eq h, symbolDetail_strip]
    exact .report h fun _ _ => trivial
  · refine .bind htp fun bound _ _ _ hrel hkept => ?_
    refine .bind (ht bound _ _ hrel hkept) fun type z w _ hrel _ => ?_
    exact .changeDetails hrel hroot (fun _ => rfl) (fun _ => rfl) (fun _ => ⟨rfl, rfl⟩)
      fun _ => trivial

/-! ## Signatures of a declaration -/

/-- Adding a signature to what it stands in couples when the conversions of the signature do. -/
theorem addCallable_couples {what : String} {line : Option Int}
    {signature signature' : Conv EntryId} (h : K.Related x y)
    (hs : Couples K ds signature signature' x y K.rename fun _ _ => True) :
    Couples K ds (addCallable (K.left s) what line signature)
      (addCallable (K.right s) what line signature') x y (Option.map K.rename)
      fun _ _ => True := by
  refine .ask_bind ?_
  dsimp only [Coupling.left, Coupling.right]
  rw [Coupling.isDeclaration_eq h]
  split
  · exact reportLoose_couples h
  · next howner =>
    have hroot := (K.identified h).ne_root (i := s.scope) (by simpa using howner)
    refine .bind hs fun sig z w _ hrel _ => ?_
    exact .then_pure (addSignature_couples hrel hroot) rfl

/-- Adding an index signature to what it stands in couples when the conversions of the signature do.
-/
theorem addIndex_couples {line : Option Int} {signature signature' : Conv EntryId}
    (h : K.Related x y) (hs : Couples K ds signature signature' x y K.rename fun _ _ => True) :
    Couples K ds (addIndex (K.left s) line signature)
      (addIndex (K.right s) line signature') x y (Option.map K.rename) fun _ _ => True := by
  refine .ask_bind ?_
  dsimp only [Coupling.left, Coupling.right]
  rw [Coupling.details?_eq h]
  cases hd : x.atlas.details? s.scope with
  | none => exact reportLoose_couples h
  | some m =>
    have hroot : s.scope ≠ Atlas.root :=
      (K.identified h).ne_root (by rw [Atlas.isDeclaration, hd, Option.isSome_some])
    have hindex : (m.rename K.rename).indexSignature.isSome = m.indexSignature.isSome :=
      Option.isSome_map ..
    dsimp only [Option.map_some]
    rw [hindex]
    split
    · refine .ask_bind ?_
      rw [Coupling.nameOf_eq h]
      exact .then_pure (.report (U := fun _ _ => True) h fun _ _ => trivial) rfl
    · refine .bind hs fun sig z w _ hrel _ => ?_
      exact .then_pure (.changeDetails (U := fun _ _ => True) hrel hroot (fun _ => rfl)
        (fun _ => rfl) (fun _ => ⟨rfl, rfl⟩) fun _ => trivial) rfl

end ApiAtlas.Conv
