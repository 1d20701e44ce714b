import ApiAtlas.Proofs.Conversion.Stored

/-!
# Filling stores once

Filling the entry of a declaration stores all that its parts create, and leaves nothing pending
that was not. A slot that can only hold one entry is still empty when it gets one, because the
parts in between may not touch the entry.
-/

set_option autoImplicit false

namespace ApiAtlas.Conv

open Source (Decl)

variable {x : Draft} {s : Site} {d : Decl} {id : EntryId} {A B : EntryId → Prop}
  {P : List EntryId}

/-- The declarations in a type that is written in place are owed to its scope, if filling them
leaves the atlas tidy. -/
theorem inlineType_gives {fill : EntryId → Conv Unit} (hx : x.atlas.Identified)
    (hs : s.scope < x.atlas.size) (h : x.atlas.Tidy P)
    (hr : ∀ y : Draft, y.atlas.Hosts x.atlas.size → y.atlas.Identified →
      (fill x.atlas.size).Runs y A fun _ _ => True)
    (hfill : ∀ y : Draft, y.atlas.Hosts x.atlas.size →
      y.atlas.HasBody x.atlas.size (.declaration {} {}) → y.atlas.Identified →
      y.atlas.Tidy (P ++ [x.atlas.size]) →
      (fill x.atlas.size).Gives y fun _ z => z.atlas.Tidy (P ++ [x.atlas.size])) :
    (inlineType s fill).Gives x fun ty y => y.atlas.Owes P s.scope ty.literals := by
  refine .bind hx ((openLiteral_runs (A := fun _ => True) hs trivial).and
    (openLiteral_gives hx h hs)) ?_
  rintro id y ⟨⟨rfl, hosts⟩, howes, hbody⟩ hxy
  refine .bind hxy.identified ((hr y hosts hxy.identified).and
    (hfill y hosts hbody hxy.identified howes.tidy)) ?_
  rintro _ z ⟨-, hz⟩ hyz
  refine .pure ⟨hz, fun q hq => ?_⟩
  obtain rfl := List.mem_singleton.1 hq
  rw [hyz.grows.parent?_eq hosts.lt, howes.parent _ hq]

/-- Filling a container leaves the atlas tidy if converting its members does. -/
theorem fillContainer_gives {members : Site → Conv (List EntryId)}
    (hm : (members (s.within id [])).Gives x fun _ y => y.atlas.Tidy P) :
    (fillContainer s members id).Gives x fun _ y => y.atlas.Tidy P :=
  .then_pure hm

/-- Binding the type parameters of an entry, unless it has them, leaves the atlas tidy if creating
them does. -/
theorem knownOrNew_gives {typeParams : EntryId → Conv (List String)} (h : x.atlas.Tidy P)
    (htp : (typeParams id).Gives x fun _ y => y.atlas.Tidy P) :
    (knownOrNew typeParams id).Gives x fun _ y => y.atlas.Tidy P := by
  refine .ask_bind ?_
  split
  · exact htp
  · exact h

/-- Filling a class leaves the atlas tidy if the inline declarations of its heritage are owed to it.
-/
theorem fillClass_gives {typeParams : EntryId → Conv (List String)}
    {bases interfaces : Site → Conv (List Ty)} {members : Site → Conv (List EntryId)}
    (hx : x.atlas.Identified) (hd : x.atlas.isDeclaration id = true) (hno : x.atlas.NoAccessor id)
    (h : x.atlas.Tidy P) (htp : (typeParams id).Runs x A fun _ y => y.atlas.Tidy P)
    (hb : ∀ bound (y : Draft), x.atlas.Extends y.atlas → y.atlas.Identified → y.atlas.Tidy P →
      (bases (s.within id bound)).Runs y A fun tys z =>
        Ty.AllOpen tys ∧ z.atlas.Owes P id (tys.flatMap Ty.literals))
    (hi : ∀ bound (y : Draft), x.atlas.Extends y.atlas → y.atlas.Identified → y.atlas.Tidy P →
      (interfaces (s.within id bound)).Runs y A fun tys z =>
        Ty.AllOpen tys ∧ z.atlas.Owes P id (tys.flatMap Ty.literals))
    (hm : ∀ bound (y : Draft), x.atlas.Extends y.atlas → y.atlas.Identified → y.atlas.Tidy P →
      (members (s.within id bound)).Gives y fun _ z => z.atlas.Tidy P) :
    (fillClass s typeParams bases interfaces members id).Gives x fun _ y => y.atlas.Tidy P := by
  have known : (knownOrNew typeParams id).Gives x fun _ y => y.atlas.Tidy P :=
    knownOrNew_gives h htp.post
  refine .bind hx ((knownOrNew_runs (htp.weaken fun _ _ _ => trivial)).and known) ?_
  rintro bound y ⟨-, hy⟩ hxy
  refine .bind hxy.identified (hb bound y hxy.grows hxy.identified hy) ?_
  rintro extended z ⟨hopen, hz⟩ hyz
  have hxz := hxy.grows.trans hyz.grows
  refine .bind hyz.identified ((extended_runs (A := fun _ => True) (hxz.noAccessor hno) hopen
    trivial).and (extended_gives (hxz.isDeclaration hd) hz)) ?_
  rintro _ v ⟨-, hv⟩ hzv
  have hxv := hxz.trans hzv.grows
  refine .bind hzv.identified (hi bound v hxv hzv.identified hv) ?_
  rintro implemented u ⟨hopen, hu⟩ hvu
  have hxu := hxv.trans hvu.grows
  refine .bind hvu.identified ((implemented_runs (A := fun _ => True) (hxu.noAccessor hno) hopen
    trivial).and (implemented_gives (hxu.isDeclaration hd) hu)) ?_
  rintro _ t ⟨-, ht⟩ hut
  exact .then_pure (hm bound t (hxu.trans hut.grows) hut.identified ht)

/-- A signature is newer than all that its declaration held when it was opened. -/
theorem newSignature_gives {y : Draft} (hxy : x.Grown A y)
    (hd : x.atlas.isDeclaration id = true) (h : x.atlas.Tidy P) (hA : ¬ A id)
    (howes : y.atlas.Owes P id [x.atlas.size]) :
    (addSignature id x.atlas.size).Gives y fun _ z => z.atlas.Tidy P := by
  obtain ⟨e₀, m, d, he₀, -⟩ := Atlas.exists_body_of_isDeclaration hd
  refine addSignature_gives (hxy.grows.isDeclaration hd) howes fun e he j hj => ?_
  rw [hxy.frame id (Atlas.get?_lt he₀) hA] at he
  exact h.held_lt he hj

/-- Filling a function or a method leaves the atlas tidy if its signature is owed to it. -/
theorem fillCallable_gives {name : Atlas → EntryId → String}
    {signature : Site → String → Conv EntryId} (hx : x.atlas.Identified)
    (hd : x.atlas.isDeclaration id = true) (h : x.atlas.Tidy P) (hA : ¬ A id)
    (hs : (signature (s.within id []) (name x.atlas id)).Runs x A fun sig y =>
      sig = x.atlas.size ∧ y.atlas.Owes P id [sig]) :
    (fillCallable s name signature id).Gives x fun _ y => y.atlas.Tidy P := by
  refine .ask_bind (.bind hx hs ?_)
  rintro sig y ⟨rfl, howes⟩ hxy
  exact newSignature_gives hxy hd h hA howes

/-- Adding a signature to what it stands in leaves the atlas tidy if it is owed to that. -/
theorem addCallable_gives {what : String} {line : Option Int} {signature : Conv EntryId}
    (hx : x.atlas.Identified) (h : x.atlas.Tidy P) (hA : ¬ A s.scope)
    (hs : signature.Runs x A fun sig y => sig = x.atlas.size ∧ y.atlas.Owes P s.scope [sig]) :
    (addCallable s what line signature).Gives x fun _ y => y.atlas.Tidy P := by
  refine .ask_bind ?_
  split
  · exact .report_bind fun y hy => .pure (hy ▸ h)
  · next hd =>
    refine .bind hx hs ?_
    rintro sig y ⟨rfl, howes⟩ hxy
    exact .then_pure (newSignature_gives hxy (by simpa using hd) h hA howes)

/-- Adding an index signature to what it stands in leaves the atlas tidy if it is owed to that. -/
theorem addIndex_gives {line : Option Int} {signature : Conv EntryId} (hx : x.atlas.Identified)
    (h : x.atlas.Tidy P) (hA : ¬ A s.scope)
    (hs : signature.Runs x A fun sig y => y.atlas.Owes P s.scope [sig]) :
    (addIndex s line signature).Gives x fun _ y => y.atlas.Tidy P := by
  refine .ask_bind ?_
  split
  · exact .report_bind fun y hy => .pure (hy ▸ h)
  · next details hdetails =>
    split
    · exact .ask_bind (.report_bind fun y hy => .pure (hy ▸ h))
    · next hfree =>
      have hd : x.atlas.isDeclaration s.scope = true := by simp [Atlas.isDeclaration, hdetails]
      refine .bind hx hs fun sig y howes hxy => .then_pure ?_
      refine changeDetails_gives (hxy.grows.isDeclaration hd) howes fun e m d he hb =>
        Details.takes_indexSignature ?_
      obtain ⟨e₀, m₀, d₀, he₀, hb₀⟩ := Atlas.exists_body_of_isDeclaration hd
      rw [hxy.frame _ (Atlas.get?_lt he₀) hA] at he
      have heq : d = details := by
        simpa [Atlas.details?, he, Entry.details?, hb] using hdetails
      simpa [heq] using hfree

/-- What a declaration has no type of has none after its parts are converted. -/
theorem typeOf_eq_none {y : Draft} (hxy : x.Grown A y) (hlt : id < x.atlas.size) (hA : ¬ A id)
    (hnone : x.atlas.typeOf id = none) : y.atlas.typeOf id = none := by
  rw [Atlas.typeOf, hxy.frame id hlt hA]
  exact hnone

/-- Filling an accessor leaves the atlas tidy if its signature and the inline declarations of its
type are owed to it. -/
theorem fillAccessor_gives {isGetter : Bool} {value : Site → Conv (Option Ty)}
    {signature : Site → Conv EntryId} (hx : x.atlas.Identified)
    (hd : x.atlas.isDeclaration id = true) (h : x.atlas.Tidy P) (hA : ¬ A id)
    (hv : (value (s.within id [])).Runs x A fun ty y =>
      y.atlas.Owes P id (ty.toList.flatMap Ty.literals))
    (hs : (signature (s.within id [])).Runs x A fun sig y => y.atlas.Owes P id [sig]) :
    (fillAccessor s d isGetter value signature id).Gives x fun _ y => y.atlas.Tidy P := by
  obtain ⟨e, m, dd, he, hb⟩ := Atlas.exists_body_of_isDeclaration hd
  have hdetails : e.details? = some dd := by simp [Entry.details?, hb]
  refine .ask_bind ?_
  simp only [he, Option.getD_some, hdetails]
  split
  · split
    · next hnone =>
      refine .bind hx hv fun ty y howes hxy => setType_gives (hxy.grows.isDeclaration hd) howes ?_
      refine typeOf_eq_none hxy (Atlas.get?_lt he) hA ?_
      simpa [Atlas.typeOf, he, Entry.type?, hb] using hnone
    · exact .pure h
  · split
    · exact .report fun y hy => hy ▸ h
    · next hfree =>
      refine .bind hx hs fun sig y howes hxy => ?_
      refine changeDetails_gives (hxy.grows.isDeclaration hd) howes fun e' m' d' he' hb' => ?_
      rw [hxy.frame id (Atlas.get?_lt he) hA, he, Option.some.injEq] at he'
      obtain rfl : dd = d' := by
        rw [← he', hb] at hb'
        exact (Body.declaration.inj hb').2
      rw [Option.not_isSome_iff_eq_none] at hfree
      cases isGetter with
      | true => exact Details.takes_getSignature hfree
      | false => exact Details.takes_setSignature hfree

/-- Filling a variable or a property leaves the atlas tidy if the inline declarations of its type
are owed to it. -/
theorem fillValue_gives {type : Site → Conv (Option Ty)} {value : Option String}
    (hx : x.atlas.Identified) (hd : x.atlas.isDeclaration id = true) (h : x.atlas.Tidy P)
    (hA : ¬ A id)
    (ht : (type (s.within id [])).Runs x A fun ty y =>
      y.atlas.Owes P id (ty.toList.flatMap Ty.literals)) :
    (fillValue s type value id).Gives x fun _ y => y.atlas.Tidy P := by
  have finish : ∀ y : Draft, y.atlas.Tidy P →
      (changeDetails id fun d => { d with defaultValue := d.defaultValue.or value }).Gives y
        fun _ z => z.atlas.Tidy P := by
    intro y hy
    refine changeDetails_gives_tidy hy fun d => ⟨?_, fun h => h, fun h => h⟩
    simp [Details.held]
  obtain ⟨e, m, dd, he, hb⟩ := Atlas.exists_body_of_isDeclaration hd
  refine .ask_bind ?_
  split
  · next hnone =>
    refine .bind hx ht fun ty y howes hxy => .change_bind fun z hz => finish z ?_
    have hstep := setType_gives (hxy.grows.isDeclaration hd) howes
      (typeOf_eq_none hxy (Atlas.get?_lt he) hA
        (by simpa [Atlas.typeOf, Atlas.details?, he, Entry.type?, Entry.details?, hb] using hnone))
    rw [hz]
    exact hstep
  · exact finish x h

/-- Filling an alias leaves the atlas tidy if the inline declarations of its type are owed to it. -/
theorem fillAlias_gives {typeParams : EntryId → Conv (List String)}
    {type : Site → Conv (Option Ty)} (hx : x.atlas.Identified)
    (hd : x.atlas.isDeclaration id = true) (h : x.atlas.Tidy P) (hA : ¬ A id)
    (htp : (typeParams id).Runs x B fun _ y =>
      y.atlas.Tidy P ∧ y.atlas.typeOf id = x.atlas.typeOf id)
    (ht : ∀ bound (y : Draft), x.atlas.Extends y.atlas → y.atlas.Identified → y.atlas.Tidy P →
      (type (s.within id bound)).Runs y A fun ty z =>
        z.atlas.Owes P id (ty.toList.flatMap Ty.literals)) :
    (fillAlias s d typeParams type id).Gives x fun _ y => y.atlas.Tidy P := by
  obtain ⟨e, m, dd, he, hb⟩ := Atlas.exists_body_of_isDeclaration hd
  refine .ask_bind ?_
  split
  · exact .ask_bind (.report fun y hy => hy ▸ h)
  · next hnone =>
    refine .bind hx htp ?_
    rintro bound y ⟨hy, htype⟩ hxy
    refine .bind hxy.identified (ht bound y hxy.grows hxy.identified hy) fun ty z howes hyz => ?_
    refine setType_gives ((hxy.grows.trans hyz.grows).isDeclaration hd) howes ?_
    refine typeOf_eq_none hyz (Nat.lt_of_lt_of_le (Atlas.get?_lt he) hxy.grows.size_le) hA ?_
    rw [htype]
    simpa [Atlas.typeOf, Atlas.details?, he, Entry.type?, Entry.details?, hb] using hnone

end ApiAtlas.Conv
