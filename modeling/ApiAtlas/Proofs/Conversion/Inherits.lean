import ApiAtlas.Proofs.Conversion.Aside
import ApiAtlas.Proofs.Inheritance.Heritage

/-!
# Heritage while a class is converted

What the entry of a class extends are the bases that the declarations of the class write, and its
type parameters are named as they write them (`Atlas.HasHeritage`). Opening one more declaration of
the class keeps it so, and no base of the program is dropped as a repetition of another type, since
the words of the bases are apart.
-/

set_option autoImplicit false

namespace ApiAtlas

open Source

variable {ds : List Decl} {D : String}

/-- Whether a type is what a base is converted to. -/
def Ty.IsBase (t : Ty) (w : TypeExpr) : Prop :=
  ∃ arguments, t = .reference w.shown w.symbol arguments none

namespace Atlas

variable {a b : Atlas} {i : EntryId}

/-- Whether an entry extends what the declarations of a class write, and has their type
parameters. -/
def HasHeritage (a : Atlas) (ds : List Decl) (D : String) (i : EntryId) : Prop :=
  ∃ extended params, a.heritageAt i = some (extended, params) ∧
    (∀ t ∈ extended, ∃ w ∈ classHeritage ds D, t.IsBase w) ∧
    ∀ p ∈ params, ∃ e, a.get? p = some e ∧ e.name ∈ classParams ds D

/-- An entry that has the heritage of a class still does in an extension that leaves the heritage.
-/
theorem HasHeritage.mono (h : a.HasHeritage ds D i) (hab : a.Extends b)
    (heq : b.heritageAt i = a.heritageAt i) : b.HasHeritage ds D i := by
  obtain ⟨extended, params, hi, hext, hparams⟩ := h
  refine ⟨extended, params, heq.trans hi, hext, fun p hp => ?_⟩
  obtain ⟨e, he, hname⟩ := hparams p hp
  obtain ⟨e', he', hkeep⟩ := hab p e he
  exact ⟨e', he', hkeep.name ▸ hname⟩

/-- One more type parameter of the class. -/
theorem HasHeritage.concat (h : a.HasHeritage ds D i) (hab : a.Extends b) {p : EntryId} {e : Entry}
    (heq : b.heritageAt i = (a.heritageAt i).map fun h => (h.1, h.2 ++ [p]))
    (he : b.get? p = some e) (hname : e.name ∈ classParams ds D) : b.HasHeritage ds D i := by
  obtain ⟨extended, params, hi, hext, hparams⟩ := h
  refine ⟨extended, params ++ [p], by rw [heq, hi]; rfl, hext, fun q hq => ?_⟩
  rcases List.mem_append.1 hq with hq | hq
  · obtain ⟨e₀, he₀, hname₀⟩ := hparams q hq
    obtain ⟨e', he', hkeep⟩ := hab q e₀ he₀
    exact ⟨e', he', hkeep.name ▸ hname₀⟩
  · obtain rfl := List.mem_singleton.1 hq
    exact ⟨e, he, hname⟩

/-- An entry keeps the heritage of a class while what does not carry its symbol is converted. -/
theorem HasHeritage.aside {x y : Draft} {inner : List Decl} {heirs : String → Prop}
    (h : x.atlas.HasHeritage ds D i) (hxy : x.Aside inner heirs y)
    (hi : x.atlas.symbolOf i = some D) (hinner : ¬Carry inner D) (hheirs : ¬heirs D) :
    y.atlas.HasHeritage ds D i :=
  h.mono hxy.grows (hxy.spares.heritage i D hi fun hc => hc.elim hinner hheirs)

/-- The type parameters in sight of the parts of an entry are those of the class. -/
theorem HasHeritage.mem_boundBy (h : a.HasHeritage ds D i) {n : String}
    (hn : n ∈ Conv.boundBy a i) : n ∈ classParams ds D := by
  obtain ⟨extended, params, hi, -, hparams⟩ := h
  obtain ⟨e, he, hheritage⟩ := Option.bind_eq_some_iff.1 hi
  obtain ⟨d, hd, heq⟩ := Option.map_eq_some_iff.1 hheritage
  have htypeParameters : e.typeParameters = params := by
    obtain ⟨name, kind, flags, comment, parent, body⟩ := e
    cases body <;> cases hd
    exact congrArg Prod.snd heq
  rw [Conv.boundBy, he, Option.map_some, Option.getD_some, htypeParameters] at hn
  obtain ⟨p, hp, hnamed⟩ := List.mem_filterMap.1 hn
  obtain ⟨e', he', hname⟩ := hparams p hp
  rw [he'] at hnamed
  dsimp only at hnamed
  split at hnamed
  · exact Option.some.inj hnamed ▸ hname
  · cases hnamed

end Atlas

namespace Conv

variable {x : Draft} {s : Site} {d : Decl} {i : EntryId}

/-! ## Type parameters -/

/-- A type parameter that is opened comes last among those of its owner. -/
theorem openTypeParameter_lists {name : String} (hi : i < x.atlas.size) :
    (openTypeParameter i name).Gives x fun id y =>
      y.atlas.heritageAt i = (x.atlas.heritageAt i).map (fun h => (h.1, h.2 ++ [id])) ∧
        ∃ e, y.atlas.get? id = some e ∧ e.name = name := by
  obtain ⟨e, he⟩ := Atlas.exists_get? hi
  have hne : x.atlas.size ≠ i := Nat.ne_of_gt hi
  let p : Entry :=
    { name := name, kind := .typeParameter, parent := some i, body := .typeParameter none none }
  have hadd : (x.atlas.add p).1.get? i = some e := by rw [Atlas.get?_add_of_lt p hi, he]
  have hnew : (x.atlas.add p).1.get? x.atlas.size = some p := Atlas.get?_add_self x.atlas p
  refine ⟨?_, p, ?_, rfl⟩
  · change ((((x.atlas.add p).1.modify i fun e => e.addTypeParameter x.atlas.size).get? i).bind
      (·.heritage)) = ((x.atlas.get? i).bind (·.heritage)).map fun h => (h.1, h.2 ++ [x.atlas.size])
    rw [Atlas.get?_modify_self _ hadd, he, Option.bind_some, Option.bind_some,
      e.heritage_addTypeParameter]
  · change ((x.atlas.add p).1.modify i fun e => e.addTypeParameter x.atlas.size).get?
      x.atlas.size = some p
    rw [Atlas.get?_modify_of_ne _ hne, hnew]

/-- Type parameters that a declaration of a class writes are those of the class. -/
theorem convertTypeParams_inherits {ps : List TypeParam} {bound : List String}
    (hx : x.atlas.Identified) (hi : x.atlas.Declares i (some D) false)
    (h : x.atlas.HasHeritage ds D i) (hbound : ∀ n ∈ bound, n ∈ classParams ds D)
    (hps : ∀ p ∈ ps, p.name ∈ classParams ds D) (hcarry : ¬Carry (declsOfTypeParams ps) D) :
    (convertTypeParams s i bound ps).Gives x fun bound y =>
      y.atlas.HasHeritage ds D i ∧ ∀ n ∈ bound, n ∈ classParams ds D := by
  induction ps generalizing x bound with
  | nil =>
    rw [convertTypeParams]
    exact ⟨h, hbound⟩
  | cons p ps ih =>
    obtain ⟨name, constraint, default⟩ := p
    obtain ⟨hname, hps⟩ := List.forall_mem_cons.1 hps
    have hsub : ∀ {es : List Decl},
        es ⊆ declsOfTypeParams (⟨name, constraint, default⟩ :: ps) → ¬Carry es D :=
      fun hes hcarried => hcarry (hcarried.imp fun _ hc => ⟨hes hc.1, hc.2⟩)
    rw [declsOfTypeParams] at hsub
    have hopen : (openTypeParameter i name).Runs x (fun _ => True) _ :=
      openTypeParameter_runs hx hi.hosts.noAccessor trivial trivial
    rw [convertTypeParams]
    refine .bind hx (hopen.and (openTypeParameter_lists hi.lt)) ?_
    rintro p y ⟨⟨hnew, hpar⟩, hheritage, e, he, hen⟩ hxy
    refine .bind hxy.identified (convertType?_aside (s.within p (name :: bound)) constraint
      hxy.identified hpar.lt) ?_
    rintro limit z ⟨hlimit, hyz⟩ -
    have hparz := hyz.grows.isTypeParameter hpar
    refine .bind hyz.identified (convertType?_aside (s.within p (name :: bound)) default
      hyz.identified hparz.lt) ?_
    rintro standard v ⟨hstandard, hzv⟩ -
    have hparv := hzv.grows.isTypeParameter hparz
    have hiy := hxy.grows.declares hi
    have hiv := hzv.grows.declares (hyz.grows.declares hiy)
    -- The name joins those of the class; the constraint and the default are converted beside it.
    have hv : v.atlas.HasHeritage ds D i :=
      ((h.concat hxy.grows hheritage he (hen ▸ hname)).aside hyz hiy.symbolOf
        (hsub (by simp)) id).aside hzv (hyz.grows.declares hiy).symbolOf (hsub (by simp)) id
    refine .bind hzv.identified (fillTypeParameter_runs (A := fun j => j = p) hparv hlimit
      hstandard rfl) fun _ w _ hvw => ?_
    have hw : w.atlas.heritageAt i = v.atlas.heritageAt i := by
      rw [Atlas.heritageAt, hvw.frame i hiv.lt (hnew ▸ Nat.ne_of_lt hi.lt), Atlas.heritageAt]
    exact ih hvw.identified (hvw.grows.declares hiv) (hv.mono hvw.grows hw)
      (List.forall_mem_cons.2 ⟨hname, hbound⟩) hps (hsub (by simp))

/-- Binding type parameters runs, and leaves aside all but what is written on them. -/
theorem knownOrNew_aside {heirs : String → Prop} (s : Site) (ps : List TypeParam)
    (hx : x.atlas.Identified) (hi : x.atlas.Hosts i) (hroot : i ≠ Atlas.root)
    (hown : ∀ t, x.atlas.symbolOf i = some t → heirs t) :
    (knownOrNew (fun id => convertTypeParams s id [] ps) i).Runs x
      (x.atlas.Reach [i] (declsOfTypeParams ps))
      fun _ y => x.Aside (declsOfTypeParams ps) heirs y := by
  refine .ask_bind ?_
  split
  · exact (convertTypeParams_aside s [] ps hx hi hroot hown).weaken fun _ _ h => h.2
  · exact .ask (.refl hx)

/-- Binding the type parameters of a class keeps its heritage as its declarations write it, and only
binds names that the class has. -/
theorem knownOrNew_inherits {ps : List TypeParam} (hx : x.atlas.Identified)
    (hi : x.atlas.Declares i (some D) false) (h : x.atlas.HasHeritage ds D i)
    (hps : ∀ p ∈ ps, p.name ∈ classParams ds D) (hcarry : ¬Carry (declsOfTypeParams ps) D) :
    (knownOrNew (fun id => convertTypeParams s id [] ps) i).Gives x fun bound y =>
      y.atlas.HasHeritage ds D i ∧ ∀ n ∈ bound, n ∈ classParams ds D := by
  refine .ask_bind ?_
  split
  · exact convertTypeParams_inherits hx hi h nofun hps hcarry
  · exact ⟨h, fun n hn => h.mem_boundBy hn⟩

/-! ## Bases -/

/-- References that no type parameter hides are converted to references, one by one. -/
theorem convertTypes_bases {ts : List TypeExpr} (href : ∀ t ∈ ts, t.form = .reference)
    (hbound : ∀ t ∈ ts, t.shown ∉ s.bound) :
    (convertTypes s ts).Gives x fun bases _ => List.Forall₂ Ty.IsBase bases ts := by
  induction ts generalizing x with
  | nil => exact .nil
  | cons t ts ih =>
    obtain ⟨ht, hts⟩ := List.forall_mem_cons.1 href
    obtain ⟨hshown, hbounds⟩ := List.forall_mem_cons.1 hbound
    rw [convertTypes]
    refine .cons ?_ (ih hts hbounds)
    obtain ⟨form, name, symbol, arguments, members, signature, text⟩ := t
    obtain rfl : form = .reference := ht
    have hhidden : s.bound.contains (nameOrText name text) = false := by
      simpa [TypeExpr.shown] using hshown
    refine ⟨((convertTypes s arguments).run x).1, ?_⟩
    rw [convertType, hhidden]
    rfl

/-- The key of a base is its word, with the type arguments behind it. -/
theorem heritageKey_of_isBase {t : Ty} {w : TypeExpr} (h : t.IsBase w) :
    ∃ rest, heritageKey t = w.heritageWord ++ rest ∧ ∀ c ∈ rest.toList.head?, c = '<' := by
  obtain ⟨arguments, rfl⟩ := h
  -- What is shown is the name with the arguments behind it.
  obtain ⟨rest, hrest, hhead⟩ : ∃ rest, (Ty.reference w.shown w.symbol arguments none).text =
      w.shown ++ rest ∧ ∀ c ∈ rest.toList.head?, c = '<' := by
    cases arguments with
    | nil => exact ⟨"", by simp [Ty.text], by simp⟩
    | cons a as =>
      refine ⟨"<" ++ a.text ++ Ty.textAfter ", " as ++ ">", ?_, ?_⟩
      · simp [Ty.text, String.append_assoc]
      · simp
  refine ⟨rest, ?_, hhead⟩
  unfold heritageKey TypeExpr.heritageWord
  dsimp only
  rw [hrest]
  cases w.symbol with
  | none => rfl
  | some s =>
    unfold nameOrText
    dsimp only
    split
    · rfl
    · rw [String.toList_append, List.drop_left' String.length_toList, String.ofList_toList]

/-- Words that are apart have different keys. -/
theorem heritageKey_ne {t u : Ty} {v w : TypeExpr} (ht : t.IsBase v) (hu : u.IsBase w)
    (h : WordsApart v.heritageWord w.heritageWord) : heritageKey t ≠ heritageKey u := by
  obtain ⟨rest, hrest, hhead⟩ := heritageKey_of_isBase ht
  obtain ⟨rest', hrest', hhead'⟩ := heritageKey_of_isBase hu
  obtain ⟨hne, hleft, hright⟩ := h
  -- Of two words with the same text, one begins the other, and goes on with its arguments.
  have key : ∀ {v w r r' : List Char}, w = v ++ r → (∀ c ∈ (r ++ r').head?, c = '<') → v ≠ w →
      v ++ ['<'] <+: w := by
    rintro v _ r r' rfl hlt hne
    cases r with
    | nil => exact absurd (List.append_nil v).symm hne
    | cons c r =>
      obtain rfl : c = '<' := hlt c rfl
      exact ⟨r, by simp⟩
  intro heq
  rw [hrest, hrest'] at heq
  have hlists : v.heritageWord.toList ++ rest.toList = w.heritageWord.toList ++ rest'.toList := by
    rw [← String.toList_append, heq, String.toList_append]
  have hwords : v.heritageWord.toList ≠ w.heritageWord.toList :=
    fun hwords => hne (String.toList_injective hwords)
  rcases List.append_eq_append_iff.1 hlists with ⟨r, hr, hr'⟩ | ⟨r, hr, hr'⟩
  · exact hleft (key hr (hr' ▸ hhead) hwords)
  · exact hright (key hr (hr' ▸ hhead') hwords.symm)

/-- A type of some sort is not lost by dropping repetitions, if whatever has its key is of that
sort. -/
theorem exists_mem_extendHeritage {P : Ty → Prop} {types more : List Ty} {t : Ty} (ht : t ∈ more)
    (hP : P t) (hkey : ∀ u ∈ types ++ more, heritageKey u = heritageKey t → P u) :
    ∃ u ∈ extendHeritage types more, P u := by
  induction more generalizing types with
  | nil => cases ht
  | cons v more ih =>
    have hkeep : extendHeritage types (v :: more) = extendHeritage (addHeritage types v) more := rfl
    have hadd : addHeritage types v = types ∨ addHeritage types v = types ++ [v] := by
      unfold addHeritage
      split
      · exact .inl rfl
      · exact .inr rfl
    rw [hkeep]
    rcases List.mem_cons.1 ht with rfl | ht
    · obtain ⟨kept, heq, -, -⟩ := extendHeritage_eq (addHeritage types t) more
      have hmem : ∃ u ∈ addHeritage types t, P u := by
        unfold addHeritage
        split
        · next hrepeated =>
          rw [Bool.and_eq_true, List.contains_iff_mem] at hrepeated
          obtain ⟨u, hu, hut⟩ := List.mem_map.1 hrepeated.1
          exact ⟨u, hu, hkey u (List.mem_append_left _ hu) hut⟩
        · exact ⟨t, List.mem_append_right _ (List.mem_singleton_self t), hP⟩
      obtain ⟨u, hu, hPu⟩ := hmem
      exact ⟨u, heq ▸ List.mem_append_left _ hu, hPu⟩
    · refine ih ht fun u hu => hkey u ?_
      rcases List.mem_append.1 hu with hu | hu
      · rcases hadd with hadd | hadd <;> rw [hadd] at hu
        · exact List.mem_append_left _ hu
        · simpa [or_assoc] using List.mem_append_left more hu
      · exact List.mem_append_right _ (List.mem_cons_of_mem _ hu)

/-! ## Opening a class -/

/-- A change of details changes the heritage of the entry as it changes the bases. -/
theorem heritageAt_changeDetails {f : Details → Details} {g : List Ty → List Ty}
    (hf : ∀ d, (f d).extended = g d.extended ∧ (f d).typeParameters = d.typeParameters) :
    (changeDetails i f).Gives x fun _ y =>
      y.atlas.heritageAt i = (x.atlas.heritageAt i).map fun h => (g h.1, h.2) := by
  change (x.atlas.modify i fun e => e.mapDetails f).heritageAt i = _
  rw [Atlas.heritageAt, Atlas.heritageAt]
  cases he : x.atlas.get? i with
  | none =>
    rw [Atlas.get?_modify, if_pos rfl, he]
    rfl
  | some e =>
    rw [Atlas.get?_modify_self _ he, Option.bind_some, Option.bind_some, Entry.heritage,
      Entry.details?_mapDetails, Option.map_map, Entry.heritage, Option.map_map]
    refine Option.map_congr fun d _ => ?_
    obtain ⟨hextended, hparams⟩ := hf d
    rw [Function.comp_apply, hextended, hparams]
    rfl

end Conv

/-- Whether an entry extends what has a symbol. -/
def Atlas.HasBase (a : Atlas) (i : EntryId) (symbol : Option String) : Prop :=
  ∃ d, a.details? i = some d ∧ ∃ name arguments,
    Ty.reference name symbol arguments none ∈ d.extended

/-- An entry that extends what has a symbol still does when the details grow. -/
theorem Atlas.HasBase.mono {a b : Atlas} {i : EntryId} {symbol : Option String}
    (h : a.HasBase i symbol) (hab : a.DetailsGrow b) : b.HasBase i symbol := by
  obtain ⟨d, hd, name, arguments, hmem⟩ := h
  obtain ⟨d', hd', hgrows⟩ := hab i d hd
  exact ⟨d', hd', name, arguments, hgrows.extended.subset hmem⟩

namespace Conv

variable {x : Draft} {s : Site} {d : Decl} {i : EntryId}

/-- Once the bases that a declaration of a class writes are among what the class extends, each base
of the program is. -/
theorem extend_inherits {bases : List Ty} (hplain : PlainHeritage ds) (hD : D ∈ classSymbols ds)
    (hd : d ∈ classDecls ds D) (hbases : List.Forall₂ Ty.IsBase bases d.bases)
    (h : x.atlas.HasHeritage ds D i) :
    (changeDetails i fun e => { e with extended := extendHeritage e.extended bases }).Gives x
      fun _ y => (x.atlas.Extends y.atlas → y.atlas.HasHeritage ds D i) ∧
        ∀ t ∈ d.bases, t.symbol ∈ (classSymbols ds).map some → y.atlas.HasBase i t.symbol := by
  have hheritage := heritageAt_changeDetails (x := x) (i := i)
    (f := fun e => { e with extended := extendHeritage e.extended bases })
    (g := fun ts => extendHeritage ts bases) fun _ => ⟨rfl, rfl⟩
  obtain ⟨extended, params, hi, hext, hparams⟩ := h
  unfold Conv.Gives at hheritage ⊢
  rw [hi] at hheritage
  have hwritten : ∀ t ∈ bases, ∃ w ∈ classHeritage ds D, t.IsBase w := by
    intro t ht
    obtain ⟨n, hn, rfl⟩ := List.mem_iff_getElem.1 ht
    have hlt := hbases.length_eq ▸ hn
    exact ⟨_, List.mem_flatMap.2 ⟨d, hd, List.getElem_mem hlt⟩, hbases.get hn hlt⟩
  have hall : ∀ t ∈ extended ++ bases, ∃ w ∈ classHeritage ds D, t.IsBase w := fun t ht =>
    (List.mem_append.1 ht).elim (hext t) (hwritten t)
  refine ⟨fun hgrows => ⟨_, params, hheritage, fun t ht => hall t ?_, fun p hp => ?_⟩,
    fun t ht hsymbol => ?_⟩
  · obtain ⟨kept, heq, hsub, -⟩ := extendHeritage_eq extended bases
    rw [heq] at ht
    exact (List.mem_append.1 ht).elim (List.mem_append_left _)
      fun ht => List.mem_append_right _ (hsub.subset ht)
  · obtain ⟨e, he, hname⟩ := hparams p hp
    obtain ⟨e', he', hkeep⟩ := hgrows p e he
    exact ⟨e', he', hkeep.name ▸ hname⟩
  · obtain ⟨n, hn, rfl⟩ := List.mem_iff_getElem.1 ht
    have hlt := hbases.length_eq.symm ▸ hn
    have hbase := hbases.get hlt hn
    obtain ⟨arguments, hbaseEq⟩ := id hbase
    -- Of what has the key of the base one is kept, and by the plainness of the heritage it is one
    -- with the symbol of the base.
    have hkept : ∃ u ∈ extendHeritage extended bases, ∃ name arguments,
        u = .reference name d.bases[n].symbol arguments none := by
      refine exists_mem_extendHeritage (List.getElem_mem hlt) ⟨_, arguments, hbaseEq⟩
        fun u hu hkey => ?_
      obtain ⟨w, hw, huw⟩ := hall u hu
      by_cases hsame : w.symbol = d.bases[n].symbol
      · obtain ⟨arguments', rfl⟩ := huw
        exact ⟨_, arguments', by rw [hsame]⟩
      · have hmem := List.mem_flatMap.2 ⟨d, hd, ht⟩
        exact absurd hkey
          (heritageKey_ne huw hbase (hplain.apart D hD _ hmem hsymbol w hw hsame))
    obtain ⟨u, hu, name, arguments', rfl⟩ := hkept
    obtain ⟨e, he, heq⟩ :=
      Option.map_eq_some_iff.1 ((Atlas.heritageAt_eq _ i).symm.trans hheritage)
    have hextended : e.extended = extendHeritage extended bases := congrArg Prod.fst heq
    exact ⟨e, he, name, arguments', hextended ▸ hu⟩

/-- Opening a class leaves all others aside. It gives the class the heritage that its declaration
writes, unless type parameters of something around it are in sight. -/
theorem openClass_gives (hplain : PlainHeritage ds) (hd : d ∈ standing ds)
    (hcarry : ∀ t, d.Carries t → ¬Carry d.written t) (hx : x.atlas.Identified)
    (hi : x.atlas.Declares i d.symbol false) :
    (openClass s d i).Gives x fun inner y =>
      inner.scope = i ∧ inner.settings = s.settings ∧ x.Aside d.written d.Carries y ∧
        (s.bound = [] → ∀ D, d.classSymbol? = some D → x.atlas.HasHeritage ds D i →
          y.atlas.HasHeritage ds D i ∧
            ∀ t ∈ d.bases, t.symbol ∈ (classSymbols ds).map some → y.atlas.HasBase i t.symbol) := by
  have hroot := hx.ne_root hi.isDeclaration
  have hown : ∀ {y : Draft}, x.atlas.Extends y.atlas → ∀ t, y.atlas.symbolOf i = some t →
      d.Carries t := fun hxy t ht => (hxy.declares hi).symbolOf.symm.trans ht
  have hclass : ∀ {D}, d.classSymbol? = some D →
      d.Carries D ∧ d ∈ classDecls ds D ∧ D ∈ classSymbols ds := fun {D} hD =>
    ⟨Decl.carries_of_classSymbol? hD, List.mem_filter.2 ⟨hd, by rw [hD, beq_self_eq_true]⟩,
      mem_classSymbols.2 ⟨d, hd, hD⟩⟩
  have hinner : ∀ {es : List Decl} {D}, es ⊆ d.written → d.Carries D → ¬Carry es D :=
    fun hes hD ⟨c, hc, hs⟩ => hcarry _ hD ⟨c, hes hc, hs⟩
  -- The type parameters come first: they leave the heritage, and bind names of the class only.
  unfold openClass
  refine .bind hx ((knownOrNew_aside s d.typeParameters hx hi.hosts hroot (hown (.refl _))).and
    (R := fun bound y => ∀ D, d.classSymbol? = some D → x.atlas.HasHeritage ds D i →
      y.atlas.HasHeritage ds D i ∧ ∀ n ∈ bound, n ∈ classParams ds D) fun D hD h => ?_)
    fun bound y ⟨hxy, hparams⟩ _ => ?_
  · obtain ⟨hcarries, hdecl, -⟩ := hclass hD
    refine knownOrNew_inherits hx (hcarries ▸ hi) h (fun p hp => ?_)
      (hinner d.typeParameters_subset_written hcarries)
    exact List.mem_flatMap.2 ⟨d, hdecl, List.mem_map_of_mem hp⟩
  -- So no base is taken for a type parameter, and each is read as the reference that it is.
  have hiy := hxy.grows.declares hi
  refine .bind hxy.identified ((convertTypes_aside (s.within i bound) d.bases hxy.identified
    hiy.lt).and (R := fun bases _ => s.bound = [] → ∀ D, d.classSymbol? = some D →
      x.atlas.HasHeritage ds D i → List.Forall₂ Ty.IsBase bases d.bases) fun hbound D hD h => ?_)
    fun bases z ⟨⟨hopen, hyz⟩, hbases⟩ _ => ?_
  · obtain ⟨-, hdecl, hsymbol⟩ := hclass hD
    have hheritage : ∀ t ∈ d.bases, t ∈ classHeritage ds D :=
      fun t ht => List.mem_flatMap.2 ⟨d, hdecl, ht⟩
    refine convertTypes_bases (fun t ht => hplain.references D hsymbol t (hheritage t ht))
      fun t ht hmem => ?_
    have hmem : t.shown ∈ bound ++ s.bound := hmem
    rw [hbound, List.append_nil] at hmem
    exact hplain.unbound D hsymbol t (hheritage t ht) ((hparams D hD h).2 _ hmem)
  -- The bases are added to what the entry extends, and none of them is lost there.
  have hiz := hyz.grows.declares hiy
  have hxz := hxy.grows.trans hyz.grows
  refine .bind hyz.identified ((changeDetails_aside d.Carries (extended_runs
    (A := fun _ => True) hiz.hosts.noAccessor hopen trivial) hyz.identified hroot (fun _ => rfl)
    (.inr (hown hxz))).and (R := fun _ v => s.bound = [] → ∀ D, d.classSymbol? = some D →
      x.atlas.HasHeritage ds D i → (z.atlas.Extends v.atlas → v.atlas.HasHeritage ds D i) ∧
        ∀ t ∈ d.bases, t.symbol ∈ (classSymbols ds).map some → v.atlas.HasBase i t.symbol)
    fun hbound D hD h => ?_) fun _ v ⟨⟨_, hzv⟩, hextended⟩ _ => ?_
  · obtain ⟨hcarries, hdecl, hsymbol⟩ := hclass hD
    exact extend_inherits hplain hsymbol hdecl (hbases hbound D hD h)
      ((hparams D hD h).1.aside hyz (hiy.symbolOf.trans hcarries)
        (hinner d.bases_subset_written hcarries) not_false)
  -- What the class implements is not heritage, and leaves it.
  have hiv := hzv.grows.declares hiz
  refine .bind hzv.identified (convertTypes_aside (s.within i bound) d.interfaces hzv.identified
    hiv.lt) fun interfaces w ⟨hopen', hvw⟩ _ => ?_
  have hiw := hvw.grows.declares hiv
  refine .bind hvw.identified (changeDetails_aside (fun _ => False) (implemented_runs
    (A := fun _ => True) hiw.hosts.noAccessor hopen' trivial) hvw.identified hroot (fun _ => rfl)
    (.inl fun _ => ⟨rfl, rfl⟩)) fun _ u ⟨_, hwu⟩ _ => .pure ⟨rfl, rfl, ?_, fun hbound D hD h => ?_⟩
  · have hnone : ∀ s, False → d.Carries s := fun _ => False.elim
    exact ((((hxy.mono d.typeParameters_subset_written fun _ => id).trans
      (hyz.mono d.bases_subset_written hnone)).trans
      (hzv.mono (List.nil_subset _) fun _ => id)).trans
      (hvw.mono d.interfaces_subset_written hnone)).trans (hwu.mono (List.nil_subset _) hnone)
  · obtain ⟨hcarries, -, -⟩ := hclass hD
    obtain ⟨hinherits, hhas⟩ := hextended hbound D hD h
    refine ⟨?_, fun t ht hsymbol => ?_⟩
    · exact ((hinherits hzv.grows).aside hvw (hiv.symbolOf.trans hcarries)
        (hinner d.interfaces_subset_written hcarries) not_false).aside hwu
          (hiw.symbolOf.trans hcarries) (not_carry_nil D) not_false
    · exact (hhas t ht hsymbol).mono (hvw.details.trans hwu.details)

end Conv

end ApiAtlas
