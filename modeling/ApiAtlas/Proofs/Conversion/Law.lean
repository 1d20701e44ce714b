import ApiAtlas.Conversion.Fill
import ApiAtlas.Proofs.Conversion.Amendment
import ApiAtlas.Proofs.Conversion.Filled

/-!
# Laws of conversion

A law is a property of atlases that every amendment keeps, together with what it asks of the
declarations that are converted: which of them fit into which scopes, and which may be members of
inline objects. A step of conversion `Upholds` a law when it leads from a draft that obeys the law
to one that still does. The rules lead through a step part by part; in between nothing that was
registered is registered for another entry.

Declaring, opening and filling entries are sequences of amendments. What a step finds empty is
remembered with the atlas in which it was found; the parts that are converted in between may do
what they like, as long as they uphold the law.
-/

set_option autoImplicit false

/-! ## Upholding a law -/

namespace ApiAtlas

open Source (Decl)

/-- The kinds of declarations whose children are converted. -/
def Source.DeclKind.containers : List Source.DeclKind :=
  [.module, .namespace, .enum, .class, .interface]

/-- A property of atlases that every amendment keeps, if declarations fit into the scopes that they
are converted in. -/
structure Law where
  Holds : Atlas → Prop
  Fits : Atlas → EntryId → Decl → Prop
  Inside : Decl → Prop
  amend : ∀ {a seen b}, Holds seen → Holds a → a.Amendment Fits seen b → Holds b
  grow : ∀ {a b scope d}, (∀ symbol i, a.lookup symbol = some i → b.lookup symbol = some i) →
    Fits a scope d → Fits b scope d
  inside : ∀ {a scope d}, Inside d → Fits a scope d
  child : ∀ {a scope d id}, Fits a scope d → d.kind ∈ Source.DeclKind.containers →
    a.lookup d.symbol = some id → ∀ c ∈ d.children, Fits a id c

namespace Law

variable {L : Law} {x y z : Draft}

/-- Whether the atlas of a draft obeys a law, and has all children that it lists. -/
structure Obeyed (L : Law) (x : Draft) : Prop where
  holds : L.Holds x.atlas
  children : x.atlas.ChildrenThere

/-- The second draft still obeys a law, and has what was registered in the first one. -/
structure Kept (L : Law) (x y : Draft) : Prop where
  obeyed : L.Obeyed y
  size_le : x.atlas.size ≤ y.atlas.size
  lookup : ∀ symbol i, x.atlas.lookup symbol = some i → y.atlas.lookup symbol = some i

/-- A draft that obeys a law keeps it when nothing is done. -/
theorem Kept.refl (h : L.Obeyed x) : L.Kept x x :=
  ⟨h, Nat.le_refl _, fun _ _ hi => hi⟩

/-- A law that is kept in two steps is kept in both together. -/
theorem Kept.trans (h : L.Kept x y) (h' : L.Kept y z) : L.Kept x z :=
  ⟨h'.obeyed, Nat.le_trans h.size_le h'.size_le,
    fun symbol i hi => h'.lookup symbol i (h.lookup symbol i hi)⟩

/-- A law is obeyed after an amendment that remembers an atlas in which it held. -/
theorem Obeyed.amend {seen : Atlas} (hx : L.Obeyed x) (hseen : L.Holds seen)
    (h : x.atlas.Amendment L.Fits seen y.atlas) : L.Kept x y :=
  ⟨⟨L.amend hseen hx.holds h, h.childrenThere hx.children⟩, h.size_le, fun _ _ => h.lookup_eq⟩

end Law

/-- A step keeps a law and ends in a result and a draft as required. -/
def Conv.Upholds {α : Type} (c : Conv α) (L : Law) (x : Draft) (Q : α → Draft → Prop) : Prop :=
  L.Kept x (c.run x).2 ∧ Q (c.run x).1 (c.run x).2

namespace Conv.Upholds

variable {α β : Type} {L : Law} {c : Conv α} {x : Draft} {Q R : α → Draft → Prop}

/-- A step that upholds a law still does with less required of what it yields. -/
theorem mono (h : c.Upholds L x Q) (hQR : ∀ r y, Q r y → R r y) : c.Upholds L x R :=
  ⟨h.1, hQR _ _ h.2⟩

/-- A step that is only known to keep the law. -/
theorem weaken (h : c.Upholds L x Q) : c.Upholds L x fun _ _ => True :=
  h.mono fun _ _ _ => trivial

/-- Yielding a value upholds a law. -/
theorem pure (hx : L.Obeyed x) {r : α} (h : Q r x) : (pure r : Conv α).Upholds L x Q :=
  ⟨.refl hx, h⟩

/-- A question upholds a law. -/
theorem ask (hx : L.Obeyed x) {f : Atlas → α} (h : Q (f x.atlas) x) :
    (Conv.ask f).Upholds L x Q :=
  ⟨.refl hx, h⟩

/-- A step that is noted as a visit upholds the laws that it upholds otherwise. -/
theorem visiting {c : Conv (Option EntryId)} {Q : Option EntryId → Draft → Prop} {s : Site}
    {d : Decl} {name : String} (h : c.Upholds L x Q) : (Conv.visiting s d name c).Upholds L x Q :=
  ⟨h.1, h.2⟩

/-- A question upholds a law when the steps after it do for the answer. -/
theorem ask_bind {f : Atlas → α} {k : α → Conv β} {R : β → Draft → Prop}
    (hk : (k (f x.atlas)).Upholds L x R) : (Conv.ask f >>= k).Upholds L x R :=
  hk

/-- Two steps in turn uphold a law when each of them does. -/
theorem bind {k : α → Conv β} {R : β → Draft → Prop} (h : c.Upholds L x Q)
    (hk : ∀ r y, Q r y → L.Kept x y → (k r).Upholds L y R) : (c >>= k).Upholds L x R := by
  have hk := hk _ _ h.2 h.1
  exact ⟨h.1.trans hk.1, hk.2⟩

/-- A report upholds a law. -/
theorem report (hx : L.Obeyed x) {s : Site} {code : Code} {message : String}
    {details : List (String × Json)} {R : Unit → Draft → Prop}
    (hR : ∀ y, y.atlas = x.atlas → R () y) :
    (Conv.report s code message details).Upholds L x R :=
  ⟨⟨⟨hx.holds, hx.children⟩, Nat.le_refl _, fun _ _ hi => hi⟩, hR _ rfl⟩

/-- One amendment. -/
theorem update {seen : Atlas} (hx : L.Obeyed x) (hseen : L.Holds seen) {f : Draft → α × Draft}
    (ha : x.atlas.Amendment L.Fits seen (f x).2.atlas) (h : Q (f x).1 (f x).2) :
    (Conv.update f).Upholds L x Q :=
  ⟨hx.amend hseen ha, h⟩

/-- A change of an entry upholds a law if it is an amendment. -/
theorem changeEntry {seen : Atlas} (hx : L.Obeyed x) (hseen : L.Holds seen) {i : EntryId}
    {f : Entry → Entry}
    (hf : ∀ e, x.atlas.get? i = some e → e.Amendment seen i (f e)) :
    (Conv.changeEntry i f).Upholds L x fun _ _ => True :=
  update hx hseen (.change i f hf) trivial

/-- A change of details upholds a law if it is an amendment. -/
theorem changeDetails {seen : Atlas} (hx : L.Obeyed x) (hseen : L.Holds seen) {i : EntryId}
    {f : Details → Details} (hf : ∀ d : Details, d.Amendment seen i (f d)) :
    (Conv.changeDetails i f).Upholds L x fun _ _ => True := by
  refine changeEntry hx hseen fun e _ => ?_
  unfold Entry.mapDetails
  split
  · next m d hb => exact .details m d (f d) hb (hf d)
  · exact .same

/-- A change of a signature upholds a law if it is an amendment. -/
theorem changeShape {seen : Atlas} (hx : L.Obeyed x) (hseen : L.Holds seen) {i : EntryId}
    {f : Shape → Shape}
    (hf : ∀ (e : Entry) s, e.body = .signature s →
      e.Amendment seen i { e with body := .signature (f s) }) :
    (Conv.changeEntry i fun e => e.mapShape f).Upholds L x fun _ _ => True := by
  refine changeEntry hx hseen fun e _ => ?_
  unfold Entry.mapShape
  split
  · next s hb => exact hf e s hb
  · exact .same

/-- An entry that is no declared one is added. -/
theorem addEntry (hx : L.Obeyed x) {e : Entry}
    (hb : e.body.IsPart ∨ e.body = .declaration {} {} ∧ e.kind = .typeLiteral)
    (hk : e.kind ∈ Kind.partKinds) :
    (Conv.addEntry e).Upholds L x fun id _ => id = x.atlas.size :=
  update hx hx.holds (.add e hb hk) rfl

end Conv.Upholds

end ApiAtlas

/-! ## Steps that uphold a law -/

namespace ApiAtlas.Conv

open Source (Decl)

variable {L : Law} {x : Draft} {s : Site} {d : Decl} {id : EntryId}

/-! ## Declaring -/

/-- Noting where a declaration is written upholds a law. -/
theorem noteSource_upholds (hx : L.Obeyed x) :
    (noteSource s id d).Upholds L x fun _ _ => True := by
  unfold noteSource
  dsimp only
  split
  · split
    · exact .pure hx trivial
    · refine .changeDetails hx hx.holds fun details => ?_
      split
      · exact .same
      · exact .source _
  · exact .pure hx trivial

/-- Merging a declaration into its entry upholds a law. -/
theorem mergeInto_upholds {flags : Flags} (hx : L.Obeyed x) :
    (mergeInto s id d flags).Upholds L x fun _ _ => True :=
  .bind (.changeEntry hx hx.holds fun _ _ => .merge flags d.comment) fun _ _ _ hxy =>
    noteSource_upholds hxy.obeyed

/-- The kind that two kinds merge into is one that the declaration may have. -/
theorem becomes_of_commonKind? {kind kind' common : Kind} (hk : d.Becomes kind)
    (h : commonKind? kind' kind = some common) : d.Becomes common := by
  unfold commonKind? at h
  split at h
  · next hkinds =>
    obtain rfl := Option.some.inj h
    refine ⟨by decide, by decide, fun _ => hk.heritage ?_⟩
    rcases hkinds with ⟨-, rfl⟩ | ⟨-, rfl⟩ <;> decide
  · split at h
    · obtain rfl := Option.some.inj h
      exact ⟨by decide, by decide, fun hin => absurd hin (by decide)⟩
    · split at h
      · obtain rfl := Option.some.inj h
        exact ⟨by decide, by decide, fun hin => absurd hin (by decide)⟩
      · cases h

/-- Merging yields the entry that is merged into, or none. -/
theorem merge_upholds {kind : Kind} {flags : Flags} {scope : EntryId} (hx : L.Obeyed x)
    (hid : x.atlas.lookup d.symbol = some id) (hfits : L.Fits x.atlas scope d)
    (hk : d.Becomes kind) :
    (merge s id d kind flags).Upholds L x fun r _ => ∀ i ∈ r, i = id := by
  have finish : ∀ {y : Draft}, L.Obeyed y →
      (do mergeInto s id d flags; return some id : Conv (Option EntryId)).Upholds L y
        fun r _ => ∀ i ∈ r, i = id := fun hy =>
    .bind (mergeInto_upholds hy) fun _ _ _ hyz => .pure hyz.obeyed fun i hi =>
      (Option.mem_some.1 hi).symm
  unfold merge
  refine .ask_bind ?_
  dsimp only
  split
  · exact .bind (.report hx (R := fun _ _ => True) fun _ _ => trivial) fun _ _ _ hxy =>
      .pure hxy.obeyed nofun
  next hdecl =>
  have hdecl : x.atlas.isDeclaration id = true := by
    rwa [Bool.not_eq_true, Bool.not_eq_false', Atlas.isDeclaration_getD] at hdecl
  -- Both ways of giving the entry another kind go on in the same way.
  have recast : ∀ {y : Draft} {common : Kind}, L.Obeyed y → y.atlas = x.atlas →
      d.Becomes common →
      (do
        changeEntry id fun e => { e with kind := common }
        mergeInto s id d flags
        return some id : Conv (Option EntryId)).Upholds L y fun r _ => ∀ i ∈ r, i = id := by
    intro y common hy hyx hcommon
    have ha : y.atlas.Amendment L.Fits y.atlas
        (y.atlas.modify id fun e => { e with kind := common }) := by
      rw [hyx]
      exact .recast id scope d common hid hdecl hfits hcommon
    exact .bind (Q := fun _ _ => True) (.update hy hy.holds ha trivial) fun _ _ _ hyz =>
      finish hyz.obeyed
  split
  · split
    · next common hcommon => exact recast hx rfl (becomes_of_commonKind? hk hcommon)
    · split
      · exact .bind (.report hx (R := fun _ _ => True) fun _ _ => trivial) fun _ _ _ hxy =>
      .pure hxy.obeyed nofun
      · exact .bind (.report hx fun _ h => h) fun _ _ hyx hxy => recast hxy.obeyed hyx hk
  · exact finish hx

/-- What is created is registered for the symbol of the declaration. -/
theorem create_upholds {kind : Kind} {flags : Flags} {name symbol : String} (hx : L.Obeyed x)
    (hsym : d.symbol = some symbol) (hfree : x.atlas.lookup d.symbol = none)
    (hscope : s.scope < x.atlas.size) (hfits : L.Fits x.atlas s.scope d) (hname : name ≠ "")
    (hk : d.Becomes kind) :
    (create s d name kind flags).Upholds L x fun id y => y.atlas.lookup d.symbol = some id := by
  have hnew : x.atlas.size ∉ x.atlas.childrenOf s.scope := fun hmem =>
    Nat.lt_irrefl _ (hx.children _ _ hmem)
  refine .bind (Q := fun id y => y.atlas.lookup d.symbol = some id)
    (.update hx hx.holds (.enter s.scope _ d symbol hsym hfree hfits hscope hnew rfl hname hk) ?_)
    fun id y hid hxy => ?_
  · rw [hsym]
    exact Atlas.lookup_eq_some_iff.2 ⟨symbol, rfl, by
      rw [Atlas.symbols_enter]
      exact Table.get?_put_self ..⟩
  · refine .bind (noteSource_upholds hxy.obeyed) fun _ z _ hyz => .pure hyz.obeyed ?_
    exact hyz.lookup _ _ hid

/-- What declaring yields is registered for the symbol of the declaration. -/
theorem declare_upholds {kind : Kind} {name : Option String} (hx : L.Obeyed x)
    (hfits : L.Fits x.atlas s.scope d) (hk : d.Becomes kind) :
    (declare s d kind name).Upholds L x fun r y =>
      ∀ id ∈ r, y.atlas.lookup d.symbol = some id := by
  unfold declare
  dsimp only
  refine .visiting ?_
  split
  · exact .pure hx nofun
  next hnamed =>
  obtain ⟨hname, hsymbol⟩ : name.getD "" ≠ "" ∧ d.symbol ≠ none := by
    simpa using hnamed
  obtain ⟨symbol, hsym⟩ := Option.ne_none_iff_exists'.1 hsymbol
  refine .ask_bind ?_
  split
  · exact .bind (.report hx (R := fun _ _ => True) fun _ _ => trivial) fun _ _ _ hxy =>
      .pure hxy.obeyed nofun
  next hmembers =>
  have hscope : s.scope < x.atlas.size := by
    by_contra hlt
    rw [Atlas.get?_eq_none (Nat.le_of_not_lt hlt)] at hmembers
    exact hmembers rfl
  split
  · exact .pure hx nofun
  refine .ask_bind ?_
  split
  · next id hid =>
    obtain ⟨hkept, heq⟩ := merge_upholds (s := s) hx hid hfits hk
    exact ⟨hkept, fun i hi => heq i hi ▸ hkept.lookup _ _ hid⟩
  · next hfree =>
    refine .bind (create_upholds hx hsym hfree hscope hfits hname hk)
      fun id y hid hxy => .pure hxy.obeyed fun i hi => ?_
    exact Option.mem_some.1 hi ▸ hid

/-- Declaring and filling, where the filling may rely on an entry that is registered for the
symbol. -/
theorem declareAnd_upholds {kind : Kind} {name : Option String} {fill : EntryId → Conv Unit}
    (hx : L.Obeyed x) (hfits : L.Fits x.atlas s.scope d) (hk : d.Becomes kind)
    (hfill : ∀ id (y : Draft), y.atlas.lookup d.symbol = some id → L.Kept x y →
      (fill id).Upholds L y fun _ _ => True) :
    (declareAnd s d kind name fill).Upholds L x fun _ _ => True := by
  refine .bind (declare_upholds hx hfits hk) fun r y hid hxy => ?_
  cases r with
  | none => exact .pure hxy.obeyed trivial
  | some id =>
    exact .bind (hfill id y (hid id rfl) hxy) fun _ _ _ hyz => .pure hyz.obeyed trivial

/-! ## Opening -/

/-- Opening a signature upholds a law, and its entry is the next one. -/
theorem openSignature_upholds {name : String} {kind : Kind} {comment : Option Comment}
    {flags : Flags} (hx : L.Obeyed x) (hk : kind ∈ Kind.someSignature) :
    (openSignature s name kind comment flags).Upholds L x fun id _ => id = x.atlas.size := by
  refine .addEntry hx (.inl trivial) ?_
  simp [Kind.partKinds, hk]

/-- Opening a parameter upholds a law, and its entry is the next one. -/
theorem openParameter_upholds {p : Source.Param} {comment : Option Comment} (hx : L.Obeyed x) :
    (openParameter s p comment).Upholds L x fun id _ => id = x.atlas.size :=
  .addEntry hx (.inl trivial) (show Kind.parameter ∈ _ by decide)

/-- Opening an inline declaration upholds a law. -/
theorem openLiteral_upholds (hx : L.Obeyed x) :
    (openLiteral s).Upholds L x fun _ _ => True :=
  (Upholds.addEntry hx (.inr ⟨rfl, rfl⟩) (show Kind.typeLiteral ∈ _ by decide)).weaken

/-- Opening a type parameter upholds a law, and its entry is the next one. -/
theorem openTypeParameter_upholds {owner : EntryId} {name : String} (hx : L.Obeyed x) :
    (openTypeParameter owner name).Upholds L x fun id _ => id = x.atlas.size := by
  refine .bind (.addEntry hx (.inl trivial) (show Kind.typeParameter ∈ _ by decide))
    fun id y hid hxy => ?_
  refine .bind (.changeEntry hxy.obeyed hxy.obeyed.holds fun e _ => ?_) fun _ _ _ hyz =>
    .pure hyz.obeyed hid
  obtain ⟨name, kind, flags, comment, parent, body⟩ := e
  cases body with
  | declaration m d => exact .details m d _ rfl (.typeParameter id)
  | signature shape => exact .typeParameter shape id rfl
  | _ => exact .same

/-- The check of the order of parameters upholds a law. -/
theorem checkOrder_upholds {name : String} {ps : List Source.Param} (hx : L.Obeyed x) :
    (checkOrder s id name ps).Upholds L x fun _ _ => True := by
  unfold checkOrder
  split
  · exact .report hx fun _ _ => trivial
  · exact .pure hx trivial

/-! ## Filling -/

/-- Writing a type in place upholds a law when filling its declaration does. -/
theorem inlineType_upholds {fill : EntryId → Conv Unit} (hx : L.Obeyed x)
    (hfill : ∀ id (y : Draft), L.Kept x y → (fill id).Upholds L y fun _ _ => True) :
    (inlineType s fill).Upholds L x fun _ _ => True :=
  .bind (openLiteral_upholds hx) fun id y _ hxy =>
    .bind (hfill id y hxy) fun _ _ _ hyz => .pure hyz.obeyed trivial

/-- Filling a container upholds a law when converting its members does. -/
theorem fillContainer_upholds {members : Site → Conv (List EntryId)}
    (hm : (members (s.within id [])).Upholds L x fun _ _ => True) :
    (fillContainer s members id).Upholds L x fun _ _ => True :=
  .bind hm fun _ _ _ hxy => .pure hxy.obeyed trivial

/-- Binding the type parameters of an entry, unless it has them, upholds a law when creating them
does. -/
theorem knownOrNew_upholds {typeParams : EntryId → Conv (List String)} (hx : L.Obeyed x)
    (htp : (typeParams id).Upholds L x fun _ _ => True) :
    (knownOrNew typeParams id).Upholds L x fun _ _ => True := by
  refine .ask_bind ?_
  split
  · exact htp
  · exact .ask hx trivial

/-- Filling a class upholds a law when converting its type parameters, its heritage and its members
does. -/
theorem fillClass_upholds {typeParams : EntryId → Conv (List String)}
    {bases interfaces : Site → Conv (List Ty)} {members : Site → Conv (List EntryId)}
    (hx : L.Obeyed x) (htp : (typeParams id).Upholds L x fun _ _ => True)
    (hb : ∀ bound (y : Draft), L.Kept x y →
      (bases (s.within id bound)).Upholds L y fun _ _ => True)
    (hi : ∀ bound (y : Draft), L.Kept x y →
      (interfaces (s.within id bound)).Upholds L y fun _ _ => True)
    (hm : ∀ bound (y : Draft), L.Kept x y →
      (members (s.within id bound)).Upholds L y fun _ _ => True) :
    (fillClass s typeParams bases interfaces members id).Upholds L x fun _ _ => True := by
  have heritage : ∀ ts more : List Ty, ∃ kept, extendHeritage ts more = ts ++ kept := by
    intro ts more
    obtain ⟨kept, heq, -⟩ := extendHeritage_eq ts more
    exact ⟨kept, heq⟩
  refine .bind (knownOrNew_upholds hx htp) fun bound y _ hxy => ?_
  refine .bind (hb bound y hxy) fun extended z _ hyz => ?_
  have hxz := hxy.trans hyz
  refine .bind (.changeDetails hxz.obeyed hxz.obeyed.holds fun d => ?_) fun _ v _ hzv => ?_
  · obtain ⟨kept, heq⟩ := heritage d.extended extended
    rw [heq]
    exact .extended kept ⟨extended, heq⟩
  have hxv := hxz.trans hzv
  refine .bind (hi bound v hxv) fun implemented u _ hvu => ?_
  have hxu := hxv.trans hvu
  refine .bind (.changeDetails hxu.obeyed hxu.obeyed.holds fun d => ?_) fun _ t _ hut => ?_
  · obtain ⟨kept, heq⟩ := heritage d.implemented implemented
    rw [heq]
    exact .implemented kept ⟨implemented, heq⟩
  exact .bind (hm bound t (hxu.trans hut)) fun _ _ _ htw => .pure htw.obeyed trivial

/-- Adding a signature to its owner upholds a law. -/
theorem addSignature_upholds {sig : EntryId} (hx : L.Obeyed x) :
    (addSignature id sig).Upholds L x fun _ _ => True :=
  .changeDetails hx hx.holds fun _ => .signature sig

/-- Filling a function or a method upholds a law when converting its signature does. -/
theorem fillCallable_upholds {name : Atlas → EntryId → String}
    {signature : Site → String → Conv EntryId}
    (hs : ∀ shown, (signature (s.within id []) shown).Upholds L x fun _ _ => True) :
    (fillCallable s name signature id).Upholds L x fun _ _ => True :=
  .ask_bind <| .bind (hs _) fun _ _ _ hxy => addSignature_upholds hxy.obeyed

/-- Filling an accessor upholds a law when converting its type and its signature does. -/
theorem fillAccessor_upholds {isGetter : Bool} {value : Site → Conv (Option Ty)}
    {signature : Site → Conv EntryId} (hx : L.Obeyed x)
    (hv : (value (s.within id [])).Upholds L x fun _ _ => True)
    (hs : (signature (s.within id [])).Upholds L x fun _ _ => True) :
    (fillAccessor s d isGetter value signature id).Upholds L x fun _ _ => True := by
  refine .ask_bind ?_
  -- The details that are asked for are those of the entry, if it is a declaration.
  have asked : ∀ d₀, x.atlas.details? id = some d₀ →
      ((x.atlas.get? id).getD default).details?.getD {} = d₀ := by
    intro d₀ hd₀
    obtain ⟨e, he, hd⟩ := Option.bind_eq_some_iff.1 hd₀
    rw [he, Option.getD_some, hd, Option.getD_some]
  dsimp only
  split
  · split
    · next hnone =>
      refine .bind hv fun converted y _ hxy => ?_
      refine .changeDetails hxy.obeyed hx.holds fun _ => .type converted fun d₀ hd₀ => ?_
      rw [asked d₀ hd₀] at hnone
      exact Option.isNone_iff_eq_none.1 hnone
    · exact .pure hx trivial
  · split
    · exact .report hx fun _ _ => trivial
    · next hnone =>
      refine .bind hs fun sig y _ hxy => ?_
      refine .changeDetails hxy.obeyed hx.holds fun details => ?_
      rw [Bool.not_eq_true, Option.isSome_eq_false_iff, Option.isNone_iff_eq_none] at hnone
      cases isGetter with
      | true => exact .getSignature sig fun d₀ hd₀ => asked d₀ hd₀ ▸ hnone
      | false => exact .setSignature sig fun d₀ hd₀ => asked d₀ hd₀ ▸ hnone

/-- A type that is asked for and not there is none of the details. -/
theorem type_eq_none {a : Atlas} (h : (a.details? id).bind (·.type) = none) :
    ∀ d₀, a.details? id = some d₀ → d₀.type = none := by
  intro d₀ hd₀
  rwa [hd₀] at h

/-- Filling a variable or a property upholds a law when converting its type does. -/
theorem fillValue_upholds {type : Site → Conv (Option Ty)} {defaultValue : Option String}
    (hx : L.Obeyed x) (ht : (type (s.within id [])).Upholds L x fun _ _ => True) :
    (fillValue s type defaultValue id).Upholds L x fun _ _ => True := by
  have finish : ∀ {y : Draft}, L.Obeyed y →
      (changeDetails id fun x => { x with defaultValue := x.defaultValue.or defaultValue }).Upholds
        L y fun _ _ => True := fun hy =>
    .changeDetails hy hy.holds fun _ => .defaultValue defaultValue
  refine .ask_bind ?_
  split
  · next hnone =>
    refine .bind ht fun converted y _ hxy => ?_
    refine .bind (.changeDetails hxy.obeyed hx.holds fun _ => .type converted ?_)
      fun _ _ _ hyz => finish hyz.obeyed
    exact type_eq_none (Option.isNone_iff_eq_none.1 hnone)
  · exact finish hx

/-- Filling an alias upholds a law when converting its type parameters and its type does. -/
theorem fillAlias_upholds {typeParams : EntryId → Conv (List String)}
    {type : Site → Conv (Option Ty)} (hx : L.Obeyed x)
    (htp : (typeParams id).Upholds L x fun _ _ => True)
    (ht : ∀ bound (y : Draft), L.Kept x y →
      (type (s.within id bound)).Upholds L y fun _ _ => True) :
    (fillAlias s d typeParams type id).Upholds L x fun _ _ => True := by
  refine .ask_bind ?_
  split
  · exact .ask_bind (.report hx fun _ _ => trivial)
  · next hnone =>
    refine .bind htp fun bound y _ hxy => .bind (ht bound y hxy) fun converted z _ hyz => ?_
    refine .changeDetails hyz.obeyed hx.holds fun _ => .type converted (type_eq_none ?_)
    rwa [Bool.not_eq_true, Option.isSome_eq_false_iff, Option.isNone_iff_eq_none] at hnone

/-- The report on a signature that belongs to nothing upholds a law. -/
theorem reportLoose_upholds {what : String} {line : Option Int} (hx : L.Obeyed x) :
    (reportLoose s what line).Upholds L x fun _ _ => True :=
  .bind (.report hx (R := fun _ _ => True) fun _ _ => trivial) fun _ _ _ hxy =>
    .pure hxy.obeyed trivial

/-- Adding a signature to what it stands in upholds a law when converting the signature does. -/
theorem addCallable_upholds {what : String} {line : Option Int} {signature : Conv EntryId}
    (hx : L.Obeyed x) (hs : signature.Upholds L x fun _ _ => True) :
    (addCallable s what line signature).Upholds L x fun _ _ => True := by
  refine .ask_bind ?_
  split
  · exact reportLoose_upholds hx
  · exact .bind hs fun _ _ _ hxy => .bind (addSignature_upholds hxy.obeyed) fun _ _ _ hyz =>
      .pure hyz.obeyed trivial

/-- Adding an index signature to what it stands in upholds a law when converting the signature does.
-/
theorem addIndex_upholds {line : Option Int} {signature : Conv EntryId} (hx : L.Obeyed x)
    (hs : signature.Upholds L x fun _ _ => True) :
    (addIndex s line signature).Upholds L x fun _ _ => True := by
  refine .ask_bind ?_
  split
  · exact reportLoose_upholds hx
  · next details hdetails =>
    split
    · exact .ask_bind (.bind (.report hx (R := fun _ _ => True) fun _ _ => trivial)
        fun _ _ _ hxy => .pure hxy.obeyed trivial)
    · next hnone =>
      rw [Bool.not_eq_true, Option.isSome_eq_false_iff, Option.isNone_iff_eq_none] at hnone
      refine .bind hs fun sig y _ hxy => .bind (.changeDetails hxy.obeyed hx.holds fun _ =>
        .indexSignature sig fun d₀ hd₀ => ?_) fun _ _ _ hyz => .pure hyz.obeyed trivial
      rw [hdetails, Option.some.injEq] at hd₀
      exact hd₀ ▸ hnone

end ApiAtlas.Conv
