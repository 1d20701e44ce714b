import ApiAtlas.Proofs.Conversion.Gives

/-!
# What is spared

What an entry extends and its type parameters are changed by the declarations of its symbol only,
and only these register it. Converting declarations that carry some symbols therefore `Spares` the
entries of all others.
-/

set_option autoImplicit false

namespace ApiAtlas

/-! ## Entries -/

namespace Entry

/-- What an entry extends and its type parameters, if it is a declaration. -/
def heritage (e : Entry) : Option (List Ty × List EntryId) :=
  e.details?.map fun d => (d.extended, d.typeParameters)

variable {e e' : Entry}

/-- Entries with the same details have the same heritage. -/
theorem heritage_eq_of_details?_eq (h : e'.details? = e.details?) : e'.heritage = e.heritage := by
  rw [heritage, h, heritage]

/-- A change of members leaves the details. -/
theorem details?_mapMembers (f : Members → Members) (e : Entry) :
    (e.mapMembers f).details? = e.details? := by
  obtain ⟨name, kind, flags, comment, parent, body⟩ := e
  cases body <;> rfl

/-- A change of a signature leaves the details. -/
theorem details?_mapShape (f : Shape → Shape) (e : Entry) :
    (e.mapShape f).details? = e.details? := by
  obtain ⟨name, kind, flags, comment, parent, body⟩ := e
  cases body <;> rfl

/-- A change of details changes them, if the entry has any. -/
theorem details?_mapDetails (f : Details → Details) (e : Entry) :
    (e.mapDetails f).details? = e.details?.map f := by
  obtain ⟨name, kind, flags, comment, parent, body⟩ := e
  cases body <;> rfl

/-- A change of details that leaves bases and type parameters leaves the heritage. -/
theorem heritage_mapDetails {f : Details → Details}
    (hf : ∀ d, (f d).extended = d.extended ∧ (f d).typeParameters = d.typeParameters) (e : Entry) :
    (e.mapDetails f).heritage = e.heritage := by
  rw [heritage, details?_mapDetails, Option.map_map, heritage]
  refine Option.map_congr fun d _ => ?_
  obtain ⟨hextended, hparams⟩ := hf d
  rw [Function.comp_apply, hextended, hparams]

/-- A type parameter that is added to an entry is added to its heritage. -/
theorem heritage_addTypeParameter (i : EntryId) (e : Entry) :
    (e.addTypeParameter i).heritage = e.heritage.map fun h => (h.1, h.2 ++ [i]) := by
  obtain ⟨name, kind, flags, comment, parent, body⟩ := e
  cases body <;> rfl

/-- What is no declaration has no heritage. -/
theorem heritage_eq_none (h : e.isDeclaration = false) : e.heritage = none := by
  rw [heritage, Option.not_isSome_iff_eq_none.1 (Bool.eq_false_iff.1 h)]
  rfl

end Entry

/-- What an entry extends and its type parameters, if it is a declaration of the atlas. -/
def Atlas.heritageAt (a : Atlas) (i : EntryId) : Option (List Ty × List EntryId) :=
  (a.get? i).bind (·.heritage)

/-- The heritage of an entry is read off its details. -/
theorem Atlas.heritageAt_eq (a : Atlas) (i : EntryId) :
    a.heritageAt i = (a.details? i).map fun d => (d.extended, d.typeParameters) := by
  rw [heritageAt, details?, Option.map_bind]
  rfl

/-- An entry with a symbol is in the atlas. -/
theorem Atlas.lt_of_symbolOf {a : Atlas} {i : EntryId} {s : String} (h : a.symbolOf i = some s) :
    i < a.size := by
  obtain ⟨e, he, -⟩ := Option.bind_eq_some_iff.1 h
  exact get?_lt he

/-! ## Drafts -/

/-- What a conversion spares in which only symbols of some sort are declared. -/
structure Draft.Spares (carried : String → Prop) (x y : Draft) : Prop where
  grows : x.atlas.Extends y.atlas
  heritage : ∀ i s, x.atlas.symbolOf i = some s → ¬carried s →
    y.atlas.heritageAt i = x.atlas.heritageAt i
  symbols : ∀ s, ¬carried s → y.atlas.symbols.get? s = x.atlas.symbols.get? s

namespace Draft.Spares

variable {x y z : Draft} {carried : String → Prop} {i : EntryId}

/-- What leaves the atlas as it is spares everything. -/
theorem of_atlas_eq (h : y.atlas = x.atlas) : x.Spares carried y :=
  ⟨h ▸ .refl _, fun i s _ _ => by rw [h], fun s _ => by rw [h]⟩

/-- A conversion that does nothing spares everything. -/
theorem refl (x : Draft) : x.Spares carried x :=
  of_atlas_eq rfl

/-- What two conversions in turn spare is spared by both together. -/
theorem trans (h : x.Spares carried y) (h' : y.Spares carried z) : x.Spares carried z := by
  refine ⟨h.grows.trans h'.grows, fun i s hi hs => ?_, fun s hs => ?_⟩
  · have hsymbol := (h.grows.symbolOf_eq (Atlas.lt_of_symbolOf hi)).trans hi
    rw [h'.heritage i s hsymbol hs, h.heritage i s hi hs]
  · rw [h'.symbols s hs, h.symbols s hs]

/-- With more symbols that may be declared, less has to be spared. -/
theorem mono {carried' : String → Prop} (h : x.Spares carried y)
    (hsub : ∀ s, carried s → carried' s) : x.Spares carried' y where
  grows := h.grows
  heritage i s hi hs := h.heritage i s hi fun hcarried => hs (hsub s hcarried)
  symbols s hs := h.symbols s fun hcarried => hs (hsub s hcarried)

/-- Changing what is known about one entry spares the others. -/
theorem modify {f : Entry → Entry} (hkeeps : ∀ e, x.atlas.get? i = some e → e.Keeps (f e))
    (hheritage : (∀ e, x.atlas.get? i = some e → (f e).heritage = e.heritage) ∨
      ∀ s, x.atlas.symbolOf i = some s → carried s) :
    x.Spares carried { x with atlas := x.atlas.modify i f } := by
  refine ⟨Atlas.extends_modify hkeeps, fun j s hj hs => ?_, fun _ _ => rfl⟩
  dsimp only
  rw [Atlas.heritageAt, Atlas.heritageAt]
  by_cases hji : j = i
  · subst hji
    obtain ⟨e, he⟩ := Atlas.exists_get? (Atlas.lt_of_symbolOf hj)
    rw [Atlas.get?_modify_self f he, he]
    exact hheritage.resolve_right (fun h => hs (h s hj)) e he
  · rw [Atlas.get?_modify_of_ne f hji]

/-- Where every entry has the details that it had, only the table of symbols can differ. -/
theorem of_details?_eq (hgrows : x.atlas.Extends y.atlas)
    (hdetails : ∀ j < x.atlas.size, y.atlas.details? j = x.atlas.details? j)
    (hsymbols : ∀ s, ¬carried s → y.atlas.symbols.get? s = x.atlas.symbols.get? s) :
    x.Spares carried y := by
  refine ⟨hgrows, fun j s hj _ => ?_, hsymbols⟩
  rw [Atlas.heritageAt_eq, Atlas.heritageAt_eq, hdetails j (Atlas.lt_of_symbolOf hj)]

/-- Adding an entry spares everything. -/
theorem add (e : Entry) : x.Spares carried { x with atlas := (x.atlas.add e).1 } :=
  of_details?_eq (Atlas.extends_add e)
    (fun j hj => by rw [Atlas.details?, Atlas.get?_add_of_lt e hj, Atlas.details?]) fun _ _ => rfl

/-- A declaration that is entered registers its symbol. -/
theorem enter (hx : x.atlas.Identified) {e : Entry} {s : String} (hi : i < x.atlas.size)
    (hs : carried s) : x.Spares carried { x with atlas := (x.atlas.enter i e (some s)).1 } := by
  refine of_details?_eq (Atlas.extends_enter hx e s hi) (fun j hj => ?_) fun t ht => ?_
  · have hget := Atlas.get?_enter e (some s) hi (hx.size_notMem_childrenOf i) j
    rw [if_neg (Nat.ne_of_lt hj)] at hget
    rw [Atlas.details?, hget, Atlas.details?]
    split
    · cases x.atlas.get? j with
      | none => rfl
      | some e' => exact e'.details?_mapMembers _
    · rfl
  · dsimp only
    have hts : t ≠ s := fun hts => ht (hts ▸ hs)
    rw [Atlas.symbols_enter, Table.get?_put_of_ne _ _ hts]

end Draft.Spares

end ApiAtlas
