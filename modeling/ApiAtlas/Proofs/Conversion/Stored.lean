import ApiAtlas.Proofs.Conversion.Gives

/-!
# Storing what is created

Declaring stores the entry at once. The other entries are opened first and owed to their parent
until they are filled and stored.
-/

set_option autoImplicit false

namespace ApiAtlas

open Source (Decl)

/-! ## Bodies of new entries -/

namespace Atlas

variable {a b : Atlas} {i : EntryId} {body : Body}

/-- Whether an entry has a body. -/
def HasBody (a : Atlas) (i : EntryId) (body : Body) : Prop :=
  ∃ e, a.get? i = some e ∧ e.body = body

/-- An entry with a body is in the atlas. -/
theorem HasBody.lt (h : a.HasBody i body) : i < a.size := by
  obtain ⟨e, he, -⟩ := h
  exact get?_lt he

/-- Whether an entry has a body only depends on the entry. -/
theorem HasBody.of_get? (h : a.HasBody i body) (hget : b.get? i = a.get? i) : b.HasBody i body := by
  obtain ⟨e, he, hb⟩ := h
  exact ⟨e, hget.trans he, hb⟩

/-- A new inline declaration is no declaration of a symbol. -/
theorem HasBody.outside_literal (h : a.HasBody i (.declaration {} {})) (ds : List Decl) :
    a.Outside i ds := by
  obtain ⟨e, he, hb⟩ := h
  apply outside_of_symbolOf_eq_none
  rw [symbolOf_eq he, Entry.symbol?, Entry.details?, hb]
  rfl

/-- An entry with the body of an empty declaration is a declaration. -/
theorem HasBody.isDeclaration_literal (h : a.HasBody i (.declaration {} {})) :
    a.isDeclaration i = true := by
  obtain ⟨e, he, hb⟩ := h
  rw [isDeclaration_eq he, Entry.isDeclaration, Entry.details?, hb, Option.isSome_some]

/-- Whether an entry is a signature. -/
def IsSignature (a : Atlas) (i : EntryId) : Prop :=
  ∃ s, a.HasBody i (.signature s)

/-- A signature is in the atlas. -/
theorem IsSignature.lt (h : a.IsSignature i) : i < a.size := by
  obtain ⟨s, hs⟩ := h
  exact hs.lt

/-- A signature is outside of any declarations. -/
theorem IsSignature.outside (h : a.IsSignature i) (ds : List Decl) : a.Outside i ds := by
  obtain ⟨s, e, he, hb⟩ := h
  apply outside_of_symbolOf_eq_none
  rw [symbolOf_eq he, Entry.symbol?, Entry.details?, hb]
  rfl

/-- A signature can have type parameters. -/
theorem IsSignature.isGeneric (h : a.IsSignature i) : a.IsGeneric i := by
  obtain ⟨s, e, he, hb⟩ := h
  exact ⟨e, he, Or.inr (by simp [Entry.shape?, hb])⟩

/-- A signature of an owner is a signature. -/
theorem IsSignatureOf.isSignature {owner : EntryId} {kinds : List Kind}
    (h : a.IsSignatureOf i owner kinds) : a.IsSignature i := by
  obtain ⟨e, he, hs, -⟩ := h
  obtain ⟨name, kind, flags, comment, parent, body⟩ := e
  cases body <;> simp [Entry.shape?] at hs
  exact ⟨_, _, he, rfl⟩

/-- A signature still is one in an extension. -/
theorem Extends.isSignature (h : a.Extends b) (hs : a.IsSignature i) : b.IsSignature i := by
  obtain ⟨s, e, he, hb⟩ := hs
  obtain ⟨e', he', hkeep⟩ := h i e he
  have hshape := hkeep.isSome_shape
  obtain ⟨name, kind, flags, comment, parent, body⟩ := e'
  cases body <;> simp [Entry.shape?, hb] at hshape
  exact ⟨_, _, he', rfl⟩

/-- The type of an entry only depends on the entry. -/
theorem typeOf_eq_of_get? (h : b.get? i = a.get? i) : b.typeOf i = a.typeOf i := by
  rw [typeOf, h, typeOf]

/-- A parameter is outside of any declarations. -/
theorem IsParameter.outside (h : a.IsParameter i) (ds : List Decl) : a.Outside i ds := by
  obtain ⟨e, t, v, he, hb⟩ := h
  apply outside_of_symbolOf_eq_none
  rw [symbolOf_eq he, Entry.symbol?, Entry.details?, hb]
  rfl

/-- A type parameter is outside of any declarations. -/
theorem IsTypeParameter.outside (h : a.IsTypeParameter i) (ds : List Decl) :
    a.Outside i ds := by
  obtain ⟨e, l, s, he, hb⟩ := h
  apply outside_of_symbolOf_eq_none
  rw [symbolOf_eq he, Entry.symbol?, Entry.details?, hb]
  rfl

/-- A declaration can have type parameters. -/
theorem isGeneric_of_isDeclaration (h : a.isDeclaration i = true) : a.IsGeneric i := by
  obtain ⟨e, m, d, he, hb⟩ := exists_body_of_isDeclaration h
  exact ⟨e, he, Or.inl (by simp [Entry.isDeclaration, Entry.details?, hb])⟩

/-- Another list of type parameters leaves the type as it is. -/
theorem typeOf_addTypeParameter {p : EntryId} (h : b = a.modify i fun e => e.addTypeParameter p) :
    b.typeOf i = a.typeOf i := by
  subst h
  rw [typeOf, get?_modify, if_pos rfl, typeOf]
  cases a.get? i with
  | none => rfl
  | some e =>
    obtain ⟨name, kind, flags, comment, parent, body⟩ := e
    cases body <;> rfl

end Atlas

namespace Conv

variable {x : Draft} {s : Site} {id owner : EntryId} {P new : List EntryId} {d : Decl}

/-! ## Declaring -/

/-- Noting where a declaration is written leaves the atlas tidy. -/
theorem noteSource_gives (h : x.atlas.Tidy P) :
    (noteSource s id d).Gives x fun _ y => y.atlas.Tidy P := by
  unfold noteSource
  dsimp only
  split
  · split
    · exact h
    · refine changeDetails_gives_tidy h fun d => ?_
      split
      · exact ⟨by simp, fun h => h, fun h => h⟩
      · exact ⟨by simp [Details.held], fun h => h, fun h => h⟩
  · exact h

/-- Merging a declaration into its entry leaves the atlas tidy. -/
theorem mergeInto_gives {flags : Flags} (h : x.atlas.Tidy P) :
    (mergeInto s id d flags).Gives x fun _ y => y.atlas.Tidy P := by
  refine .change_bind fun y hy => noteSource_gives ?_
  rw [hy]
  exact h.modify fun e _ => Entry.takes_nil rfl rfl

/-- Merging a declaration, or reporting why it cannot be merged, leaves the atlas tidy. -/
theorem merge_gives {kind : Kind} {flags : Flags} (h : x.atlas.Tidy P) :
    (merge s id d kind flags).Gives x fun _ y => y.atlas.Tidy P := by
  have finish : ∀ y : Draft, y.atlas.Tidy P →
      (do mergeInto s id d flags; return some id : Conv (Option EntryId)).Gives y
        fun _ y => y.atlas.Tidy P :=
    fun y hy => .then_pure (mergeInto_gives hy)
  have recast : ∀ (y : Draft) (k : Kind), y.atlas.Tidy P →
      (do
        changeEntry id fun e => { e with kind := k }
        mergeInto s id d flags
        return some id : Conv (Option EntryId)).Gives y fun _ y => y.atlas.Tidy P := by
    refine fun y k hy => .change_bind fun z hz => finish z ?_
    rw [hz]
    exact hy.modify fun e _ => Entry.takes_nil rfl rfl
  unfold merge
  refine .ask_bind ?_
  dsimp only
  split
  · exact .report_bind fun y hy => .pure (hy ▸ h)
  · split
    · split
      · exact recast x _ h
      · split
        · exact .report_bind fun y hy => .pure (hy ▸ h)
        · exact .report_bind fun y hy => recast y kind (hy ▸ h)
    · exact finish x h

/-- Creating an entry for a symbol leaves the atlas tidy. -/
theorem create_gives {kind : Kind} {flags : Flags} {name symbol : String}
    (hx : x.atlas.Identified) (hs : x.atlas.Hosts s.scope) (hsym : d.symbol = some symbol)
    (h : x.atlas.Tidy P) :
    (create s d name kind flags).Gives x fun _ y => y.atlas.Tidy P := by
  obtain ⟨e, he, hm, -⟩ := hs
  unfold create
  dsimp only
  rw [hsym]
  exact noteSource_gives (x := ⟨_, x.diagnostics⟩)
    (h.enter hx he hm rfl (by simp [Entry.Increasing, Entry.idLists]) symbol)

/-- Declaring leaves the atlas tidy. -/
theorem declare_gives {kind : Kind} {name : Option String} (hx : x.atlas.Identified)
    (hs : x.atlas.Hosts s.scope) (h : x.atlas.Tidy P) :
    (declare s d kind name).Gives x fun _ y => y.atlas.Tidy P := by
  unfold declare
  dsimp only
  refine .visiting ?_
  split
  · exact .pure h
  next hnamed =>
  obtain ⟨symbol, hsym⟩ : ∃ symbol, d.symbol = some symbol := by
    rw [← Option.ne_none_iff_exists']
    simp only [Bool.or_eq_true, Option.isNone_iff_eq_none, not_or] at hnamed
    exact hnamed.2
  refine .ask_bind ?_
  split
  · exact .report_bind fun y hy => .pure (hy ▸ h)
  · split
    · exact .pure h
    · refine .ask_bind ?_
      split
      · exact merge_gives h
      · exact create_gives (x := x) hx hs hsym h

/-- Declaring and filling is tidy when filling the entry of the symbol is. -/
theorem declareAnd_gives {kind : Kind} {name : Option String} {fill : EntryId → Conv Unit}
    (hx : x.atlas.Identified) (hs : x.atlas.Hosts s.scope) (hk : kind.IsBasic)
    (hl : kind ≠ .typeLiteral) (h : x.atlas.Tidy P)
    (hfill : ∀ id (y : Draft), y.atlas.Declares id d.symbol (kind.isIn Kind.accessorLike) →
      y.atlas.Identified → y.atlas.Tidy P → (fill id).Gives y fun _ z => z.atlas.Tidy P) :
    (declareAnd s d kind name fill).Gives x fun _ y => y.atlas.Tidy P := by
  refine .bind hx ((declare_runs hx hs hk hl (List.mem_singleton_self d)).and
    (declare_gives hx hs h)) fun r y hy hxy => ?_
  cases r with
  | none => exact .pure hy.2
  | some id => exact .then_pure (hfill id y (hy.1 id rfl) hxy.identified hy.2)

/-! ## Opening -/

/-- A new entry that holds nothing is owed to its parent. -/
theorem addEntry_gives {e : Entry} {p : EntryId} (hx : x.atlas.Identified) (h : x.atlas.Tidy P)
    (hp : e.parent = some p) (hlt : p < x.atlas.size) (hheld : e.held = [])
    (hinc : e.Increasing) : (addEntry e).Gives x fun id y => y.atlas.Owes P p [id] := by
  refine ⟨h.add hx hp hlt hheld hinc, fun q hq => ?_⟩
  rw [List.mem_singleton.1 hq]
  exact (Atlas.parent?_eq (Atlas.get?_add_self x.atlas e)).trans hp

/-- A signature that is opened is owed to the scope, and has no type yet. -/
theorem openSignature_gives {name : String} {kind : Kind} {comment : Option Comment}
    {flags : Flags} (hx : x.atlas.Identified) (h : x.atlas.Tidy P)
    (hs : s.scope < x.atlas.size) :
    (openSignature s name kind comment flags).Gives x fun id y =>
      y.atlas.Owes P s.scope [id] ∧ y.atlas.typeOf id = none := by
  refine ⟨addEntry_gives hx h rfl hs rfl (by simp [Entry.Increasing, Entry.idLists]), ?_⟩
  change (Option.bind ((x.atlas.add _).1.get? x.atlas.size) Entry.type?) = none
  rw [Atlas.get?_add_self]
  rfl

/-- A parameter that is opened is owed to the scope, and has no type yet. -/
theorem openParameter_gives {p : Source.Param} {comment : Option Comment}
    (hx : x.atlas.Identified) (h : x.atlas.Tidy P) (hs : s.scope < x.atlas.size) :
    (openParameter s p comment).Gives x fun id y =>
      y.atlas.Owes P s.scope [id] ∧ y.atlas.HasBody id (.parameter none p.defaultValue) :=
  ⟨addEntry_gives hx h rfl hs rfl nofun, _, Atlas.get?_add_self _ _, rfl⟩

/-- An inline declaration that is opened is owed to the scope, and is empty. -/
theorem openLiteral_gives (hx : x.atlas.Identified) (h : x.atlas.Tidy P)
    (hs : s.scope < x.atlas.size) :
    (openLiteral s).Gives x fun id y =>
      y.atlas.Owes P s.scope [id] ∧ y.atlas.HasBody id (.declaration {} {}) :=
  ⟨addEntry_gives hx h rfl hs rfl (by simp [Entry.Increasing, Entry.idLists]), _,
    Atlas.get?_add_self _ _, rfl⟩

/-- A type parameter is stored with its owner before it is filled. -/
theorem openTypeParameter_gives {name : String} (hx : x.atlas.Identified) (h : x.atlas.Tidy P)
    (ho : x.atlas.IsGeneric owner) :
    (openTypeParameter owner name).Gives x fun id y =>
      y.atlas.Tidy P ∧ y.atlas.HasBody id (.typeParameter none none) ∧
        y.atlas.typeOf owner = x.atlas.typeOf owner := by
  obtain ⟨e, he, hg⟩ := ho
  have hlt := Atlas.get?_lt he
  let new : Entry :=
    { name := name, kind := .typeParameter, parent := some owner,
      body := .typeParameter none none }
  have howes : (x.atlas.add new).1.Owes P owner [x.atlas.size] :=
    addEntry_gives (x := x) hx h rfl hlt rfl nofun
  have howner : (x.atlas.add new).1.get? owner = some e := by
    rw [Atlas.get?_add_of_lt _ hlt, he]
  refine ⟨Atlas.Tidy.store howes howner (f := fun e => e.addTypeParameter x.atlas.size)
    (Entry.takes_addTypeParameter hg fun j hj => h.held_lt he hj), ⟨new, ?_, rfl⟩, ?_⟩
  · change ((x.atlas.add new).1.modify owner _).get? x.atlas.size = some new
    rw [Atlas.get?_modify_of_ne _ (Nat.ne_of_gt hlt), Atlas.get?_add_self]
  · refine (Atlas.typeOf_addTypeParameter (a := (x.atlas.add new).1) rfl).trans ?_
    rw [Atlas.typeOf, howner, Atlas.typeOf, he]

/-! ## Filling -/

/-- Filling a parameter leaves the atlas tidy if the inline declarations of its type are owed to it.
-/
theorem fillParameter_gives {t : Option Ty} {v v' : Option String}
    (hp : x.atlas.HasBody id (.parameter none v))
    (h : x.atlas.Owes P id (t.toList.flatMap Ty.literals)) :
    (changeEntry id fun e => { e with body := .parameter t v' }).Gives x
      fun _ y => y.atlas.Tidy P := by
  obtain ⟨e, he, hb⟩ := hp
  exact Atlas.Tidy.store h he (Entry.takes_parameterType hb t)

/-- Filling a type parameter leaves the atlas tidy if the inline declarations of its types are owed
to it. -/
theorem fillTypeParameter_gives {l d : Option Ty}
    (hp : x.atlas.HasBody id (.typeParameter none none))
    (h : x.atlas.Owes P id (l.toList.flatMap Ty.literals ++ d.toList.flatMap Ty.literals)) :
    (changeEntry id fun e => { e with body := .typeParameter l d }).Gives x
      fun _ y => y.atlas.Tidy P := by
  obtain ⟨e, he, hb⟩ := hp
  exact Atlas.Tidy.store h he (Entry.takes_bounds hb l d)

/-- A signature takes a parameter that is newer than all it holds. -/
theorem addParameter_gives {p : EntryId} (hs : x.atlas.IsSignature owner)
    (h : x.atlas.Owes P owner [p]) (hlt : ∀ e, x.atlas.get? owner = some e → ∀ j ∈ e.held, j < p) :
    (changeEntry owner fun e => e.mapShape fun shape =>
      { shape with parameters := shape.parameters ++ [p] }).Gives x fun _ y =>
        y.atlas.Tidy P ∧ y.atlas.typeOf owner = x.atlas.typeOf owner := by
  obtain ⟨shape, e, he, hb⟩ := hs
  constructor
  · refine Atlas.Tidy.store h he ?_
    simp only [Entry.mapShape, hb]
    refine Entry.takes_parameters hb fun j hj => hlt e he j ?_
    simp [Entry.held, hb, Shape.held, hj]
  · change Option.bind ((x.atlas.modify owner _).get? owner) Entry.type? = _
    rw [Atlas.get?_modify_self _ he, Atlas.typeOf, he]
    simp [Entry.mapShape, Entry.type?, hb]

/-- Setting the result of a signature leaves the atlas tidy if its inline declarations are owed to
it. -/
theorem setResult_gives {t : Option Ty} (hs : x.atlas.IsSignature id)
    (hnone : x.atlas.typeOf id = none) (h : x.atlas.Owes P id (t.toList.flatMap Ty.literals)) :
    (changeEntry id fun e => e.mapShape fun shape => { shape with type := t }).Gives x
      fun _ y => y.atlas.Tidy P := by
  obtain ⟨shape, e, he, hb⟩ := hs
  refine Atlas.Tidy.store h he ?_
  simp only [Entry.mapShape, hb]
  refine Entry.takes_result hb ?_ t
  simpa [Atlas.typeOf, he, Entry.type?, hb] using hnone

end Conv

end ApiAtlas
