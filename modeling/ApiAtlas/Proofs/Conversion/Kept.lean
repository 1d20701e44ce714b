import ApiAtlas.Proofs.Conversion.Identity

/-!
# What conversion keeps of entries

Two properties that every entry has while a program is converted: the signatures of a declaration
belong to it, and no reference inside a type has a target yet. Each is shown of the entries that an
edit adds or changes. A declaration also keeps its origin, and what it extends already.
-/

set_option autoImplicit false

namespace ApiAtlas

variable {x y : Draft} {i : EntryId}

/-- What holds of all entries still does after an edit, if it holds of blank and entered ones and
of those that are changed, and if it goes on to hold of an entry that gets a child. Only entries
that can host one do. -/
theorem Edit.entries_of_hosts {P : EntryId → Entry → Prop} (h : Edit i x y)
    (hx : x.atlas.Identified)
    (old : ∀ j e, x.atlas.get? j = some e → P j e)
    (blank : ∀ j e, e.IsBlank → P j e)
    (entered : ∀ j (e : Entry) d, e.body = .declaration {} d →
      d = { symbol := d.symbol, origin := d.origin } → e.kind.IsBasic → P j e)
    (members : ∀ e f, x.atlas.get? i = some e → x.atlas.Hosts i → P i e → P i (e.mapMembers f))
    (change : ∀ e e', x.atlas.get? i = some e → e.Change x.atlas i e' → P i e') :
    ∀ j e, y.atlas.get? j = some e → P j e := by
  intro j e he
  cases h with
  | report g hg => exact old j e he
  | files t => exact old j e he
  | add e' p hp hlt hb =>
    rw [Atlas.get?_add] at he
    split at he
    · obtain rfl : e' = e := Option.some.inj he
      exact blank j e' hb
    · exact old j e he
  | enter e' d s hb hd hs hk hi hbasic =>
    rw [Atlas.get?_enter e' (some s) hi.lt (hx.size_notMem_childrenOf i)] at he
    split at he
    · obtain rfl := Option.some.inj he
      exact entered j _ d hb (by rw [hd]) hbasic
    · split at he
      · next hj =>
        subst hj
        obtain ⟨e₀, he₀, rfl⟩ := Option.map_eq_some_iff.1 he
        exact members e₀ _ he₀ hi (old j e₀ he₀)
      · exact old j e he
  | change f hf =>
    rw [Atlas.get?_modify] at he
    split at he
    · next hij =>
      subst hij
      obtain ⟨e₀, he₀, rfl⟩ := Option.map_eq_some_iff.1 he
      exact change e₀ _ he₀ (hf e₀ he₀)
    · exact old j e he

/-- What holds of all entries still does after an edit, if it holds of blank and entered ones and
of those that are changed, and if children do not matter. -/
theorem Edit.entries {P : EntryId → Entry → Prop} (h : Edit i x y) (hx : x.atlas.Identified)
    (old : ∀ j e, x.atlas.get? j = some e → P j e)
    (blank : ∀ j e, e.IsBlank → P j e)
    (entered : ∀ j (e : Entry) d, e.body = .declaration {} d →
      d = { symbol := d.symbol, origin := d.origin } → P j e)
    (members : ∀ j e f, P j e → P j (e.mapMembers f))
    (change : ∀ e e', x.atlas.get? i = some e → e.Change x.atlas i e' → P i e') :
    ∀ j e, y.atlas.get? j = some e → P j e :=
  h.entries_of_hosts hx old blank (fun j e d hb hd _ => entered j e d hb hd)
    (fun e f _ _ hP => members i e f hP) change

/-! ## Signatures -/

/-- The signatures of each declaration are signatures that belong to it. -/
def Atlas.SignaturesOwned (a : Atlas) : Prop :=
  ∀ d details, a.details? d = some details → ∀ sig ∈ details.allSignatures,
    a.IsSignatureOf sig d Kind.someSignature

/-- A change gives a declaration only signatures that belong to it. -/
theorem Details.Change.mem_allSignatures {a : Atlas} {kind : Kind} {d d' : Details}
    (h : d.Change a i kind d') {sig : EntryId} (hsig : sig ∈ d'.allSignatures) :
    sig ∈ d.allSignatures ∨ a.IsSignatureOf sig i Kind.someSignature := by
  have replaced : ∀ new kinds, a.IsSignatureOf new i kinds → kinds ⊆ Kind.someSignature →
      sig ∈ new :: d.allSignatures →
      sig ∈ d.allSignatures ∨ a.IsSignatureOf sig i Kind.someSignature := by
    intro new kinds hs hk hmem
    rcases List.mem_cons.1 hmem with rfl | hmem
    · exact .inr (hs.mono hk)
    · exact .inl hmem
  cases h with
  | signature new hs _ =>
    refine replaced new _ hs (by decide) ?_
    simp only [Details.allSignatures, List.mem_append, List.mem_singleton] at hsig
    simp only [Details.allSignatures, List.mem_cons, List.mem_append]
    tauto
  | indexSignature new hs _ | getSignature new hs _ | setSignature new hs _ =>
    refine replaced new _ hs (by decide) ?_
    simp only [Details.allSignatures, Option.toList_some, List.mem_append,
      List.mem_singleton] at hsig
    simp only [Details.allSignatures, List.mem_cons, List.mem_append]
    tauto
  | _ => exact .inl hsig

/-- A signature of a changed entry was one before, or belongs to the entry. -/
theorem Entry.Change.mem_allSignatures {a : Atlas} {e e' : Entry} (h : e.Change a i e')
    {d' : Details} (hd : e'.details? = some d') {sig : EntryId} (hsig : sig ∈ d'.allSignatures) :
    (∃ d, e.details? = some d ∧ sig ∈ d.allSignatures) ∨
      a.IsSignatureOf sig i Kind.someSignature := by
  cases h with
  | details m d d'' hb hc =>
    obtain rfl : d'' = d' := Option.some.inj hd
    refine (hc.mem_allSignatures hsig).imp_left fun hmem => ⟨d, ?_, hmem⟩
    rw [Entry.details?, hb]
  | same | merge | recast => exact .inl ⟨d', hd, hsig⟩
  | parameters | typeParameters | result | parameter | typeParameter => cases hd

/-- An edit leaves signatures with their declarations. -/
theorem Edit.signaturesOwned (h : Edit i x y) (hx : x.atlas.Identified)
    (ho : x.atlas.SignaturesOwned) : y.atlas.SignaturesOwned := by
  have key := h.entries hx (P := fun j e => ∀ d, e.details? = some d → ∀ sig ∈ d.allSignatures,
    x.atlas.IsSignatureOf sig j Kind.someSignature) ?_ ?_ ?_ ?_ ?_
  · intro d details hd sig hsig
    obtain ⟨e, he, hed⟩ := Option.bind_eq_some_iff.1 hd
    exact (h.grows hx).isSignatureOf (key d e he details hed sig hsig)
  · exact fun j e he d hd => ho j d (by rw [Atlas.details?, he]; exact hd)
  · intro j e hb d hd sig hsig
    obtain ⟨name, kind, flags, comment, parent, body⟩ := e
    cases body <;> simp_all [Entry.IsBlank, Entry.details?]
    simp [← hd, Details.allSignatures] at hsig
  · intro j e d hb hd d' hd' sig hsig
    rw [Entry.details?, hb, Option.some.injEq] at hd'
    rw [← hd', hd] at hsig
    cases hsig
  · intro j e f hP d hd
    refine hP d ?_
    rw [← hd]
    obtain ⟨name, kind, flags, comment, parent, body⟩ := e
    cases body <;> rfl
  · intro e e' he hc d hd sig hsig
    rcases hc.mem_allSignatures hd hsig with ⟨d₀, hd₀, hmem⟩ | hs
    · exact ho i d₀ (by rw [Atlas.details?, he]; exact hd₀) sig hmem
    · exact hs

/-! ## Types -/

/-- Whether no reference inside the types of an entry has a target yet. -/
def Entry.IsOpen (e : Entry) : Prop :=
  Ty.AllOpen e.ownTypes

/-- A change gives an entry only types without targets. -/
theorem Entry.Change.isOpen {a : Atlas} {e e' : Entry} (h : e.Change a i e') (ho : e.IsOpen) :
    e'.IsOpen := by
  have hto : ∀ {t : Option Ty}, (∀ u ∈ t, u.IsOpen) → Ty.AllOpen t.toList :=
    Ty.allOpen_toList.2
  cases h with
  | same | merge | recast => exact ho
  | details m d d' hb hc =>
    rw [IsOpen, ownTypes, hb, Ty.allOpen_append, Ty.allOpen_append] at ho
    obtain ⟨⟨htype, hextended⟩, himplemented⟩ := ho
    rw [IsOpen, ownTypes, Ty.allOpen_append, Ty.allOpen_append]
    cases hc with
    | type t ht => exact ⟨⟨hto ht, hextended⟩, himplemented⟩
    | extended ts ht hk =>
      exact ⟨⟨htype, Ty.allOpen_append.2 ⟨hextended, ht⟩⟩, himplemented⟩
    | implemented ts ht hk =>
      exact ⟨⟨htype, hextended⟩, Ty.allOpen_append.2 ⟨himplemented, ht⟩⟩
    | _ => exact ⟨⟨htype, hextended⟩, himplemented⟩
  | parameters s p hb hp | typeParameters s p hb hp =>
    rw [IsOpen, ownTypes, hb] at ho
    exact ho
  | result s t hb ht => exact hto ht
  | parameter t t' v v' hb ht => exact hto ht
  | typeParameter l l' s s' hb hl hs => exact Ty.allOpen_append.2 ⟨hto hl, hto hs⟩

/-- After an edit no reference has a target, if none had one before. -/
theorem Edit.isOpen (h : Edit i x y) (hx : x.atlas.Identified)
    (ho : ∀ j e, x.atlas.get? j = some e → e.IsOpen) :
    ∀ j e, y.atlas.get? j = some e → e.IsOpen := by
  refine h.entries hx ho ?_ ?_ ?_ fun e e' he hc => hc.isOpen (ho i e he)
  · intro j e hb
    obtain ⟨name, kind, flags, comment, parent, body⟩ := e
    cases body <;> simp_all [Entry.IsBlank, Entry.IsOpen, Entry.ownTypes, Ty.AllOpen]
  · intro j e d hb hd
    rw [Entry.IsOpen, Entry.ownTypes, hb, hd]
    exact List.forall_mem_nil _
  · intro j e f hP
    obtain ⟨name, kind, flags, comment, parent, body⟩ := e
    cases body <;> exact hP

/-! ## Origins and heritage -/

/-- Details with the same origin that extend at least as much. -/
structure Details.Grows (d d' : Details) : Prop where
  origin : d'.origin = d.origin
  extended : d.extended <+: d'.extended

/-- Details that do not change have grown. -/
theorem Details.Grows.refl (d : Details) : d.Grows d :=
  ⟨rfl, List.prefix_rfl⟩

/-- Details that have grown twice have grown. -/
theorem Details.Grows.trans {d d' d'' : Details} (h : d.Grows d') (h' : d'.Grows d'') :
    d.Grows d'' :=
  ⟨h'.origin.trans h.origin, h.extended.trans h'.extended⟩

/-- In a change of an entry the details of a declaration grow. -/
theorem Details.Change.grows {a : Atlas} {kind : Kind} {d d' : Details}
    (h : d.Change a i kind d') : d.Grows d' := by
  cases h with
  | extended ts => exact ⟨rfl, List.prefix_append _ ts⟩
  | _ => exact ⟨rfl, List.prefix_rfl⟩

/-- A changed entry still has details, and they have grown. -/
theorem Entry.Change.details_grow {a : Atlas} {e e' : Entry} (h : e.Change a i e') {d : Details}
    (hd : e.details? = some d) : ∃ d', e'.details? = some d' ∧ d.Grows d' := by
  cases h with
  | same | merge | recast => exact ⟨d, hd, .refl d⟩
  | details m d₀ d' hb hc =>
    rw [details?, hb] at hd
    obtain rfl : d₀ = d := Option.some.inj hd
    exact ⟨d', rfl, hc.grows⟩
  | parameters s p hb | typeParameters s p hb | result s t hb | parameter t t' v v' hb
  | typeParameter l l' s s' hb =>
    rw [details?, hb] at hd
    cases hd

/-- Whether the declarations of an atlas have grown in another one. -/
def Atlas.DetailsGrow (a b : Atlas) : Prop :=
  ∀ j d, a.details? j = some d → ∃ d', b.details? j = some d' ∧ d.Grows d'

/-- In an atlas that does not change, all details have grown. -/
theorem Atlas.DetailsGrow.refl (a : Atlas) : a.DetailsGrow a :=
  fun _ d hd => ⟨d, hd, .refl d⟩

/-- Details that grow in two steps grow in both together. -/
theorem Atlas.DetailsGrow.trans {a b c : Atlas} (h : a.DetailsGrow b) (h' : b.DetailsGrow c) :
    a.DetailsGrow c := by
  intro j d hd
  obtain ⟨d', hd', hgrows⟩ := h j d hd
  obtain ⟨d'', hd'', hgrows'⟩ := h' j d' hd'
  exact ⟨d'', hd'', hgrows.trans hgrows'⟩

/-- In an edit all details grow. -/
theorem Edit.details_grow (h : Edit i x y) (hx : x.atlas.Identified) :
    x.atlas.DetailsGrow y.atlas := by
  intro j d hd
  obtain ⟨e, he, hed⟩ := Option.bind_eq_some_iff.1 hd
  have hlt := Atlas.get?_lt he
  cases h with
  | report | files => exact ⟨d, hd, .refl d⟩
  | add e' => exact ⟨d, by rw [Atlas.details?, Atlas.get?_add_of_lt e' hlt, he]; exact hed, .refl d⟩
  | enter e' d' s hb hd' hs hk hi =>
    have hget := Atlas.get?_enter e' (some s) hi.lt (hx.size_notMem_childrenOf i) j
    rw [if_neg (Nat.ne_of_lt hlt), he] at hget
    refine ⟨d, ?_, .refl d⟩
    rw [Atlas.details?, hget]
    split
    · obtain ⟨name, kind, flags, comment, parent, body⟩ := e
      cases body <;> exact hed
    · exact hed
  | change f hf =>
    dsimp only
    rw [Atlas.details?]
    by_cases hji : j = i
    · subst hji
      rw [Atlas.get?_modify_self f he]
      exact (hf e he).details_grow hed
    · rw [Atlas.get?_modify_of_ne f hji, he]
      exact ⟨d, hed, .refl d⟩

/-- Along a run, what is known about declarations only grows. -/
theorem Conv.Runs.details_grow {α : Type} {c : Conv α} {A : EntryId → Prop}
    {Q : α → Draft → Prop} (h : c.Runs x A Q) (hx : x.atlas.Identified) :
    x.atlas.DetailsGrow (c.run x).2.atlas := by
  refine h.keeps (I := fun y => x.atlas.DetailsGrow y.atlas) hx (.refl _) ?_
  intro i y z _ hy hxy he
  exact hxy.trans (he.details_grow hy)

/-! ## The whole conversion -/

/-- What the project by itself satisfies, an atlas that only has the project does. -/
theorem Atlas.forall_create {P : EntryId → Entry → Prop} (name : String)
    (h : P root { name := name, kind := .project, body := .project {} }) :
    ∀ j e, (create name).get? j = some e → P j e := by
  intro j e he
  obtain rfl : j = root := Nat.lt_one_iff.1 (get?_lt he)
  obtain rfl := Option.some.inj he
  exact h

/-- In every draft that conversion passes, signatures belong to the declarations that list them
and types have no targets. -/
theorem states_kept {settings : Settings} {files : List Source.File} :
    ∀ y ∈ Draft.states settings files,
      y.atlas.SignaturesOwned ∧ ∀ j e, y.atlas.get? j = some e → e.IsOpen := by
  have start : (Draft.start settings).atlas.SignaturesOwned ∧
      ∀ j e, (Draft.start settings).atlas.get? j = some e → e.IsOpen := by
    have hproject := Atlas.forall_create (P := fun _ e => e.details? = none ∧ e.IsOpen)
      settings.name ⟨rfl, List.forall_mem_nil _⟩
    refine ⟨fun d details hd => ?_, fun j e he => (hproject j e he).2⟩
    obtain ⟨e, he, hed⟩ := Option.bind_eq_some_iff.1 hd
    rw [(hproject d e he).1] at hed
    cases hed
  intro y hy
  refine (states_always (I := fun y => y.atlas.SignaturesOwned ∧
    ∀ j e, y.atlas.get? j = some e → e.IsOpen) start ?_ y hy).2
  rintro i x z he hx ⟨howned, hopen⟩
  exact ⟨he.signaturesOwned hx howned, he.isOpen hx hopen⟩

end ApiAtlas
