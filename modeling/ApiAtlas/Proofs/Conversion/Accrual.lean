import ApiAtlas.Proofs.Conversion.LawWalk
import ApiAtlas.Proofs.Conversion.Identity

/-!
# Accrual

Converting more files only adds. An entry that is there keeps its name, its parent and its symbol;
its lists are extended at the end, its flags are kept among more, and what it has only one of stays
once it is set. The kind alone may be another one, and only that of a declaration. This is a law
of conversion, so it holds from any draft on; the main statement splits a program at any file.
-/

set_option autoImplicit false

namespace ApiAtlas

/-- Whether what was set is still the same. -/
def Stays {α : Type} (o o' : Option α) : Prop :=
  ∀ v, o = some v → o' = some v

/-- Whether children were only added, in order and under each name. -/
structure Members.Accrues (m m' : Members) : Prop where
  ids : m.ids <+: m'.ids
  byName : ∀ name bucket, m.byName.get? name = some bucket →
    ∃ bucket', m'.byName.get? name = some bucket' ∧ bucket <+: bucket'

/-- Whether details only became more. -/
structure Details.Accrues (d d' : Details) : Prop where
  symbol : d'.symbol = d.symbol
  origin : d'.origin = d.origin
  typeParameters : d.typeParameters <+: d'.typeParameters
  signatures : d.signatures <+: d'.signatures
  extended : d.extended <+: d'.extended
  implemented : d.implemented <+: d'.implemented
  sources : d.sources <+: d'.sources
  type : Stays d.type d'.type
  indexSignature : Stays d.indexSignature d'.indexSignature
  getSignature : Stays d.getSignature d'.getSignature
  setSignature : Stays d.setSignature d'.setSignature
  defaultValue : Stays d.defaultValue d'.defaultValue

/-- Whether a signature only got more parameters and type parameters. -/
structure Shape.Accrues (s s' : Shape) : Prop where
  parameters : s.parameters <+: s'.parameters
  typeParameters : s.typeParameters <+: s'.typeParameters
  type : Stays s.type s'.type

/-- Whether a body is of the same form and only became more. -/
inductive Body.Accrues : Body → Body → Prop
  | plain : Accrues .plain .plain
  | container {m m' : Members} (hm : m.Accrues m') : Accrues (.container m) (.container m')
  | declaration {m m' : Members} {d d' : Details} (hm : m.Accrues m') (hd : d.Accrues d') :
    Accrues (.declaration m d) (.declaration m' d')
  | signature {s s' : Shape} (hs : s.Accrues s') : Accrues (.signature s) (.signature s')
  | parameter {t t' : Option Ty} {v v' : Option String} (ht : Stays t t') (hv : Stays v v') :
    Accrues (.parameter t v) (.parameter t' v')
  | typeParameter {t t' u u' : Option Ty} (ht : Stays t t') (hu : Stays u u') :
    Accrues (.typeParameter t u) (.typeParameter t' u')
  | project {m m' : Members} (hm : m.Accrues m') : Accrues (.project m) (.project m')

/-- Whether an entry only became more. -/
structure Entry.Accrues (e e' : Entry) : Prop where
  name : e'.name = e.name
  parent : e'.parent = e.parent
  kind : e.isDeclaration = false → e'.kind = e.kind
  flags : e.flags.inter e'.flags = e.flags
  comment : Stays e.comment e'.comment
  body : e.body.Accrues e'.body

/-- Whether every entry of an atlas is in another one and only became more, and every symbol is
still registered for the same entry. -/
structure Atlas.Accrues (a b : Atlas) : Prop where
  entries : ∀ i e, a.get? i = some e → ∃ e', b.get? i = some e' ∧ e.Accrues e'
  symbols : ∀ symbol i, a.lookup symbol = some i → b.lookup symbol = some i

/-! ## What is accrued -/

section Stays

variable {α : Type} {o o' o'' : Option α}

/-- What does not change stays. -/
theorem Stays.refl (o : Option α) : Stays o o :=
  fun _ h => h

/-- What is only set where nothing was set before stays. -/
theorem Stays.or (h : Stays o o') (v : Option α) : Stays o (o'.or v) := by
  intro w hw
  rw [h w hw, Option.some_or]

/-- What is known to be free at an earlier time was not set before that time. -/
theorem Stays.of_free (h : Stays o o') (hfree : o' = none) : Stays o o'' := by
  intro v hv
  cases (h v hv).symm.trans hfree

end Stays

/-- Members that do not change accrue. -/
theorem Members.Accrues.refl (m : Members) : m.Accrues m :=
  ⟨List.prefix_rfl, fun _ bucket h => ⟨bucket, h, List.prefix_rfl⟩⟩

/-- Members accrue when a child is added. -/
theorem Members.Accrues.insert {m m' : Members} (h : m.Accrues m') (name : String)
    (id : EntryId) : m.Accrues (m'.insert name id) := by
  refine ⟨h.ids.trans (List.prefix_append _ _), fun key bucket hb => ?_⟩
  obtain ⟨bucket', hb', hprefix⟩ := h.byName key bucket hb
  by_cases hkey : key = name
  · subst hkey
    refine ⟨bucket' ++ [id], ?_, hprefix.trans (List.prefix_append _ _)⟩
    simp [Members.insert, hb']
  · exact ⟨bucket', (Table.get?_put_of_ne _ _ hkey).trans hb', hprefix⟩

namespace Details.Accrues

variable {seen : Atlas} {id : EntryId} {d₀ d₁ d d' : Details}

/-- Details that do not change accrue. -/
theorem refl (d : Details) : d.Accrues d := by
  constructor <;> first | rfl | exact List.prefix_rfl | exact Stays.refl _

/-- Details that only became more still do so after an amendment, if they did when it began. -/
theorem amend (h : d₀.Accrues d) (hseen : seen.details? id = some d₁) (h₁ : d₀.Accrues d₁)
    (ha : d.Amendment seen id d') : d₀.Accrues d' := by
  cases ha with
  | same => exact h
  | source place => exact { h with sources := h.sources.trans (List.prefix_append _ _) }
  | typeParameter p =>
    exact { h with typeParameters := h.typeParameters.trans (List.prefix_append _ _) }
  | signature sig => exact { h with signatures := h.signatures.trans (List.prefix_append _ _) }
  | indexSignature sig hfree =>
    exact { h with indexSignature := h₁.indexSignature.of_free (hfree d₁ hseen) }
  | getSignature sig hfree =>
    exact { h with getSignature := h₁.getSignature.of_free (hfree d₁ hseen) }
  | setSignature sig hfree =>
    exact { h with setSignature := h₁.setSignature.of_free (hfree d₁ hseen) }
  | type t hfree => exact { h with type := h₁.type.of_free (hfree d₁ hseen) }
  | defaultValue v => exact { h with defaultValue := h.defaultValue.or v }
  | extended ts => exact { h with extended := h.extended.trans (List.prefix_append _ _) }
  | implemented ts => exact { h with implemented := h.implemented.trans (List.prefix_append _ _) }

end Details.Accrues

/-- A signature that does not change accrues. -/
theorem Shape.Accrues.refl (s : Shape) : s.Accrues s :=
  ⟨List.prefix_rfl, List.prefix_rfl, .refl _⟩

/-- A body that does not change accrues. -/
theorem Body.Accrues.refl (b : Body) : b.Accrues b := by
  cases b with
  | plain => exact .plain
  | container m => exact .container (.refl m)
  | declaration m d => exact .declaration (.refl m) (.refl d)
  | signature s => exact .signature (.refl s)
  | parameter => exact .parameter (.refl _) (.refl _)
  | typeParameter => exact .typeParameter (.refl _) (.refl _)
  | project m => exact .project (.refl m)

/-- What became a declaration or a signature was one. -/
theorem Body.Accrues.of_declaration {b : Body} {m : Members} {d : Details}
    (h : b.Accrues (.declaration m d)) :
    ∃ m₀ d₀, b = .declaration m₀ d₀ ∧ m₀.Accrues m ∧ d₀.Accrues d := by
  cases h with
  | declaration hm hd => exact ⟨_, _, rfl, hm, hd⟩

/-- A body that becomes a signature was a signature with less. -/
theorem Body.Accrues.of_signature {b : Body} {s : Shape} (h : b.Accrues (.signature s)) :
    ∃ s₀, b = .signature s₀ ∧ s₀.Accrues s := by
  cases h with
  | signature hs => exact ⟨_, rfl, hs⟩

/-- What was a declaration still is one. -/
theorem Body.Accrues.exists_declaration {b : Body} {m : Members} {d : Details}
    (h : (Body.declaration m d).Accrues b) : ∃ m' d', b = .declaration m' d' ∧ d.Accrues d' := by
  cases h with
  | declaration hm hd => exact ⟨_, _, rfl, hd⟩

/-! ## Flags -/

/-- The flags that two equal sets share are all of them. -/
theorem Flags.inter_self (a : Flags) : a.inter a = a :=
  congrArg Flags.mk (Nat.and_self a.bits)

/-- Flags that are kept are kept among more of them. -/
theorem Flags.inter_union {a b : Flags} (h : a.inter b = a) (c : Flags) :
    a.inter (b.union c) = a := by
  have hab : a.bits &&& b.bits = a.bits := congrArg Flags.bits h
  refine congrArg Flags.mk (Nat.eq_of_testBit_eq fun n => ?_)
  have hn := congrArg (Nat.testBit · n) hab
  simp only [Flags.union, Nat.testBit_and, Nat.testBit_or] at hn ⊢
  cases ha : a.bits.testBit n <;> simp_all

/-! ## Entries -/

namespace Entry

variable {seen : Atlas} {id : EntryId} {e₀ e₁ e e' : Entry}

/-- An entry that does not change accrues. -/
theorem Accrues.refl (e : Entry) : e.Accrues e :=
  ⟨rfl, rfl, fun _ => rfl, e.flags.inter_self, .refl _, .refl _⟩

/-- Accruing makes an entry no declaration, and no declaration something else. -/
theorem Accrues.isDeclaration (h : e.Accrues e') : e'.isDeclaration = e.isDeclaration := by
  obtain ⟨name, kind, flags, comment, parent, body⟩ := e
  obtain ⟨name', kind', flags', comment', parent', body'⟩ := e'
  cases h.body <;> rfl

/-- An entry with another child still only became more. -/
theorem Accrues.insert (h : e₀.Accrues e) (name : String) (id : EntryId) :
    e₀.Accrues (e.mapMembers fun m => m.insert name id) := by
  have hbody := h.body
  obtain ⟨name₀, kind₀, flags₀, comment₀, parent₀, body₀⟩ := e₀
  obtain ⟨name', kind, flags, comment, parent, body⟩ := e
  cases hbody with
  | container hm => exact { h with body := .container (hm.insert name id) }
  | declaration hm hd => exact { h with body := .declaration (hm.insert name id) hd }
  | project hm => exact { h with body := .project (hm.insert name id) }
  | plain | signature | parameter | typeParameter => exact h

/-- A declaration may be given another kind. -/
theorem Accrues.recast (h : e₀.Accrues e) (hd : e.isDeclaration = true) (kind : Kind) :
    e₀.Accrues { e with kind := kind } :=
  { h with
    kind := fun hd₀ => by
      rw [h.isDeclaration, hd₀] at hd
      cases hd }

/-- An entry that only became more still does so after an amendment, if it did when the amendment
began. An entry that was there then is not filled as a whole. -/
theorem Accrues.amend (h : e₀.Accrues e) (hseen : seen.get? id = some e₁) (h₁ : e₀.Accrues e₁)
    (ha : e.Amendment seen id e') : e₀.Accrues e' := by
  cases ha with
  | same => exact h
  | merge flags comment =>
    exact { h with flags := Flags.inter_union h.flags flags, comment := h.comment.or comment }
  | details m d d' hb had =>
    obtain ⟨m₀, d₀, hb₀, hm, hd⟩ := Body.Accrues.of_declaration (hb ▸ h.body)
    obtain ⟨m₁, d₁, hb₁, hd₁⟩ := Body.Accrues.exists_declaration (hb₀ ▸ h₁.body)
    have hdetails : seen.details? id = some d₁ := by
      rw [Atlas.details?, hseen, Option.bind_some, details?, hb₁]
    exact { h with body := hb₀ ▸ .declaration hm (hd.amend hdetails hd₁ had) }
  | parameter s p hb =>
    obtain ⟨s₀, hb₀, hs⟩ := Body.Accrues.of_signature (hb ▸ h.body)
    have hmore : s₀.Accrues { s with parameters := s.parameters ++ [p] } :=
      { hs with parameters := hs.parameters.trans (List.prefix_append _ _) }
    exact { h with body := hb₀ ▸ .signature hmore }
  | typeParameter s p hb =>
    obtain ⟨s₀, hb₀, hs⟩ := Body.Accrues.of_signature (hb ▸ h.body)
    have hmore : s₀.Accrues { s with typeParameters := s.typeParameters ++ [p] } :=
      { hs with typeParameters := hs.typeParameters.trans (List.prefix_append _ _) }
    exact { h with body := hb₀ ▸ .signature hmore }
  | fill body hnew hb => exact absurd (Atlas.get?_lt hseen) (Nat.not_lt.2 hnew)

end Entry

/-! ## Atlases -/

namespace Atlas

variable {Fits : Atlas → EntryId → Source.Decl → Prop} {a₀ seen a b : Atlas}

/-- An atlas that does not change accrues. -/
theorem Accrues.refl (a : Atlas) : a.Accrues a :=
  ⟨fun _ e he => ⟨e, he, .refl e⟩, fun _ _ h => h⟩

/-- What only became more does so still after an amendment. -/
theorem Accrues.amend (hseen : a₀.Accrues seen) (h : a₀.Accrues a) (ha : a.Amendment Fits seen b) :
    a₀.Accrues b := by
  refine ⟨fun i e₀ he₀ => ?_, fun symbol i hi => ha.lookup_eq (h.symbols symbol i hi)⟩
  obtain ⟨e, he, hacc⟩ := h.entries i e₀ he₀
  cases ha with
  | add e' => exact ⟨e, (get?_add_of_lt e' (get?_lt he)).trans he, hacc⟩
  | enter scope e' d s hsym hfree hfits hscope hnew =>
    have hget := get?_enter e' d.symbol hscope hnew i
    rw [if_neg (Nat.ne_of_lt (get?_lt he)), he] at hget
    split at hget
    · exact ⟨_, hget, hacc.insert _ _⟩
    · exact ⟨e, hget, hacc⟩
  | recast id scope d kind hid hdecl =>
    by_cases hi : i = id
    · subst hi
      refine ⟨_, get?_modify_self _ he, hacc.recast ?_ kind⟩
      rwa [isDeclaration_eq he] at hdecl
    · exact ⟨e, (get?_modify_of_ne _ hi).trans he, hacc⟩
  | change id f hf =>
    by_cases hi : i = id
    · subst hi
      obtain ⟨e₁, he₁, hacc₁⟩ := hseen.entries i e₀ he₀
      exact ⟨_, get?_modify_self f he, hacc.amend he₁ hacc₁ (hf e he)⟩
    · exact ⟨e, (get?_modify_of_ne f hi).trans he, hacc⟩
  | files t => exact ⟨e, he, hacc⟩

end Atlas

/-- Everything in an atlas is kept and only becomes more. -/
def Law.accrual (a : Atlas) : Law where
  Holds := a.Accrues
  Fits _ _ _ := True
  Inside _ := True
  amend := Atlas.Accrues.amend
  grow _ h := h
  inside _ := trivial
  child _ _ _ _ _ := trivial

/-- Converting files one after the other can be stopped at any of them. -/
theorem Draft.ofFiles_append (settings : Settings) (first rest : List Source.File) :
    ofFiles settings (first ++ rest) =
      ((Conv.convertFiles settings rest).run (ofFiles settings first)).2 := by
  have key : ∀ x, ((Conv.convertFiles settings (first ++ rest)).run x).2 =
      ((Conv.convertFiles settings rest).run
        ((Conv.convertFiles settings first).run x).2).2 := by
    induction first with
    | nil => exact fun _ => rfl
    | cons f first ih => exact fun x => ih ((Conv.convertFile settings f).run x).2
  exact key (start settings)

/-- Converting more files keeps all that earlier files contributed. -/
theorem ofFiles_append_accrues (settings : Settings) (first rest : List Source.File) :
    (Draft.ofFiles settings first).atlas.Accrues
      (Draft.ofFiles settings (first ++ rest)).atlas := by
  have hid := (states_identified _ (ofFiles_mem_states settings first)).1
  have hobeyed : (Law.accrual (Draft.ofFiles settings first).atlas).Obeyed
      (Draft.ofFiles settings first) := ⟨.refl _, hid.children⟩
  rw [Draft.ofFiles_append]
  exact Conv.convertFiles_holds hobeyed (fun a scope d => trivial) fun d => trivial

end ApiAtlas
