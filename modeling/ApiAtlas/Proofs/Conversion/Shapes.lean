import ApiAtlas.Proofs.Conversion.Kept
import ApiAtlas.Proofs.Resolution.Outcome

/-!
# The shapes of declarations

There are two shapes of declarations. Accessors, and the constants that accessors can be turned
into, have a type, a get and a set signature; all others have children, overloads, an index
signature, type parameters and heritage. An edit keeps the shape of every declaration
(`Edit.shaped`) and never turns one shape into the other, so neither does a whole conversion,
however the declarations of a symbol contradict each other (`states_shaped`).
-/

set_option autoImplicit false

namespace ApiAtlas

/-- A basic kind is in the group of accessors only if it is one of its members. -/
theorem Kind.isIn_accessorLike_iff {k : Kind} (hk : k.IsBasic) :
    k.isIn accessorLike = true ↔ k ∈ accessorLike := by
  have key : ∀ k ∈ table.map (·.1), k.isIn accessorLike = true ↔ k ∈ accessorLike := by decide
  exact key k hk

/-! ## Shapes -/

/-- The details of a declaration have the shape of its kind, and its signatures belong to it. -/
structure Details.IsShaped (a : Atlas) (i : EntryId) (kind : Kind) (d : Details) : Prop where
  basic : kind.IsBasic
  /-- Accessors have nothing but a type and their own two signatures. -/
  accessor : kind ∈ Kind.accessorLike → d.signatures = [] ∧ d.indexSignature = none ∧
    d.typeParameters = [] ∧ d.extended = [] ∧ d.implemented = []
  /-- Others do not have these two. -/
  other : kind ∉ Kind.accessorLike → d.getSignature = none ∧ d.setSignature = none
  signatures : ∀ sig ∈ d.signatures,
    a.IsSignatureOf sig i [.callSignature, .constructorSignature]
  indexSignature : ∀ sig ∈ d.indexSignature, a.IsSignatureOf sig i [.indexSignature]
  getSignature : ∀ sig ∈ d.getSignature, a.IsSignatureOf sig i [.getSignature]
  setSignature : ∀ sig ∈ d.setSignature, a.IsSignatureOf sig i [.setSignature]

/-- A declaration has the shape of its kind; accessors have no children. -/
def Entry.IsShaped (a : Atlas) (i : EntryId) (e : Entry) : Prop :=
  ∀ m d, e.body = .declaration m d →
    (e.kind ∈ Kind.accessorLike → m.ids = []) ∧ d.IsShaped a i e.kind

/-- Every declaration has the shape of its kind. -/
def Atlas.Shaped (a : Atlas) : Prop :=
  ∀ i e, a.get? i = some e → e.IsShaped a i

/-- The declarations of an atlas are declarations of another one too, and as accessors there exactly
if they already were. -/
def Atlas.KeepsAccessors (a b : Atlas) : Prop :=
  ∀ i e, a.get? i = some e → e.isDeclaration = true →
    ∃ e', b.get? i = some e' ∧ e'.isDeclaration = true ∧
      (e'.kind ∈ Kind.accessorLike ↔ e.kind ∈ Kind.accessorLike)

section

variable {a b : Atlas} {i : EntryId} {e e' : Entry} {kind : Kind} {d d' : Details}

/-- Details have the shape of their kind still in an extension. -/
theorem Details.IsShaped.grow (h : d.IsShaped a i kind) (hab : a.Extends b) :
    d.IsShaped b i kind where
  basic := h.basic
  accessor := h.accessor
  other := h.other
  signatures sig hsig := hab.isSignatureOf (h.signatures sig hsig)
  indexSignature sig hsig := hab.isSignatureOf (h.indexSignature sig hsig)
  getSignature sig hsig := hab.isSignatureOf (h.getSignature sig hsig)
  setSignature sig hsig := hab.isSignatureOf (h.setSignature sig hsig)

/-- An entry has the shape of its kind still in an extension. -/
theorem Entry.IsShaped.grow (h : e.IsShaped a i) (hab : a.Extends b) : e.IsShaped b i :=
  fun m d hb => ⟨(h m d hb).1, (h m d hb).2.grow hab⟩

/-- Details without anything but types and sources have both shapes. -/
theorem Details.isShaped_of_bare (hk : kind.IsBasic)
    (hd : d = { symbol := d.symbol, origin := d.origin }) : d.IsShaped a i kind := by
  rw [hd]
  exact {
    basic := hk
    accessor := fun _ => ⟨rfl, rfl, rfl, rfl, rfl⟩
    other := fun _ => ⟨rfl, rfl⟩
    signatures := nofun
    indexSignature := nofun
    getSignature := nofun
    setSignature := nofun }

/-- What is no declaration has the shape of its kind. -/
theorem Entry.isShaped_of_not_declaration (h : e.isDeclaration = false) : e.IsShaped a i := by
  intro m d hb
  rw [isDeclaration, details?, hb] at h
  cases h

/-- In another kind of the same shape, details are shaped as before. -/
theorem Details.IsShaped.recast (h : d.IsShaped a i kind) {kind' : Kind} (hk : kind'.IsBasic)
    (hsame : kind' ∈ Kind.accessorLike ↔ kind ∈ Kind.accessorLike) : d.IsShaped a i kind' :=
  { h with
    basic := hk
    accessor := fun hmem => h.accessor (hsame.1 hmem)
    other := fun hmem => h.other (mt hsame.2 hmem) }

/-- A change of details keeps their shape: what it adds, its kind has room for. -/
theorem Details.Change.isShaped (hc : d.Change a i kind d') (h : d.IsShaped a i kind) :
    d'.IsShaped a i kind := by
  have hiff := Kind.isIn_accessorLike_iff h.basic
  have room : kind.isIn Kind.accessorLike = false → kind ∉ Kind.accessorLike := by
    intro hk hmem
    rw [hiff.2 hmem] at hk
    cases hk
  have only : ∀ {new sig : EntryId} {kinds : List Kind}, a.IsSignatureOf new i kinds →
      sig ∈ some new → a.IsSignatureOf sig i kinds := by
    rintro new sig kinds hnew ⟨⟩
    exact hnew
  cases hc with
  | same | source | type | defaultValue => exact { h with }
  | typeParameter p hp hk | extended ts ht hk | implemented ts ht hk =>
    exact { h with accessor := fun hmem => absurd hmem (room hk) }
  | signature sig hs hk =>
    refine { h with
      accessor := fun hmem => absurd hmem (room hk)
      signatures := fun sig' hsig' => ?_ }
    rcases List.mem_append.1 hsig' with hold | hnew
    · exact h.signatures sig' hold
    · exact List.mem_singleton.1 hnew ▸ hs
  | indexSignature sig hs hk =>
    exact { h with
      accessor := fun hmem => absurd hmem (room hk)
      indexSignature := fun _ hsig' => only hs hsig' }
  | getSignature sig hs hk =>
    exact { h with
      other := fun hmem => absurd (hiff.1 hk) hmem
      getSignature := fun _ hsig' => only hs hsig' }
  | setSignature sig hs hk =>
    exact { h with
      other := fun hmem => absurd (hiff.1 hk) hmem
      setSignature := fun _ hsig' => only hs hsig' }

/-- An entry has the shape of its kind still after a change. -/
theorem Entry.Change.isShaped (hc : e.Change a i e') (h : e.IsShaped a i) : e'.IsShaped a i := by
  cases hc with
  | same | merge => exact h
  | recast kind hn hl hk hbasic =>
    intro m d hb
    obtain ⟨hchildren, hd⟩ := h m d hb
    have hsame : kind ∈ Kind.accessorLike ↔ e.kind ∈ Kind.accessorLike := by
      rw [← Kind.isIn_accessorLike_iff hbasic, ← Kind.isIn_accessorLike_iff hd.basic, hk]
    exact ⟨fun hmem => hchildren (hsame.1 hmem), hd.recast hbasic hsame⟩
  | details m₀ d₀ d' hb hc =>
    rintro m d ⟨⟩
    exact ⟨(h m₀ d₀ hb).1, hc.isShaped (h m₀ d₀ hb).2⟩
  | parameters | typeParameters | result | parameter | typeParameter =>
    exact isShaped_of_not_declaration rfl

/-! ## Keeping shapes -/

/-- An entry that can host a child may get one. -/
theorem Entry.IsShaped.mapMembers (h : e.IsShaped a i) (he : a.get? i = some e) (hi : a.Hosts i)
    (f : Members → Members) : (e.mapMembers f).IsShaped a i := by
  obtain ⟨e', he', -, hk⟩ := hi
  obtain rfl : e = e' := Option.some.inj (he.symm.trans he')
  obtain ⟨name, kind, flags, comment, parent, body⟩ := e
  cases body with
  | declaration m₀ d₀ =>
    rintro m d ⟨⟩
    obtain ⟨-, hd⟩ := h m₀ d₀ rfl
    refine ⟨fun hmem => ?_, hd⟩
    rw [(Kind.isIn_accessorLike_iff hd.basic).2 hmem] at hk
    cases hk
  | _ => exact Entry.isShaped_of_not_declaration rfl

/-- An edit keeps all shapes. -/
theorem Edit.shaped {x y : Draft} (h : Edit i x y) (hx : x.atlas.Identified)
    (hs : x.atlas.Shaped) : y.atlas.Shaped := by
  have key : ∀ j e, y.atlas.get? j = some e → e.IsShaped x.atlas j := by
    refine h.entries_of_hosts hx hs ?_ ?_ ?_ fun e e' he hc => hc.isShaped (hs i e he)
    · intro j e hblank m d hb
      unfold Entry.IsBlank at hblank
      rw [hb] at hblank
      obtain ⟨rfl, rfl, hk⟩ := hblank
      exact ⟨fun _ => rfl, Details.isShaped_of_bare (by rw [hk]; decide) rfl⟩
    · intro j e d hb hd hk m d' hb'
      rw [hb] at hb'
      obtain ⟨rfl, rfl⟩ := Body.declaration.inj hb'
      exact ⟨fun _ => rfl, Details.isShaped_of_bare hk hd⟩
    · exact fun e f he hi hP => hP.mapMembers he hi f
  exact fun j e he => (key j e he).grow (h.grows hx)

/-- Resolution keeps all shapes. -/
theorem Atlas.Resolves.shaped (h : a.Resolves b) (hs : a.Shaped) : b.Shaped := by
  intro i e he
  obtain ⟨e₀, c, he₀, rfl⟩ := h.exists_get? he
  have hshape := (hs i e₀ he₀).grow h.grows
  obtain ⟨name, kind, flags, comment, parent, body⟩ := e₀
  cases body with
  | declaration m₀ d₀ =>
    rintro m d ⟨⟩
    obtain ⟨hchildren, hd⟩ := hshape m₀ d₀ rfl
    refine ⟨hchildren, { hd with accessor := fun hmem => ?_ }⟩
    obtain ⟨hsignatures, hindex, hparams, hextended, himplemented⟩ := hd.accessor hmem
    exact ⟨hsignatures, hindex, hparams, by rw [hextended]; rfl, by rw [himplemented]; rfl⟩
  | _ => exact Entry.isShaped_of_not_declaration rfl

/-- Between atlases of shaped declarations, an extension keeps accessors apart from others. -/
theorem Atlas.Extends.keepsAccessors (h : a.Extends b) (ha : a.Shaped) (hb : b.Shaped) :
    a.KeepsAccessors b := by
  have basic : ∀ {c : Atlas} {j : EntryId} {e : Entry}, c.Shaped → c.get? j = some e →
      e.isDeclaration = true → e.kind.IsBasic := by
    intro c j e hc he hd
    obtain ⟨name, kind, flags, comment, parent, body⟩ := e
    cases body with
    | declaration m d => exact (hc j _ he m d rfl).2.basic
    | _ => cases hd
  intro i e he hd
  obtain ⟨e', he', hkeep⟩ := h i e he
  have hd' := hkeep.isDeclaration.trans hd
  refine ⟨e', he', hd', ?_⟩
  rw [← Kind.isIn_accessorLike_iff (basic ha he hd),
    ← Kind.isIn_accessorLike_iff (basic hb he' hd'), hkeep.accessor]

end

/-! ## The whole conversion -/

section

variable {settings : Settings} {files : List Source.File}

/-- In every draft that conversion passes, declarations have the shape of their kind. -/
theorem shaped_of_mem_states : ∀ y ∈ Draft.states settings files, y.atlas.Shaped := by
  have hstart : (Draft.start settings).atlas.Shaped :=
    Atlas.forall_create settings.name (Entry.isShaped_of_not_declaration rfl)
  have hstep : ∀ i x y, Edit i x y → x.atlas.Identified → x.atlas.Shaped → y.atlas.Shaped :=
    fun i x y he hx hshaped => he.shaped hx hshaped
  exact fun y hy => (states_always hstart hstep y hy).2

/-- The drafts of a conversion follow from each other by edits. -/
theorem states_isChain : (Draft.states settings files).IsChain (Draft.Moves fun _ => True) :=
  (Conv.convertFiles_runs (Draft.start_identified settings)).chain

end

/-- In every draft that conversion passes, and after resolution, declarations have the shape of
their kind. What is an accessor once is one ever after, and nothing else becomes one. -/
theorem states_shaped (settings : Settings) (files : List Source.File) :
    (∀ y ∈ Draft.states settings files, y.atlas.Shaped) ∧
      (Draft.states settings files).Pairwise (fun x y => x.atlas.KeepsAccessors y.atlas) ∧
      ∀ d r, Program.convert settings files = .ok (d, r) →
        r.atlas.Shaped ∧ ∀ y ∈ Draft.states settings files, y.atlas.KeepsAccessors r.atlas := by
  have hstart := Draft.start_identified settings
  have hshaped : ∀ y ∈ Draft.states settings files, y.atlas.Shaped := shaped_of_mem_states
  refine ⟨hshaped, ?_, fun d r hconvert => ?_⟩
  · exact (isChain_pairwise_extends states_isChain hstart).imp_of_mem fun hx hy hxy =>
      hxy.keepsAccessors (hshaped _ hx) (hshaped _ hy)
  · obtain ⟨rfl, hresolves, -⟩ := Program.convert_ok hconvert
    have hr := hresolves.shaped (hshaped _ (ofFiles_mem_states settings files))
    refine ⟨hr, fun y hy => Atlas.Extends.keepsAccessors ?_ (hshaped y hy) hr⟩
    have hlast := isChain_extends_last states_isChain hstart y hy
    rw [← (Conv.convertFiles settings files).ends] at hlast
    exact hlast.trans hresolves.grows

/-- Of a method and a getter with one symbol, the second one is dropped. -/
example :
    let member (kind : Source.DeclKind) : Source.Decl :=
      { kind := kind, name := some "m", symbol := some "C.m" }
    let file (first second : Source.DeclKind) : Source.File :=
      { name := "a.ts",
        decls := [{ kind := .class, name := some "C", symbol := some "C",
                    children := [member first, member second] }] }
    let kindOfBoth (first second : Source.DeclKind) : Option Kind :=
      ((Draft.ofFiles {} [file first second]).atlas.get? 2).map (·.kind)
    kindOfBoth .getAccessor .method = some .accessor ∧
      kindOfBoth .method .getAccessor = some .method := by
  decide +kernel

end ApiAtlas
