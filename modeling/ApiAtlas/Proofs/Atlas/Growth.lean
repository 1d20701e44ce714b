import ApiAtlas.Proofs.Atlas.Lookup

/-!
# Growing atlases

Conversion only adds entries, and what an entry is never changes: its name, its parent, its form
and its symbol (`Entry.Keeps`, `Atlas.Extends`). An atlas whose entries are numbered by age and
whose table of symbols names exactly the declared entries is `Atlas.Identified`. An extension with
the same entries and the same symbols is identified when the atlas before it is.
-/

set_option autoImplicit false

namespace ApiAtlas

/-- What an entry keeps when it is changed. Only the kind of a declaration may be another one, but
neither does an accessor become something else nor something else an accessor. -/
structure Entry.Keeps (e e' : Entry) : Prop where
  name : e'.name = e.name
  parent : e'.parent = e.parent
  form : e'.body.ctorIdx = e.body.ctorIdx
  symbol : e'.symbol? = e.symbol?
  kind : e.isDeclaration = false → e'.kind = e.kind
  accessor : e'.kind.isIn Kind.accessorLike = e.kind.isIn Kind.accessorLike
  literal : e'.kind = .typeLiteral ↔ e.kind = .typeLiteral

namespace Entry.Keeps

variable {e e' e'' : Entry}

/-- An entry keeps what it is. -/
theorem refl (e : Entry) : e.Keeps e :=
  ⟨rfl, rfl, rfl, rfl, fun _ => rfl, rfl, Iff.rfl⟩

/-- What is kept of an entry tells whether it is a declaration. -/
theorem isDeclaration (h : e.Keeps e') : e'.isDeclaration = e.isDeclaration := by
  obtain ⟨_, _, _, _, _, body⟩ := e
  obtain ⟨_, _, _, _, _, body'⟩ := e'
  have hform := h.form
  cases body <;> cases body' <;> first | rfl | simp [Body.ctorIdx] at hform

/-- What is kept of an entry tells whether it has members. -/
theorem isSome_members (h : e.Keeps e') : e'.members?.isSome = e.members?.isSome := by
  obtain ⟨_, _, _, _, _, body⟩ := e
  obtain ⟨_, _, _, _, _, body'⟩ := e'
  have hform := h.form
  cases body <;> cases body' <;> first | rfl | simp [Body.ctorIdx] at hform

/-- What is kept of an entry tells whether it is a signature. -/
theorem isSome_shape (h : e.Keeps e') : e'.shape?.isSome = e.shape?.isSome := by
  obtain ⟨_, _, _, _, _, body⟩ := e
  obtain ⟨_, _, _, _, _, body'⟩ := e'
  have hform := h.form
  cases body <;> cases body' <;> first | rfl | simp [Body.ctorIdx] at hform

/-- What is kept of the project is a project. -/
theorem body_eq_project (h : e.Keeps e') {m : Members} (hb : e.body = .project m) :
    ∃ m', e'.body = .project m' := by
  obtain ⟨_, _, _, _, _, body⟩ := e
  obtain ⟨_, _, _, _, _, body'⟩ := e'
  obtain rfl : body = .project m := hb
  have hform := h.form
  cases body' with
  | project m' => exact ⟨m', rfl⟩
  | _ => simp [Body.ctorIdx] at hform

/-- What is kept twice is kept. -/
theorem trans (h : e.Keeps e') (h' : e'.Keeps e'') : e.Keeps e'' where
  name := h'.name.trans h.name
  parent := h'.parent.trans h.parent
  form := h'.form.trans h.form
  symbol := h'.symbol.trans h.symbol
  kind := fun hd => (h'.kind (h.isDeclaration.trans hd)).trans (h.kind hd)
  accessor := h'.accessor.trans h.accessor
  literal := h'.literal.trans h.literal

/-- What is kept of an entry tells whether it was declared. -/
theorem isNamed_iff (h : e.Keeps e') : e'.IsNamed ↔ e.IsNamed := by
  unfold Entry.IsNamed
  rw [h.isDeclaration, ne_eq, ne_eq, h.literal]

end Entry.Keeps

/-- An entry with another body of the same form keeps what it is, if its symbol is the same. -/
theorem Entry.keeps_body {e : Entry} {b : Body} (hb : b.ctorIdx = e.body.ctorIdx)
    (hs : Entry.symbol? { e with body := b } = e.symbol?) : e.Keeps { e with body := b } :=
  ⟨rfl, rfl, hb, hs, fun _ => rfl, rfl, Iff.rfl⟩

namespace Atlas

variable {a b c : Atlas} {i : EntryId} {e : Entry}

/-- An atlas extends another one when it has all its entries, each with what it keeps. -/
def Extends (a b : Atlas) : Prop :=
  ∀ i e, a.get? i = some e → ∃ e', b.get? i = some e' ∧ e.Keeps e'

namespace Extends

/-- An atlas extends itself. -/
theorem refl (a : Atlas) : a.Extends a :=
  fun _ e h => ⟨e, h, .refl e⟩

/-- An extension of an extension is an extension. -/
theorem trans (h : a.Extends b) (h' : b.Extends c) : a.Extends c := by
  intro i e he
  obtain ⟨e₁, he₁, hk₁⟩ := h i e he
  obtain ⟨e₂, he₂, hk₂⟩ := h' i e₁ he₁
  exact ⟨e₂, he₂, hk₁.trans hk₂⟩

/-- An extension has at least as many entries. -/
theorem size_le (h : a.Extends b) : a.size ≤ b.size := by
  by_contra hlt
  obtain ⟨e, he⟩ := exists_get? (Nat.lt_of_not_le hlt)
  obtain ⟨e', he', -⟩ := h _ e he
  exact Nat.lt_irrefl _ (get?_lt he')

/-- An extension leaves the symbols of old entries. -/
theorem symbolOf_eq (h : a.Extends b) (hi : i < a.size) : b.symbolOf i = a.symbolOf i := by
  obtain ⟨e, he⟩ := exists_get? hi
  obtain ⟨e', he', hk⟩ := h i e he
  rw [Atlas.symbolOf_eq he, Atlas.symbolOf_eq he', hk.symbol]

/-- An extension leaves the parents of old entries. -/
theorem parent?_eq (h : a.Extends b) (hi : i < a.size) : b.parent? i = a.parent? i := by
  obtain ⟨e, he⟩ := exists_get? hi
  obtain ⟨e', he', hk⟩ := h i e he
  rw [Atlas.parent?_eq he, Atlas.parent?_eq he', hk.parent]

/-- An extension leaves the names of old entries. -/
theorem nameOf_eq (h : a.Extends b) (hi : i < a.size) : b.nameOf i = a.nameOf i := by
  obtain ⟨e, he⟩ := exists_get? hi
  obtain ⟨e', he', hk⟩ := h i e he
  rw [Atlas.nameOf_eq he, Atlas.nameOf_eq he', hk.name]

/-- An extension leaves which old entries are declarations. -/
theorem isDeclaration_eq (h : a.Extends b) (hi : i < a.size) :
    b.isDeclaration i = a.isDeclaration i := by
  obtain ⟨e, he⟩ := exists_get? hi
  obtain ⟨e', he', hk⟩ := h i e he
  rw [Atlas.isDeclaration_eq he', Atlas.isDeclaration_eq he, hk.isDeclaration]

end Extends

/-- Every entry but the project has a parent that is older than it. The declared entries are the
ones that the table of symbols names, each under its own symbol. -/
structure Identified (a : Atlas) : Prop where
  project : ∃ e m, a.get? root = some e ∧ e.body = .project m ∧ e.kind = .project ∧ e.parent = none
  older : ∀ i e, a.get? i = some e → i ≠ root → ∃ p, e.parent = some p ∧ p < i
  named : ∀ i e, a.get? i = some e → e.IsNamed →
    ∃ s, e.symbol? = some s ∧ a.symbols.get? s = some i
  registered : ∀ s i, a.symbols.get? s = some i →
    ∃ e, a.get? i = some e ∧ e.IsNamed ∧ e.symbol? = some s
  children : ∀ p c, c ∈ a.childrenOf p → c < a.size
  keys : a.symbols.keys.Nodup

namespace Identified

/-- The parent of an entry is older. -/
theorem parent?_lt (h : a.Identified) {p : EntryId} (hp : a.parent? i = some p) : p < i := by
  obtain ⟨e, he⟩ := exists_get? (Atlas.parent?_lt hp)
  rw [Atlas.parent?_eq he] at hp
  by_cases hi : i = root
  · obtain ⟨e₀, m, he₀, -, -, hnone⟩ := h.project
    subst hi
    rw [he₀, Option.some.injEq] at he
    subst he
    rw [hnone] at hp
    cases hp
  · obtain ⟨q, hq, hlt⟩ := h.older i e he hi
    rw [hp, Option.some.injEq] at hq
    exact hq ▸ hlt

/-- No entry is its own child before it is there. -/
theorem size_notMem_childrenOf (h : a.Identified) (p : EntryId) : a.size ∉ a.childrenOf p :=
  fun hmem => Nat.lt_irrefl _ (h.children p _ hmem)

/-- There is always the project. -/
theorem zero_lt_size (h : a.Identified) : root < a.size := by
  obtain ⟨e, m, he, -⟩ := h.project
  exact get?_lt he

/-- Changing entries without adding any keeps an atlas identified. -/
theorem of_extends (h : a.Identified) (hab : a.Extends b) (hsize : b.size = a.size)
    (hsymbols : b.symbols = a.symbols) (hchildren : ∀ p, b.childrenOf p = a.childrenOf p) :
    b.Identified := by
  have back : ∀ i e', b.get? i = some e' → ∃ e, a.get? i = some e ∧ e.Keeps e' := by
    intro i e' he'
    obtain ⟨e, he⟩ := exists_get? (hsize ▸ get?_lt he')
    obtain ⟨e'', he'', hk⟩ := hab i e he
    rw [he', Option.some.injEq] at he''
    exact ⟨e, he, he'' ▸ hk⟩
  constructor
  case project =>
    obtain ⟨e, m, he, hb, hk, hp⟩ := h.project
    obtain ⟨e', he', hkeep⟩ := hab root e he
    obtain ⟨m', hb'⟩ := hkeep.body_eq_project hb
    have hd : e.isDeclaration = false := by
      simp [Entry.isDeclaration, Entry.details?, hb]
    exact ⟨e', m', he', hb', (hkeep.kind hd).trans hk, hkeep.parent.trans hp⟩
  case older =>
    intro i e' he' hi
    obtain ⟨e, he, hk⟩ := back i e' he'
    rw [hk.parent]
    exact h.older i e he hi
  case named =>
    intro i e' he' hn
    obtain ⟨e, he, hk⟩ := back i e' he'
    rw [hk.symbol, hsymbols]
    exact h.named i e he (hk.isNamed_iff.1 hn)
  case registered =>
    intro s i hs
    rw [hsymbols] at hs
    obtain ⟨e, he, hn, hsym⟩ := h.registered s i hs
    obtain ⟨e', he', hk⟩ := hab i e he
    exact ⟨e', he', hk.isNamed_iff.2 hn, hk.symbol.trans hsym⟩
  case children =>
    intro p c hc
    rw [hsize]
    exact h.children p c (hchildren p ▸ hc)
  case keys =>
    rw [hsymbols]
    exact h.keys

end Identified

end Atlas

end ApiAtlas
