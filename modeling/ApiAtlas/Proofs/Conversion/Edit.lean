import ApiAtlas.Conversion.Convert
import ApiAtlas.Proofs.Atlas.Growth
import ApiAtlas.Proofs.Ty.Parts

/-!
# Edits of a draft

The whole of what one change of a draft can be, as a relation: an entry is added, a declaration is
entered under its symbol, one entry gets something more, or a problem is reported. The facts that
hold whenever a change is made stand in its rule. Every edit leads to an extension
(`Edit.extends`), keeps the atlas identified (`Edit.identified`), and touches a single entry
(`Edit.frame`).
-/

set_option autoImplicit false

namespace ApiAtlas

/-! ## Problems -/

namespace Diagnostic

/-- The report that a symbol belongs to an entry that is no declaration. -/
def BlamesOwner (g : Diagnostic) : Prop :=
  g.code = .mergeConflict ∧
    ∃ symbol owner, g.message = "symbol '" ++ symbol ++ "' already belongs to " ++ owner

/-- The report that a declaration stands where nothing can be declared. -/
def BlamesPlace (g : Diagnostic) : Prop :=
  g.code = .unsupported ∧ ∃ row ∈ Kind.table, ∃ name place,
    g.message = row.2.1 ++ " '" ++ name ++ "' cannot be placed inside " ++ place

/-- What conversion reports: neither of the two, and no unresolved reference. -/
structure IsRoutine (g : Diagnostic) : Prop where
  resolved : g.code ≠ .unresolvedReference
  owner : ¬ g.BlamesOwner
  place : ¬ g.BlamesPlace

end Diagnostic

/-! ## Changes of one entry -/

/-- Whether a kind is one of the basic ones. -/
def Kind.IsBasic (k : Kind) : Prop :=
  k ∈ Kind.table.map (·.1)

instance (k : Kind) : Decidable k.IsBasic :=
  inferInstanceAs (Decidable (k ∈ _))

/-- Whether an entry is a signature of one of some kinds that belongs to an owner. -/
def Atlas.IsSignatureOf (a : Atlas) (id owner : EntryId) (kinds : List Kind) : Prop :=
  ∃ e, a.get? id = some e ∧ e.shape?.isSome = true ∧ e.parent = some owner ∧ e.kind ∈ kinds

/-- What the details of a declaration of some kind can become in one change. Accessors have get
and set signatures and nothing else that holds entries but a type; other declarations have all
the rest. -/
inductive Details.Change (a : Atlas) (id : EntryId) (kind : Kind) (d : Details) : Details → Prop
  | same : Change a id kind d d
  | source (place : SourceRef) :
    Change a id kind d { d with sources := d.sources ++ [place] }
  | typeParameter (p : EntryId) (hp : a.parent? p = some id)
    (hk : kind.isIn Kind.accessorLike = false) :
    Change a id kind d { d with typeParameters := d.typeParameters ++ [p] }
  | signature (sig : EntryId)
    (hs : a.IsSignatureOf sig id [.callSignature, .constructorSignature])
    (hk : kind.isIn Kind.accessorLike = false) :
    Change a id kind d { d with signatures := d.signatures ++ [sig] }
  | indexSignature (sig : EntryId) (hs : a.IsSignatureOf sig id [.indexSignature])
    (hk : kind.isIn Kind.accessorLike = false) :
    Change a id kind d { d with indexSignature := some sig }
  | getSignature (sig : EntryId) (hs : a.IsSignatureOf sig id [.getSignature])
    (hk : kind.isIn Kind.accessorLike = true) :
    Change a id kind d { d with getSignature := some sig }
  | setSignature (sig : EntryId) (hs : a.IsSignatureOf sig id [.setSignature])
    (hk : kind.isIn Kind.accessorLike = true) :
    Change a id kind d { d with setSignature := some sig }
  | type (t : Option Ty) (ht : ∀ u ∈ t, u.IsOpen) :
    Change a id kind d { d with type := t }
  | defaultValue (v : Option String) :
    Change a id kind d { d with defaultValue := v }
  | extended (ts : List Ty) (ht : ∀ t ∈ ts, t.IsOpen)
    (hk : kind.isIn Kind.accessorLike = false) :
    Change a id kind d { d with extended := d.extended ++ ts }
  | implemented (ts : List Ty) (ht : ∀ t ∈ ts, t.IsOpen)
    (hk : kind.isIn Kind.accessorLike = false) :
    Change a id kind d { d with implemented := d.implemented ++ ts }

/-- What an entry can become in one change. -/
inductive Entry.Change (a : Atlas) (id : EntryId) (e : Entry) : Entry → Prop
  | same : Change a id e e
  | merge (flags : Flags) (comment : Option Comment) (hd : e.isDeclaration = true) :
    Change a id e { e with flags := e.flags.union flags, comment := e.comment.or comment }
  | recast (kind : Kind) (hn : e.IsNamed) (hl : kind ≠ .typeLiteral)
    (hk : kind.isIn Kind.accessorLike = e.kind.isIn Kind.accessorLike) (hbasic : kind.IsBasic) :
    Change a id e { e with kind := kind }
  | details (m : Members) (d d' : Details) (hb : e.body = .declaration m d)
    (h : d.Change a id e.kind d') :
    Change a id e { e with body := .declaration m d' }
  | parameters (s : Shape) (p : EntryId) (hb : e.body = .signature s)
    (hp : a.parent? p = some id) :
    Change a id e { e with body := .signature { s with parameters := s.parameters ++ [p] } }
  | typeParameters (s : Shape) (p : EntryId) (hb : e.body = .signature s)
    (hp : a.parent? p = some id) :
    Change a id e
      { e with body := .signature { s with typeParameters := s.typeParameters ++ [p] } }
  | result (s : Shape) (t : Option Ty) (hb : e.body = .signature s) (ht : ∀ u ∈ t, u.IsOpen) :
    Change a id e { e with body := .signature { s with type := t } }
  | parameter (t t' : Option Ty) (v v' : Option String) (hb : e.body = .parameter t v)
    (ht : ∀ u ∈ t', u.IsOpen) :
    Change a id e { e with body := .parameter t' v' }
  | typeParameter (l l' s s' : Option Ty) (hb : e.body = .typeParameter l s)
    (hl : ∀ u ∈ l', u.IsOpen) (hs : ∀ u ∈ s', u.IsOpen) :
    Change a id e { e with body := .typeParameter l' s' }

/-- A change of details leaves the symbol. -/
theorem Details.Change.symbol {a : Atlas} {id : EntryId} {kind : Kind} {d d' : Details}
    (h : d.Change a id kind d') : d'.symbol = d.symbol := by
  cases h <;> rfl

namespace Entry.Change

variable {a : Atlas} {id : EntryId} {e e' : Entry}

/-- A change of an entry keeps what is known of it. -/
theorem keeps (h : e.Change a id e') : e.Keeps e' := by
  cases h with
  | same => exact .refl e
  | merge flags comment hd => exact ⟨rfl, rfl, rfl, rfl, fun _ => rfl, rfl, Iff.rfl⟩
  | recast kind hn hl hk =>
    refine ⟨rfl, rfl, rfl, rfl, fun hd => ?_, hk, ?_⟩
    · rw [hn.1] at hd
      cases hd
    · exact ⟨fun h => absurd h hl, fun h => absurd h hn.2⟩
  | details m d d' hb h =>
    exact keeps_body (by rw [hb]; rfl) (by simp [symbol?, details?, hb, h.symbol])
  | parameters s p hb hp => exact keeps_body (by rw [hb]; rfl) (by simp [symbol?, details?, hb])
  | typeParameters s p hb hp =>
    exact keeps_body (by rw [hb]; rfl) (by simp [symbol?, details?, hb])
  | result s t hb ht => exact keeps_body (by rw [hb]; rfl) (by simp [symbol?, details?, hb])
  | parameter t t' v v' hb ht =>
    exact keeps_body (by rw [hb]; rfl) (by simp [symbol?, details?, hb])
  | typeParameter l l' s s' hb hl hs =>
    exact keeps_body (by rw [hb]; rfl) (by simp [symbol?, details?, hb])

/-- A change of an entry leaves its members. -/
theorem members? (h : e.Change a id e') : e'.members? = e.members? := by
  cases h <;> simp_all [Entry.members?]

end Entry.Change

/-! ## Edits -/

/-- An entry that holds nothing yet; a declaration without symbol is one that is written in place
inside a type. -/
def Entry.IsBlank (e : Entry) : Prop :=
  match e.body with
  | .declaration m d => m = {} ∧ d = {} ∧ e.kind = .typeLiteral
  | .signature s => s = {} ∧ e.kind ∈ Kind.someSignature
  | .parameter type _ => type = none
  | .typeParameter constraint default => constraint = none ∧ default = none
  | _ => False

/-- A blank entry has no members. -/
theorem Entry.IsBlank.members {e : Entry} (h : e.IsBlank) {m : Members}
    (hm : e.members? = some m) : m = {} := by
  obtain ⟨name, kind, flags, comment, parent, body⟩ := e
  cases body <;> simp_all [Entry.IsBlank, Entry.members?]

/-- A blank entry is not a named one. -/
theorem Entry.IsBlank.not_named {e : Entry} (h : e.IsBlank) : ¬e.IsNamed := by
  rintro ⟨hd, hk⟩
  obtain ⟨name, kind, flags, comment, parent, body⟩ := e
  cases body <;> simp_all [Entry.IsBlank, Entry.isDeclaration, Entry.details?]

/-- Whether an entry can get children and signatures: the project and every declaration that is
no accessor. -/
def Atlas.Hosts (a : Atlas) (id : EntryId) : Prop :=
  ∃ e, a.get? id = some e ∧ e.members?.isSome = true ∧ e.kind.isIn Kind.accessorLike = false

/-- What one change of a draft can be, and the entry that it touches. -/
inductive Edit (i : EntryId) (x : Draft) : Draft → Prop
  | report (g : Diagnostic) (hg : g.IsRoutine) :
    Edit i x { x with diagnostics := x.diagnostics.push g }
  | add (e : Entry) (p : EntryId) (hp : e.parent = some p) (hlt : p < x.atlas.size)
    (hb : e.IsBlank) :
    Edit i x { x with atlas := (x.atlas.add e).1 }
  | enter (e : Entry) (d : Details) (s : String) (hb : e.body = .declaration {} d)
    (hd : d = { symbol := some s, origin := d.origin }) (hs : x.atlas.symbols.get? s = none)
    (hk : e.kind ≠ .typeLiteral) (hi : x.atlas.Hosts i) (hbasic : e.kind.IsBasic) :
    Edit i x { x with atlas := (x.atlas.enter i e (some s)).1 }
  | change (f : Entry → Entry)
    (hf : ∀ e, x.atlas.get? i = some e → e.Change x.atlas i (f e)) :
    Edit i x { x with atlas := x.atlas.modify i f }
  | files (t : Table String (List EntryId)) :
    Edit i x { x with atlas := { x.atlas with files := t } }

namespace Atlas

variable {a : Atlas} {i : EntryId}

/-- Adding an entry extends an atlas. -/
theorem extends_add (e : Entry) : a.Extends (a.add e).1 := by
  intro j e' he'
  exact ⟨e', by rw [get?_add_of_lt e (get?_lt he'), he'], .refl e'⟩

/-- A change that keeps what is known of an entry extends the atlas. -/
theorem extends_modify {f : Entry → Entry} (hf : ∀ e, a.get? i = some e → e.Keeps (f e)) :
    a.Extends (a.modify i f) := by
  intro j e he
  by_cases hj : j = i
  · subst hj
    exact ⟨f e, get?_modify_self f he, hf e he⟩
  · exact ⟨e, by rw [get?_modify_of_ne f hj, he], .refl e⟩

/-- A change of members keeps what is known of an entry. -/
theorem keeps_mapMembers (f : Members → Members) (e : Entry) : e.Keeps (e.mapMembers f) := by
  obtain ⟨name, kind, flags, comment, parent, body⟩ := e
  cases body <;> exact ⟨rfl, rfl, rfl, rfl, fun _ => rfl, rfl, Iff.rfl⟩

/-- Entering a symbol extends an atlas. -/
theorem extends_enter (ha : a.Identified) (e : Entry) (s : String) (hi : i < a.size) :
    a.Extends (a.enter i e (some s)).1 := by
  intro j e' he'
  rw [get?_enter e (some s) hi (ha.size_notMem_childrenOf i), if_neg (Nat.ne_of_lt (get?_lt he'))]
  by_cases hj : j = i
  · rw [if_pos hj, he']
    exact ⟨_, rfl, keeps_mapMembers _ _⟩
  · rw [if_neg hj, he']
    exact ⟨e', rfl, .refl e'⟩

/-- What can get children is in the atlas. -/
theorem Hosts.lt (h : a.Hosts i) : i < a.size := by
  obtain ⟨e, he, -⟩ := h
  exact get?_lt he

/-- The project can get children. -/
theorem Identified.hosts_root (h : a.Identified) : a.Hosts root := by
  obtain ⟨e, m, he, hb, hk, -⟩ := h.project
  exact ⟨e, he, by simp [Entry.members?, hb], by rw [hk]; decide⟩

/-- What can get children still can in an extension. -/
theorem Extends.hosts {b : Atlas} (h : a.Extends b) (hi : a.Hosts i) : b.Hosts i := by
  obtain ⟨e, he, hm, hk⟩ := hi
  obtain ⟨e', he', hkeep⟩ := h i e he
  exact ⟨e', he', hkeep.isSome_members.trans hm, hkeep.accessor.trans hk⟩

end Atlas

namespace Edit

variable {i : EntryId} {x y : Draft}

/-- An edit extends the atlas. -/
theorem grows (h : Edit i x y) (hx : x.atlas.Identified) : x.atlas.Extends y.atlas := by
  cases h with
  | report g hg => exact .refl _
  | add e p hp hlt hb => exact Atlas.extends_add e
  | enter e d s hb hd hs hk hi => exact Atlas.extends_enter hx e s hi.lt
  | change f hf => exact Atlas.extends_modify fun e he => (hf e he).keeps
  | files t => exact fun j e he => ⟨e, he, .refl e⟩

/-- An edit leaves every entry but one as it is. -/
theorem frame (h : Edit i x y) (hx : x.atlas.Identified) {j : EntryId} (hj : j ≠ i)
    (hlt : j < x.atlas.size) : y.atlas.get? j = x.atlas.get? j := by
  cases h with
  | report g hg => rfl
  | add e p hp hlt' hb => exact Atlas.get?_add_of_lt e hlt
  | enter e d s hb hd hs hk hi =>
    rw [Atlas.get?_enter e (some s) hi.lt (hx.size_notMem_childrenOf i),
      if_neg (Nat.ne_of_lt hlt), if_neg hj]
  | change f hf => exact Atlas.get?_modify_of_ne f hj
  | files t => rfl

end Edit

namespace Atlas.Identified

variable {a : Atlas} {i : EntryId}

/-- A blank entry with a parent that is there keeps an atlas identified. -/
theorem add (h : a.Identified) {e : Entry} {p : EntryId} (hp : e.parent = some p)
    (hlt : p < a.size) (hb : e.IsBlank) : (a.add e).1.Identified := by
  constructor
  case project =>
    obtain ⟨e₀, m, he₀, h₀⟩ := h.project
    exact ⟨e₀, m, by rw [get?_add_of_lt e (get?_lt he₀), he₀], h₀⟩
  case older =>
    intro j e' he' hj
    rw [get?_add] at he'
    split at he'
    · next hja =>
      obtain rfl : e = e' := by simpa using he'
      exact ⟨p, hp, hja ▸ hlt⟩
    · exact h.older j e' he' hj
  case named =>
    intro j e' he' hn
    rw [get?_add] at he'
    split at he'
    · obtain rfl : e = e' := by simpa using he'
      exact absurd hn hb.not_named
    · exact h.named j e' he' hn
  case registered =>
    intro s j hs
    obtain ⟨e', he', hn, hsym⟩ := h.registered s j hs
    exact ⟨e', by rw [get?_add_of_lt e (get?_lt he'), he'], hn, hsym⟩
  case children =>
    intro q c hc
    rw [size_add]
    rw [childrenOf_add fun m => hb.members] at hc
    exact Nat.lt_succ_of_lt (h.children q c hc)
  case keys => exact h.keys

/-- A declaration that is entered under a new symbol keeps an atlas identified. -/
theorem enter (h : a.Identified) {e : Entry} {d : Details} {s : String}
    (hb : e.body = .declaration {} d) (hd : d.symbol = some s) (hs : a.symbols.get? s = none)
    (hk : e.kind ≠ .typeLiteral) (hi : i < a.size) : (a.enter i e (some s)).1.Identified := by
  have hget := get?_enter e (some s) hi (h.size_notMem_childrenOf i)
  have hext := extends_enter h e s hi
  have hnew : (a.enter i e (some s)).1.get? a.size = some { e with parent := some i } := by
    rw [hget, if_pos rfl]
  -- Every entry but the new one was there before, and is kept.
  have back : ∀ j e', j ≠ a.size → (a.enter i e (some s)).1.get? j = some e' →
      ∃ e₀, a.get? j = some e₀ ∧ e₀.Keeps e' := by
    intro j e' hj he'
    have hlt : j < a.size := by
      have hle := get?_lt he'
      rw [size_enter] at hle
      exact Nat.lt_of_le_of_ne (Nat.le_of_lt_succ hle) hj
    obtain ⟨e₀, he₀⟩ := exists_get? hlt
    obtain ⟨e₁, he₁, hkeep⟩ := hext j e₀ he₀
    rw [he', Option.some.injEq] at he₁
    exact ⟨e₀, he₀, he₁ ▸ hkeep⟩
  constructor
  case project =>
    obtain ⟨e₀, m, he₀, hb₀, hk₀, hp₀⟩ := h.project
    obtain ⟨e', he', hkeep⟩ := hext root e₀ he₀
    obtain ⟨m', hm'⟩ := hkeep.body_eq_project hb₀
    have hdecl : e₀.isDeclaration = false := by
      simp [Entry.isDeclaration, Entry.details?, hb₀]
    exact ⟨e', m', he', hm', (hkeep.kind hdecl).trans hk₀, hkeep.parent.trans hp₀⟩
  case older =>
    intro j e' he' hj
    by_cases hja : j = a.size
    · rw [hja, hnew, Option.some.injEq] at he'
      exact ⟨i, by rw [← he'], hja ▸ hi⟩
    · obtain ⟨e₀, he₀, hkeep⟩ := back j e' hja he'
      rw [hkeep.parent]
      exact h.older j e₀ he₀ hj
  case named =>
    intro j e' he' hn
    rw [symbols_enter]
    by_cases hja : j = a.size
    · rw [hja, hnew, Option.some.injEq] at he'
      have hsym : e'.symbol? = some s := by
        simp [← he', Entry.symbol?, Entry.details?, hb, hd]
      exact ⟨s, hsym, hja ▸ Table.get?_put_self ..⟩
    · obtain ⟨e₀, he₀, hkeep⟩ := back j e' hja he'
      obtain ⟨t, ht, hreg⟩ := h.named j e₀ he₀ (hkeep.isNamed_iff.1 hn)
      have hts : t ≠ s := by
        rintro rfl
        rw [hs] at hreg
        cases hreg
      exact ⟨t, hkeep.symbol.trans ht, by rw [Table.get?_put_of_ne _ _ hts, hreg]⟩
  case registered =>
    intro t j ht
    rw [symbols_enter] at ht
    by_cases hts : t = s
    · subst hts
      obtain rfl : a.size = j := by simpa using ht
      refine ⟨_, hnew, ⟨?_, hk⟩, ?_⟩
      · simp [Entry.isDeclaration, Entry.details?, hb]
      · simp [Entry.symbol?, Entry.details?, hb, hd]
    · rw [Table.get?_put_of_ne _ _ hts] at ht
      obtain ⟨e₀, he₀, hn, hsym⟩ := h.registered t j ht
      obtain ⟨e', he', hkeep⟩ := hext j e₀ he₀
      exact ⟨e', he', hkeep.isNamed_iff.2 hn, hkeep.symbol.trans hsym⟩
  case children =>
    intro p c hc
    rw [size_enter]
    rcases mem_childrenOf_enter hb hi (h.size_notMem_childrenOf i) hc with hc | rfl
    · exact Nat.lt_succ_of_lt (h.children p c hc)
    · exact Nat.lt_succ_self _
  case keys =>
    rw [symbols_enter]
    exact Table.nodup_keys_put _ _ _ h.keys

/-- A change of one entry that leaves its children as they are keeps an atlas identified. -/
theorem modify (h : a.Identified) {f : Entry → Entry}
    (hf : ∀ e, a.get? i = some e → e.Keeps (f e) ∧ (f e).members? = e.members?) :
    (a.modify i f).Identified := by
  exact h.of_extends (extends_modify fun e he => (hf e he).1) (by simp) rfl
    (childrenOf_modify fun e he => (hf e he).2)

end Atlas.Identified

/-- An edit keeps the atlas identified. -/
theorem Edit.identified {i : EntryId} {x y : Draft} (h : Edit i x y) (hx : x.atlas.Identified) :
    y.atlas.Identified := by
  cases h with
  | report g hg => exact hx
  | add e p hp hlt hb => exact hx.add hp hlt hb
  | enter e d s hb hd hs hk hi => exact hx.enter hb (by rw [hd]) hs hk hi.lt
  | change f hf => exact hx.modify fun e he => ⟨(hf e he).keeps, (hf e he).members?⟩
  | files t => exact hx.of_extends (fun j e he => ⟨e, he, .refl e⟩) rfl rfl fun _ => rfl

end ApiAtlas
