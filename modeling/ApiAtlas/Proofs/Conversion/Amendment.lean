import ApiAtlas.Conversion.Program
import ApiAtlas.Proofs.Atlas.Lookup
import ApiAtlas.Proofs.Source.Inlined

/-!
# Amendments

One change that conversion makes of an atlas, as a relation that remembers an atlas that was seen
earlier: a slot that holds a single thing is filled because it was empty then, and an entry that is
filled as a whole was not there then. A declaration is entered, or gives its kind to the entry of
its symbol, only where it fits. Amendments leave what is registered as it is (`Amendment.lookup_eq`)
and keep every child an entry of the atlas (`Amendment.childrenThere`).
-/

set_option autoImplicit false

namespace ApiAtlas

open Source (Decl)

/-- Whether an entry of a declaration may be of a kind. Only classes and interfaces are entered as
such. -/
structure Source.Decl.Becomes (d : Decl) (kind : Kind) : Prop where
  literal : kind ≠ .typeLiteral
  project : kind ≠ .project
  heritage : kind.isIn Kind.classOrInterface = true → d.kind = .class ∨ d.kind = .interface

/-- The kinds of the entries that are no declared ones: signatures, parameters, type parameters and
inline declarations. -/
def Kind.partKinds : List Kind :=
  .parameter :: .typeParameter :: .typeLiteral :: Kind.someSignature

/-- What one change makes of details, where `seen` is an atlas from before. -/
inductive Details.Amendment (seen : Atlas) (id : EntryId) (d : Details) : Details → Prop
  | same : Amendment seen id d d
  | source (place : SourceRef) : Amendment seen id d { d with sources := d.sources ++ [place] }
  | typeParameter (p : EntryId) :
    Amendment seen id d { d with typeParameters := d.typeParameters ++ [p] }
  | signature (sig : EntryId) : Amendment seen id d { d with signatures := d.signatures ++ [sig] }
  | indexSignature (sig : EntryId)
    (hfree : ∀ d₀, seen.details? id = some d₀ → d₀.indexSignature = none) :
    Amendment seen id d { d with indexSignature := some sig }
  | getSignature (sig : EntryId)
    (hfree : ∀ d₀, seen.details? id = some d₀ → d₀.getSignature = none) :
    Amendment seen id d { d with getSignature := some sig }
  | setSignature (sig : EntryId)
    (hfree : ∀ d₀, seen.details? id = some d₀ → d₀.setSignature = none) :
    Amendment seen id d { d with setSignature := some sig }
  | type (t : Option Ty) (hfree : ∀ d₀, seen.details? id = some d₀ → d₀.type = none) :
    Amendment seen id d { d with type := t }
  | defaultValue (v : Option String) :
    Amendment seen id d { d with defaultValue := d.defaultValue.or v }
  | extended (ts : List Ty)
    (hts : ∃ more, Conv.extendHeritage d.extended more = d.extended ++ ts) :
    Amendment seen id d { d with extended := d.extended ++ ts }
  | implemented (ts : List Ty)
    (hts : ∃ more, Conv.extendHeritage d.implemented more = d.implemented ++ ts) :
    Amendment seen id d { d with implemented := d.implemented ++ ts }

/-- Whether a body is that of a signature, a parameter or a type parameter. -/
def Body.IsPart : Body → Prop
  | .signature _ | .parameter .. | .typeParameter .. => True
  | _ => False

/-- No part can have children. -/
theorem Entry.members?_of_isPart {e : Entry} (h : e.body.IsPart) : e.members? = none := by
  obtain ⟨name, kind, flags, comment, parent, body⟩ := e
  cases body <;> first | rfl | cases h

/-- What one change makes of an entry. -/
inductive Entry.Amendment (seen : Atlas) (id : EntryId) (e : Entry) : Entry → Prop
  | same : Amendment seen id e e
  | merge (flags : Flags) (comment : Option Comment) :
    Amendment seen id e { e with flags := e.flags.union flags, comment := e.comment.or comment }
  | details (m : Members) (d d' : Details) (hb : e.body = .declaration m d)
    (h : d.Amendment seen id d') :
    Amendment seen id e { e with body := .declaration m d' }
  | parameter (s : Shape) (p : EntryId) (hb : e.body = .signature s) :
    Amendment seen id e { e with body := .signature { s with parameters := s.parameters ++ [p] } }
  | typeParameter (s : Shape) (p : EntryId) (hb : e.body = .signature s) :
    Amendment seen id e
      { e with body := .signature { s with typeParameters := s.typeParameters ++ [p] } }
  | fill (body : Body) (hnew : seen.size ≤ id) (hb : body.IsPart) :
    Amendment seen id e { e with body := body }

namespace Atlas

/-- One change of an atlas; `Fits` tells which declarations may stand in which scopes. -/
inductive Amendment (Fits : Atlas → EntryId → Decl → Prop) (a seen : Atlas) : Atlas → Prop
  | add (e : Entry) (hb : e.body.IsPart ∨ e.body = .declaration {} {} ∧ e.kind = .typeLiteral)
    (hk : e.kind ∈ Kind.partKinds) : Amendment Fits a seen (a.add e).1
  | enter (scope : EntryId) (e : Entry) (d : Decl) (s : String) (hsym : d.symbol = some s)
    (hfree : a.lookup d.symbol = none) (hfits : Fits a scope d)
    (hscope : scope < a.size) (hnew : a.size ∉ a.childrenOf scope)
    (hb : e.body = .declaration {} { symbol := d.symbol, origin := d.origin })
    (hname : e.name ≠ "") (hk : d.Becomes e.kind) :
    Amendment Fits a seen (a.enter scope e d.symbol).1
  | recast (id scope : EntryId) (d : Decl) (kind : Kind) (hid : a.lookup d.symbol = some id)
    (hdecl : a.isDeclaration id = true) (hfits : Fits a scope d) (hk : d.Becomes kind) :
    Amendment Fits a seen (a.modify id fun e => { e with kind := kind })
  | change (id : EntryId) (f : Entry → Entry)
    (hf : ∀ e, a.get? id = some e → e.Amendment seen id (f e)) :
    Amendment Fits a seen (a.modify id f)
  | files (t : Table String (List EntryId)) : Amendment Fits a seen { a with files := t }

end Atlas

namespace Entry

variable {seen : Atlas} {id : EntryId} {e e' : Entry}

/-- An amendment of an entry leaves its name, its kind and its parent as they are. -/
theorem Amendment.name (h : e.Amendment seen id e') : e'.name = e.name := by
  cases h <;> rfl

/-- An amendment leaves the kind of an entry. -/
theorem Amendment.kind (h : e.Amendment seen id e') : e'.kind = e.kind := by
  cases h <;> rfl

/-- An amendment leaves the parent of an entry. -/
theorem Amendment.parent (h : e.Amendment seen id e') : e'.parent = e.parent := by
  cases h <;> rfl

/-- An amendment gives no entry children. -/
theorem Amendment.members (h : e.Amendment seen id e') :
    e'.members? = e.members? ∨ e'.members? = none := by
  cases h with
  | details m d d' hb h => exact .inl (by simp [members?, hb])
  | parameter s p hb | typeParameter s p hb => exact .inl (by simp [members?, hb])
  | fill body hnew hb => exact .inr (members?_of_isPart hb)
  | _ => exact .inl rfl

end Entry

namespace Atlas

/-- Whether the children of every entry are there. -/
def ChildrenThere (a : Atlas) : Prop :=
  ∀ p, ∀ c ∈ a.childrenOf p, c < a.size

namespace Amendment

variable {Fits : Atlas → EntryId → Decl → Prop} {seen a b : Atlas}

/-- An amendment takes no entry away. -/
theorem size_le (h : a.Amendment Fits seen b) : a.size ≤ b.size := by
  cases h with
  | add | enter => simp
  | recast | change => exact Nat.le_of_eq (size_modify ..).symm
  | files => exact Nat.le_refl _

/-- An amendment leaves registered symbols with their entries. -/
theorem lookup_eq (h : a.Amendment Fits seen b) {symbol : Option String} {i : EntryId}
    (hi : a.lookup symbol = some i) : b.lookup symbol = some i := by
  cases h with
  | enter scope e d s hsym hfree =>
    obtain ⟨t, rfl, ht⟩ := lookup_eq_some_iff.1 hi
    have hts : t ≠ s := by
      rintro rfl
      rw [hsym, hi] at hfree
      cases hfree
    rw [hsym]
    refine lookup_eq_some_iff.2 ⟨t, rfl, ?_⟩
    rw [symbols_enter, Table.get?_put_of_ne _ _ hts, ht]
  | _ => exact hi

/-- After an amendment the children of every entry are there, if they were before. -/
theorem childrenThere (h : a.Amendment Fits seen b) (ha : a.ChildrenThere) :
    b.ChildrenThere := by
  have hsize := h.size_le
  intro p c hc
  cases h with
  | add e hb hk =>
    rw [childrenOf_add fun m hm => ?_] at hc
    · exact Nat.lt_of_lt_of_le (ha p c hc) hsize
    · rcases hb with hb | ⟨hb, -⟩
      · rw [Entry.members?_of_isPart hb] at hm
        cases hm
      · simp only [Entry.members?, hb, Option.some.injEq] at hm
        exact hm.symm
  | enter scope e d s hsym hfree hfits hscope hnew hb hname hk =>
    rw [size_enter]
    rcases mem_childrenOf_enter hb hscope hnew hc with hc | rfl
    · exact Nat.lt_succ_of_lt (ha p c hc)
    · exact Nat.lt_succ_self _
  | recast id scope d kind =>
    rw [childrenOf_modify (f := fun e => { e with kind := kind }) fun _ _ => rfl] at hc
    exact Nat.lt_of_lt_of_le (ha p c hc) hsize
  | change id f hf =>
    refine Nat.lt_of_lt_of_le (ha p c ?_) hsize
    rw [childrenOf, get?_modify] at hc
    split at hc
    · next hid =>
      subst hid
      cases he : a.get? id with
      | none => simp [he] at hc
      | some e =>
        rw [he, Option.map_some, Option.bind_some] at hc
        rcases (hf e he).members with hm | hm
        · rwa [childrenOf_eq he, ← hm]
        · simp [hm] at hc
    · exact hc
  | files t => exact ha p c hc

/-- Every entry is still there, with its name and its parent. -/
theorem exists_get? (h : a.Amendment Fits seen b) {i : EntryId} {e : Entry}
    (he : a.get? i = some e) :
    ∃ e', b.get? i = some e' ∧ e'.name = e.name ∧ e'.parent = e.parent := by
  cases h with
  | add e' => exact ⟨e, (get?_add_of_lt e' (get?_lt he)).trans he, rfl, rfl⟩
  | enter scope e' d s hsym hfree hfits hscope hnew =>
    have hget := get?_enter e' d.symbol hscope hnew i
    rw [if_neg (Nat.ne_of_lt (get?_lt he)), he] at hget
    split at hget
    · refine ⟨_, hget, ?_⟩
      obtain ⟨name, kind, flags, comment, parent, body⟩ := e
      cases body <;> exact ⟨rfl, rfl⟩
    · exact ⟨e, hget, rfl, rfl⟩
  | recast id =>
    by_cases hi : i = id
    · subst hi
      exact ⟨_, get?_modify_self _ he, rfl, rfl⟩
    · exact ⟨e, (get?_modify_of_ne _ hi).trans he, rfl, rfl⟩
  | change id f hf =>
    by_cases hi : i = id
    · subst hi
      exact ⟨_, get?_modify_self f he, (hf e he).name, (hf e he).parent⟩
    · exact ⟨e, (get?_modify_of_ne f hi).trans he, rfl, rfl⟩
  | files => exact ⟨e, he, rfl, rfl⟩

/-- What holds of all entries still does if it holds of those that are added, entered, given
another kind or amended, and if children do not matter. -/
theorem entries {P : EntryId → Entry → Prop} (h : a.Amendment Fits seen b)
    (old : ∀ i e, a.get? i = some e → P i e)
    (part : ∀ e : Entry, e.body.IsPart ∨ e.body = .declaration {} {} ∧ e.kind = .typeLiteral →
      e.kind ∈ Kind.partKinds → P a.size e)
    (entered : ∀ scope (e : Entry) d, a.lookup d.symbol = none → b.lookup d.symbol = some a.size →
      Fits a scope d → e.body = .declaration {} { symbol := d.symbol, origin := d.origin } →
      e.name ≠ "" → d.Becomes e.kind → P a.size { e with parent := some scope })
    (members : ∀ i e f, P i e → P i (e.mapMembers f))
    (recast : ∀ i e scope d kind, a.get? i = some e → a.lookup d.symbol = some i →
      e.isDeclaration = true → Fits a scope d → d.Becomes kind → P i { e with kind := kind })
    (amend : ∀ i e e', P i e → e.Amendment seen i e' → P i e') :
    ∀ i e, b.get? i = some e → P i e := by
  intro i e he
  cases h with
  | add e' hb hk =>
    rw [get?_add] at he
    split at he
    · next hi => exact hi ▸ Option.some.inj he ▸ part e' hb hk
    · exact old i e he
  | enter scope e' d s hsym hfree hfits hscope hnew hb hname hk =>
    rw [get?_enter e' d.symbol hscope hnew] at he
    split at he
    · next hi =>
      -- The symbol was free, so it leads to the new entry now.
      have hlookup : (a.enter scope e' d.symbol).1.lookup d.symbol = some a.size := by
        rw [hsym]
        refine lookup_eq_some_iff.2 ⟨s, rfl, ?_⟩
        rw [symbols_enter]
        exact Table.get?_put_self ..
      exact hi ▸ Option.some.inj he ▸ entered scope e' d hfree hlookup hfits hb hname hk
    · split at he
      · obtain ⟨e₀, he₀, rfl⟩ := Option.map_eq_some_iff.1 he
        exact members i e₀ _ (old i e₀ he₀)
      · exact old i e he
  | recast id scope d kind hid hdecl hfits hk =>
    rw [get?_modify] at he
    split at he
    · next hi =>
      subst hi
      obtain ⟨e₀, he₀, rfl⟩ := Option.map_eq_some_iff.1 he
      refine recast id e₀ scope d kind he₀ hid ?_ hfits hk
      rwa [isDeclaration_eq he₀] at hdecl
    · exact old i e he
  | change id f hf =>
    rw [get?_modify] at he
    split at he
    · next hi =>
      subst hi
      obtain ⟨e₀, he₀, rfl⟩ := Option.map_eq_some_iff.1 he
      exact amend id e₀ _ (old id e₀ he₀) (hf e₀ he₀)
    · exact old i e he
  | files t => exact old i e he

/-- What is registered was registered before, or is the declaration that is entered. -/
theorem lookup_inv (h : a.Amendment Fits seen b) {symbol : Option String} {i : EntryId}
    (hi : b.lookup symbol = some i) :
    a.lookup symbol = some i ∨ ∃ scope e d, symbol = d.symbol ∧ i = a.size ∧ Fits a scope d ∧
      b.get? i = some e ∧ e.name ≠ "" ∧ e.parent = some scope ∧ d.Becomes e.kind := by
  cases h with
  | enter scope e d s hsym hfree hfits hscope hnew hb hname hk =>
    obtain ⟨t, rfl, ht⟩ := lookup_eq_some_iff.1 hi
    rw [hsym, symbols_enter] at ht
    by_cases hts : t = s
    · subst hts
      obtain rfl := Option.some.inj ((Table.get?_put_self ..).symm.trans ht)
      refine .inr ⟨scope, { e with parent := some scope }, d, hsym.symm, rfl, hfits, ?_, hname,
        rfl, hk⟩
      rw [get?_enter e d.symbol hscope hnew, if_pos rfl]
    · rw [Table.get?_put_of_ne _ _ hts] at ht
      exact .inl (lookup_eq_some_iff.2 ⟨t, rfl, ht⟩)
  | _ => exact .inl hi

end Amendment

end Atlas

end ApiAtlas
