import ApiAtlas.Proofs.Conversion.Followed
import ApiAtlas.Proofs.Conversion.Visits

/-!
# Tours of a symbol

Seen from one symbol, converting a program is a tour: a declaration of the symbol is visited now and
then, and what lies in between passes by and touches no part of the symbol's entry (`Draft.Tour`).
Parts of it are the entry itself and all that hangs below it without a symbol of its own: its
signatures, their parameters, and the inline declarations in their types. A step `Tours` a symbol
when it leads along the visits that it makes. The rules lead through a step part by part; a step
that visits nothing passes by when all that it touches stands apart.
-/

set_option autoImplicit false

namespace ApiAtlas

open Source

/-! ## Declarations of a symbol -/

namespace Source

/-- The kinds of declarations that bring a signature with their own comment. -/
def DeclKind.callables : List DeclKind :=
  [.function, .method, .constructor]

/-- Whether those of some declarations that carry a symbol can all be called, and none of them
stands inside a type that is written on another one. -/
def Overloads (k : String) (ds : List Decl) : Prop :=
  ∀ d ∈ ds, d.Carries k → d.kind ∈ DeclKind.callables ∧ ¬Carry d.written k

variable {ds es : List Decl} {k : String}

/-- The declarations of a symbol in two lists can all be called just when those in each can. -/
theorem overloads_append : Overloads k (ds ++ es) ↔ Overloads k ds ∧ Overloads k es :=
  List.forall_mem_append

end Source

/-! ## Parts of a symbol's entry -/

namespace Atlas

variable {a b : Atlas} {k : String} {i p : EntryId}

/-- Whether an entry is that of a symbol, or has no symbol and stands in such an entry. -/
inductive PartOf (a : Atlas) (k : String) : EntryId → Prop
  | self {i : EntryId} (h : a.symbolOf i = some k) : PartOf a k i
  | inner {i p : EntryId} (h : a.symbolOf i = none) (hp : a.parent? i = some p)
    (hpart : PartOf a k p) : PartOf a k i

/-- Whether an entry is there and is no part of a symbol's entry. -/
def IsApart (a : Atlas) (k : String) (i : EntryId) : Prop :=
  i < a.size ∧ ¬a.PartOf k i

/-- What is part of a symbol's entry is in the atlas. -/
theorem PartOf.lt (h : a.PartOf k i) : i < a.size := by
  cases h with
  | self h => exact lt_of_symbolOf h
  | inner h hp hpart => exact parent?_lt hp

/-- What is there already becomes no part later on. -/
theorem Extends.partOf (hab : a.Extends b) (ha : a.Identified) (hi : i < a.size)
    (h : b.PartOf k i) : a.PartOf k i := by
  induction h with
  | self h => exact .self ((hab.symbolOf_eq hi).symm.trans h)
  | inner h hp hpart ih =>
    have hpa := (hab.parent?_eq hi).symm.trans hp
    exact .inner ((hab.symbolOf_eq hi).symm.trans h) hpa
      (ih (Nat.lt_trans (ha.parent?_lt hpa) hi))

/-- What is apart from a symbol still is in an extension. -/
theorem Extends.isApart (hab : a.Extends b) (ha : a.Identified) (h : a.IsApart k i) :
    b.IsApart k i :=
  ⟨Nat.lt_of_lt_of_le h.1 hab.size_le, fun hb => h.2 (hab.partOf ha h.1 hb)⟩

/-- What has no symbol is a part where it stands in a part. -/
theorem partOf_of_parent {e : Entry} (he : a.get? i = some e) (hs : e.symbol? = none)
    (hp : e.parent = some p) (h : a.PartOf k p) : a.PartOf k i ∧ a.symbolOf i = none := by
  have hnone := (symbolOf_eq he).trans hs
  exact ⟨.inner hnone ((parent?_eq he).trans hp) h, hnone⟩

/-- What has no symbol stands apart where it stands in something apart. -/
theorem isApart_of_parent {e : Entry} (he : a.get? i = some e) (hs : e.symbol? = none)
    (hp : e.parent = some p) (h : a.IsApart k p) : a.IsApart k i := by
  refine ⟨get?_lt he, fun hi => ?_⟩
  cases hi with
  | self hk =>
    rw [symbolOf_eq he, hs] at hk
    cases hk
  | inner _ hp' hpart =>
    rw [parent?_eq he, hp] at hp'
    exact h.2 (Option.some.inj hp' ▸ hpart)

/-- An entry with another symbol is apart from a symbol. -/
theorem isApart_of_symbolOf {t : String} (h : a.symbolOf i = some t) (hne : t ≠ k) :
    a.IsApart k i := by
  refine ⟨lt_of_symbolOf h, fun hi => ?_⟩
  cases hi with
  | self hk => exact hne (Option.some.inj (h.symm.trans hk))
  | inner hnone => exact Option.some_ne_none t (h.symm.trans hnone)

/-- The project is apart from every symbol. -/
theorem Identified.isApart_root (h : a.Identified) : a.IsApart k root := by
  obtain ⟨e, m, he, hb, -, hp⟩ := h.project
  refine ⟨get?_lt he, fun hi => ?_⟩
  cases hi with
  | self hk =>
    rw [symbolOf_eq he, Entry.symbol?, Entry.details?, hb] at hk
    cases hk
  | inner _ hp' =>
    rw [parent?_eq he, hp] at hp'
    cases hp'

/-- An entry that is declared for another symbol stands apart. -/
theorem Declares.isApart {d : Decl} {accessor : Bool} (h : a.Declares i d.symbol accessor)
    (ha : a.Identified) (hd : ¬d.Carries k) : a.IsApart k i := by
  obtain ⟨e, he, hn, hs, -⟩ := id h
  obtain ⟨t, ht, -⟩ := ha.named i e he hn
  refine isApart_of_symbolOf (h.symbolOf.trans (hs.symm.trans ht)) ?_
  rintro rfl
  exact hd (hs.symm.trans ht)

/-- A parameter is apart from a symbol if its signature is. -/
theorem IsParameter.isApart (h : a.IsParameter i) (hp : a.parent? i = some p)
    (hpart : a.IsApart k p) : a.IsApart k i := by
  obtain ⟨e, t, v, he, hb⟩ := h
  exact isApart_of_parent he (by simp [Entry.symbol?, Entry.details?, hb])
    ((parent?_eq he).symm.trans hp) hpart

/-- A type parameter is apart from a symbol if its owner is. -/
theorem IsTypeParameter.isApart (h : a.IsTypeParameter i) (hp : a.parent? i = some p)
    (hpart : a.IsApart k p) : a.IsApart k i := by
  obtain ⟨e, l, d, he, hb⟩ := h
  exact isApart_of_parent he (by simp [Entry.symbol?, Entry.details?, hb])
    ((parent?_eq he).symm.trans hp) hpart

/-- A signature is apart from a symbol if its owner is. -/
theorem IsSignatureOf.isApart {kinds : List Kind} (h : a.IsSignatureOf i p kinds)
    (hpart : a.IsApart k p) : a.IsApart k i := by
  obtain ⟨e, he, hshape, hp, -⟩ := h
  obtain ⟨name, kind, flags, comment, parent, body⟩ := e
  cases body with
  | signature w => exact isApart_of_parent he rfl hp hpart
  | _ => cases hshape

end Atlas

/-! ## Passing by -/

/-- What passes a symbol by leaves its entry, and all that is part of it, as they are. -/
structure Draft.Past (k : String) (x y : Draft) : Prop where
  lookup : y.atlas.lookup (some k) = x.atlas.lookup (some k)
  kept : ∀ i, x.atlas.PartOf k i → y.atlas.get? i = x.atlas.get? i

/-- What leaves the atlas passes every symbol by. -/
theorem Draft.past_of_atlas_eq {k : String} {x y : Draft} (h : y.atlas = x.atlas) : x.Past k y :=
  ⟨by rw [h], fun _ _ => by rw [h]⟩

namespace Conv

/-- The visits of the declarations that carry a symbol. -/
def visitsOf {α : Type} (c : Conv α) (k : String) (x : Draft) : List Visit :=
  (c.visited x).filter (·.decl.symbol = some k)

variable {α β : Type} {c : Conv α} {x : Draft} {k : String} {A : EntryId → Prop}
  {Q : α → Draft → Prop} {s : Site} {id : EntryId}

/-- Where a symbol is not written, there is no visit of it. -/
theorem Visits.visitsOf_eq_nil {ds : List Decl} (h : c.Visits ds) (hk : ¬Carry ds k) (x : Draft) :
    c.visitsOf k x = [] := by
  refine List.filter_eq_nil_iff.2 fun v hv hvk => hk ?_
  have hsymbol : v.decl.symbol = some k := of_decide_eq_true hvk
  exact ⟨v.decl, (h x).subset (List.mem_map_of_mem hv), hsymbol⟩

/-- Two steps in turn visit what the first one does and then what the second one does. -/
theorem visitsOf_bind {f : α → Conv β} : (c >>= f).visitsOf k x =
    c.visitsOf k x ++ (f (c.run x).1).visitsOf k (c.run x).2 :=
  List.filter_append _ _

/-- A run that touches nothing but what stands apart, or is new, passes a symbol by. -/
theorem Runs.past (h : c.Runs x A Q) (hx : x.atlas.Identified)
    (hA : ∀ i, A i → x.atlas.size ≤ i ∨ x.atlas.IsApart k i)
    (hlookup : (c.run x).2.atlas.lookup (some k) = x.atlas.lookup (some k)) :
    x.Past k (c.run x).2 := by
  refine ⟨hlookup, fun i hi => h.frame hx hi.lt fun hAi => ?_⟩
  rcases hA i hAi with hge | hapart
  · exact Nat.not_lt.2 hge hi.lt
  · exact hapart.2 hi

/-- A change of details apart from a symbol passes it by. -/
theorem changeDetails_past {f : Details → Details} (hid : x.atlas.IsApart k id) :
    x.Past k ((changeDetails id f).run x).2 := by
  refine ⟨rfl, fun i hi => Atlas.get?_modify_of_ne _ ?_⟩
  rintro rfl
  exact hid.2 hi

end Conv

/-! ## Tours -/

/-- A draft that is reached from another one by visits of a symbol's declarations, and by what
passes the symbol by. The declarations can be called, have no other one of the symbol in their
types, and stand apart from its entry. -/
inductive Draft.Tour (k : String) (settings : Settings) : Draft → List Visit → Draft → Prop
  | past {x y : Draft} (h : x.Past k y) : Tour k settings x [] y
  | visit {x : Draft} {s : Site} {d : Decl} (hx : x.atlas.Identified) (hset : s.settings = settings)
    (hs : x.atlas.Hosts s.scope) (hscope : x.atlas.IsApart k s.scope)
    (hd : d.kind ∈ DeclKind.callables) (hk : d.Carries k) (hapart : ¬Carry d.written k) :
    Tour k settings x ((Conv.convertDecl s d).visitsOf k x) ((Conv.convertDecl s d).run x).2
  | append {x y z : Draft} {vs ws : List Visit} (h : Tour k settings x vs y)
    (h' : Tour k settings y ws z) : Tour k settings x (vs ++ ws) z

namespace Conv

variable {α β : Type} {c : Conv α} {x : Draft} {k : String} {settings : Settings}
  {A : EntryId → Prop} {Q : α → Draft → Prop} {s : Site} {id : EntryId}

/-- A step leads along the visits that it makes of the declarations of a symbol. -/
def Tours (c : Conv α) (k : String) (settings : Settings) (x : Draft) : Prop :=
  Draft.Tour k settings x (c.visitsOf k x) (c.run x).2

namespace Tours

/-- A step that visits nothing passes by. -/
theorem past (hvisits : c.visited x = []) (h : x.Past k (c.run x).2) : c.Tours k settings x := by
  rw [Tours, visitsOf, hvisits]
  exact .past h

/-- Yielding a value tours every symbol. -/
theorem pure {a : α} : (pure a : Conv α).Tours k settings x :=
  past rfl (Draft.past_of_atlas_eq rfl)

/-- A report tours every symbol. -/
theorem report {code : Code} {message : String} {details : List (String × Json)} :
    (Conv.report s code message details).Tours k settings x :=
  past rfl (Draft.past_of_atlas_eq rfl)

/-- A question tours a symbol when the steps after it do for the answer. -/
theorem ask_bind {f : Atlas → α} {c' : α → Conv β} (h : (c' (f x.atlas)).Tours k settings x) :
    (Conv.ask f >>= c').Tours k settings x := by
  rw [Tours, visitsOf_bind]
  exact h

/-- Two steps, the first of which runs within bounds. -/
theorem bind {c' : α → Conv β} (hx : x.atlas.Identified) (hruns : c.Runs x A Q)
    (h : c.Tours k settings x)
    (h' : ∀ a y, Q a y → x.Grown A y → (c' a).Tours k settings y) :
    (c >>= c').Tours k settings x := by
  rw [Tours, visitsOf_bind]
  exact .append h (h' _ _ hruns.post (hruns.grown hx))

/-- A step tours a symbol still when a value is yielded after it. -/
theorem then_pure {b : β} (h : c.Tours k settings x) :
    (c >>= fun _ => Pure.pure b).Tours k settings x := by
  rw [Tours, visitsOf_bind]
  exact .append h pure

/-- A report tours every symbol still when a value is yielded after it. -/
theorem report_bind {code : Code} {message : String} {details : List (String × Json)} {b : β} :
    (Conv.report s code message details >>= fun _ => Pure.pure b).Tours k settings x :=
  then_pure report

/-- A change of details apart from a symbol tours it. -/
theorem changeDetails {f : Details → Details} (hid : x.atlas.IsApart k id) :
    (Conv.changeDetails id f).Tours k settings x :=
  past rfl (changeDetails_past hid)

end Tours

/-- A run that touches a single entry, which stands apart or is new, passes by. -/
theorem Runs.tours (h : c.Runs x (fun i => i = id) Q) (hx : x.atlas.Identified)
    (hid : x.atlas.size ≤ id ∨ x.atlas.IsApart k id) (hvisits : c.visited x = [])
    (hsymbols : (c.run x).2.atlas.symbols = x.atlas.symbols) : c.Tours k settings x :=
  .past hvisits (h.past hx (fun _ hi => hi ▸ hid) (congrArg (·.get? k) hsymbols))

end Conv

end ApiAtlas
