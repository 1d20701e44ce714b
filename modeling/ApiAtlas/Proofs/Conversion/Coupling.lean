import ApiAtlas.Proofs.Atlas.Renamed
import ApiAtlas.Proofs.Conversion.Spared
import ApiAtlas.Proofs.Source.Stripped

/-!
# Two conversions side by side

A coupling relates the drafts of two conversions, one of some declarations and one of what is left
of them when declarations are dropped, with the entries numbered in another way. Its laws say that
the relation survives the same change on both sides, and that what is read off the two drafts is the
same. A step `Couples` with another when, run from related drafts, they end in related ones and
yield the same up to the numbers. The rules lead through two steps part by part.
-/

set_option autoImplicit false

namespace ApiAtlas

open Source (Decl)

/-! ## What a conversion keeps -/

/-- The kind of an entry, if it is there. -/
def Atlas.kindAt (a : Atlas) (i : EntryId) : Option Kind :=
  (a.get? i).map (·.kind)

/-- The kinds of the containers in which only exported declarations may be wanted. -/
def Kind.topKinds : List Kind :=
  .project :: Kind.someModule

/-- What converting some declarations keeps: an extension, in which the entries outside of the
declarations are of the kinds that they were. -/
structure Draft.Kept (ds : List Decl) (x y : Draft) : Prop where
  grows : x.atlas.Extends y.atlas
  kinds : ∀ i, i < x.atlas.size → x.atlas.Outside i ds → y.atlas.kindAt i = x.atlas.kindAt i

namespace Draft.Kept

variable {x y z : Draft} {ds ds' : List Decl}

/-- What does not change is kept. -/
theorem refl (ds : List Decl) (x : Draft) : x.Kept ds x :=
  ⟨.refl _, fun _ _ _ => rfl⟩

/-- What two conversions in turn keep is kept by both together. -/
theorem trans (h : x.Kept ds y) (h' : y.Kept ds z) : x.Kept ds z := by
  refine ⟨h.grows.trans h'.grows, fun i hi hout => ?_⟩
  rw [h'.kinds i (Nat.lt_of_lt_of_le hi h.grows.size_le) (hout.grow h.grows hi), h.kinds i hi hout]

/-- What converting some declarations keeps is kept by converting more of them. -/
theorem mono (h : x.Kept ds y) (hsub : ds ⊆ ds') : x.Kept ds' y :=
  ⟨h.grows, fun i hi hout => h.kinds i hi (hout.mono hsub)⟩

end Draft.Kept

/-! ## Couplings -/

/-- Whether two entries are read alike, up to the numbers that they hold. -/
structure Entry.Alike (φ : EntryId → EntryId) (e e' : Entry) : Prop where
  name : e'.name = e.name
  kind : e'.kind = e.kind
  details : e'.details? = e.details?.map (Details.rename φ)
  typeParameters : e'.typeParameters = e.typeParameters.map φ
  isTypeParameter : e'.isTypeParameter = e.isTypeParameter
  members : e'.members?.isSome = e.members?.isSome

/-- An entry and its renumbered form are alike. -/
theorem Entry.alike_rename (φ : EntryId → EntryId) (e : Entry) : e.Alike φ (e.rename φ) := by
  constructor <;> simp

/-- What relates a conversion with the settings `before` to one, with the settings `after`, of what
is left when declarations are dropped. Where the coupling is strict, the kind of a container has to
tell whether what it holds stands at the top. -/
structure Coupling where
  rename : EntryId → EntryId
  before : Settings
  after : Settings
  drop : Bool → Decl → Bool
  strict : Prop
  /-- The symbols that may be declared. -/
  Carried : String → Prop
  Related : Draft → Draft → Prop
  Same : Diagnostic → Diagnostic → Prop
  drop_declared : ∀ {top d}, drop top d = true → d.kind.isDeclared = true
  drop_unwanted : ∀ {top d k}, drop top d = true → (strict → k.isIn Kind.topKinds = top) →
    Conv.isWanted before k d = false
  keep_wanted : ∀ {top d k}, drop top d = false → d.kind.isDeclared = true →
    (strict → k.isIn Kind.topKinds = top) → Conv.isWanted after k d = Conv.isWanted before k d
  identified : ∀ {x y}, Related x y → x.atlas.Identified
  alike : ∀ {x y}, Related x y → ∀ i,
    Option.Rel (Entry.Alike rename) (x.atlas.get? i) (y.atlas.get? (rename i))
  fresh : ∀ {x y}, Related x y → y.atlas.size = rename x.atlas.size
  lookup : ∀ {x y}, Related x y → ∀ {s}, Carried s →
    y.atlas.symbols.get? s = (x.atlas.symbols.get? s).map rename
  same : ∀ g, Same g g
  same_signature : ∀ code message id details,
    Same ⟨code, message, ("signature", .nat id) :: details⟩
      ⟨code, message, ("signature", .nat (rename id)) :: details⟩
  report : ∀ {x y}, Related x y → ∀ {g g'}, Same g g' →
    Related { x with diagnostics := x.diagnostics.push g }
      { y with diagnostics := y.diagnostics.push g' }
  add : ∀ {x y}, Related x y → ∀ {e p}, e.parent = some p → p < x.atlas.size → e.IsBlank →
    Related { x with atlas := (x.atlas.add e).1 }
      { y with atlas := (y.atlas.add (e.rename rename)).1 }
  enter : ∀ {x y}, Related x y → ∀ {i e d s}, e.body = .declaration {} d →
    d = { symbol := some s, origin := d.origin } → e.kind ≠ .typeLiteral →
    x.atlas.symbols.get? s = none → Carried s → x.atlas.Hosts i →
    Related { x with atlas := (x.atlas.enter i e (some s)).1 }
      { y with atlas := (y.atlas.enter (rename i) (e.rename rename) (some s)).1 }
  change : ∀ {x y}, Related x y → ∀ {i f f'}, i ≠ Atlas.root →
    (∀ e, (f e).rename rename = f' (e.rename rename)) →
    (∀ e, x.atlas.get? i = some e → e.Keeps (f e) ∧ (f e).members? = e.members?) →
    Related { x with atlas := x.atlas.modify i f } { y with atlas := y.atlas.modify (rename i) f' }

namespace Coupling

variable (K : Coupling)

/-- A site of the first conversion. -/
def left (s : Site) : Site :=
  { s with settings := K.before }

/-- The site of the second conversion. -/
def right (s : Site) : Site :=
  { s with scope := K.rename s.scope, settings := K.after }

/-- Whether declarations may be converted: their symbols may be declared, and where it matters none
of them is below one of its own symbol. -/
structure Allows (ds : List Decl) : Prop where
  carried : ∀ d ∈ ds, ∀ s, d.Carries s → K.Carried s
  apart : K.strict → ∀ n ∈ ds, ∀ m ∈ n.nested, ∀ s, m.Carries s → ¬n.Carries s

/-- Whether a scope tells, where it matters, if what it holds stands at the top, and goes on telling
while some declarations are converted. -/
def Fits (a : Atlas) (scope : EntryId) (top : Bool) (ds : List Decl) : Prop :=
  K.strict → a.Outside scope ds ∧ ∃ k, a.kindAt scope = some k ∧ k.isIn Kind.topKinds = top

variable {K} {x y : Draft} {ds ds' : List Decl}

/-- Of declarations that may be converted, some alone may be converted too. -/
theorem Allows.mono (h : K.Allows ds) (hsub : ds' ⊆ ds) : K.Allows ds' :=
  ⟨fun d hd => h.carried d (hsub hd), fun hstrict n hn => h.apart hstrict n (hsub hn)⟩

/-- A scope that fits some declarations fits fewer of them. -/
theorem Fits.mono {a : Atlas} {scope : EntryId} {top : Bool} (h : K.Fits a scope top ds)
    (hsub : ds' ⊆ ds) : K.Fits a scope top ds' :=
  fun hstrict => ⟨(h hstrict).1.mono hsub, (h hstrict).2⟩

/-- A scope fits declarations after others have been converted that are among those it fits. -/
theorem Fits.kept {scope : EntryId} {top : Bool} (h : K.Fits x.atlas scope top ds)
    (hxy : x.Kept ds' y) (hsub : ds' ⊆ ds) (hlt : scope < x.atlas.size) :
    K.Fits y.atlas scope top ds := by
  intro hstrict
  obtain ⟨hout, k, hk, htop⟩ := h hstrict
  exact ⟨hout.grow hxy.grows hlt, k, (hxy.kinds scope hlt (hout.mono hsub)).trans hk, htop⟩

/-! ## What is read -/

variable (h : K.Related x y)

include h

/-- Each entry has one like it in the related draft. -/
theorem exists_alike {i : EntryId} {e : Entry} (he : x.atlas.get? i = some e) :
    ∃ e', y.atlas.get? (K.rename i) = some e' ∧ e.Alike K.rename e' := by
  have hrel := K.alike h i
  rw [he] at hrel
  generalize hy : y.atlas.get? (K.rename i) = e' at hrel
  cases hrel with
  | some halike => exact ⟨_, rfl, halike⟩

/-- What is missing in a draft is missing in the related one. -/
theorem get?_eq_none {i : EntryId} (he : x.atlas.get? i = none) :
    y.atlas.get? (K.rename i) = none := by
  have hrel := K.alike h i
  rw [he] at hrel
  generalize hy : y.atlas.get? (K.rename i) = e' at hrel
  cases hrel
  rfl

/-- In related drafts, entries have the same details up to the numbers. -/
theorem details?_eq (i : EntryId) :
    y.atlas.details? (K.rename i) = (x.atlas.details? i).map (Details.rename K.rename) := by
  unfold Atlas.details?
  cases he : x.atlas.get? i with
  | none => rw [get?_eq_none h he]; rfl
  | some e =>
    obtain ⟨e', he', halike⟩ := exists_alike h he
    rw [he', Option.bind_some, Option.bind_some, halike.details]

/-- In related drafts, the same entries are declarations. -/
theorem isDeclaration_eq (i : EntryId) :
    y.atlas.isDeclaration (K.rename i) = x.atlas.isDeclaration i := by
  rw [Atlas.isDeclaration, details?_eq h, Option.isSome_map, Atlas.isDeclaration]

/-- In related drafts, entries have the same names. -/
theorem nameOf_eq (i : EntryId) : y.atlas.nameOf (K.rename i) = x.atlas.nameOf i := by
  unfold Atlas.nameOf
  cases he : x.atlas.get? i with
  | none => rw [get?_eq_none h he]
  | some e =>
    obtain ⟨e', he', halike⟩ := exists_alike h he
    rw [he', Option.map_some, Option.map_some, halike.name]

/-- In related drafts, entries are of the same kinds. -/
theorem kindAt_eq (i : EntryId) : y.atlas.kindAt (K.rename i) = x.atlas.kindAt i := by
  unfold Atlas.kindAt
  cases he : x.atlas.get? i with
  | none => rw [get?_eq_none h he]
  | some e =>
    obtain ⟨e', he', halike⟩ := exists_alike h he
    rw [he', Option.map_some, Option.map_some, halike.kind]

/-- In related drafts, entries have the same type parameters up to the numbers. -/
theorem typeParameters_eq (i : EntryId) :
    ((y.atlas.get? (K.rename i)).map (·.typeParameters)).getD [] =
      (((x.atlas.get? i).map (·.typeParameters)).getD []).map K.rename := by
  cases he : x.atlas.get? i with
  | none => rw [get?_eq_none h he]; rfl
  | some e =>
    obtain ⟨e', he', halike⟩ := exists_alike h he
    rw [he', Option.map_some, Option.map_some, halike.typeParameters]
    rfl

/-- In related drafts, entries bind the same names. -/
theorem boundBy_eq (i : EntryId) : Conv.boundBy y.atlas (K.rename i) = Conv.boundBy x.atlas i := by
  rw [Conv.boundBy, typeParameters_eq h, List.filterMap_map, Conv.boundBy]
  refine List.filterMap_congr fun p _ => ?_
  cases hp : x.atlas.get? p with
  | none => rw [Function.comp_apply, get?_eq_none h hp]
  | some e =>
    obtain ⟨e', he', halike⟩ := exists_alike h hp
    rw [Function.comp_apply, he']
    change (if e'.isTypeParameter then some e'.name else none) = _
    rw [halike.isTypeParameter, halike.name]

end Coupling

/-! ## Coupled steps -/

/-- A step couples with another, from two drafts: it ends in related drafts and yields the same up
to the numbers. On its own side it keeps what converting the given declarations keeps, and ends as
stated. -/
structure Conv.Couples (K : Coupling) {α β : Type} (ds : List Decl) (c : Conv α) (c' : Conv β)
    (x y : Draft) (g : α → β) (Q : α → Draft → Prop) : Prop where
  value : (c'.run y).1 = g (c.run x).1
  related : K.Related (c.run x).2 (c'.run y).2
  kept : x.Kept ds (c.run x).2
  spares : x.Spares K.Carried (c.run x).2
  post : Q (c.run x).1 (c.run x).2

namespace Conv.Couples

variable {K : Coupling} {α β γ δ : Type} {ds ds' : List Decl} {c : Conv α} {c' : Conv β}
  {x y : Draft} {g : α → β} {Q R : α → Draft → Prop}

/-- Steps that couple still do inside more declarations, and with less required of what they yield.
-/
theorem mono (h : Couples K ds c c' x y g Q) (hsub : ds ⊆ ds') (hQR : ∀ a z, Q a z → R a z) :
    Couples K ds' c c' x y g R :=
  ⟨h.value, h.related, h.kept.mono hsub, h.spares, hQR _ _ h.post⟩

/-- Steps that couple still do inside more declarations. -/
theorem inside (h : Couples K ds c c' x y g Q) (hsub : ds ⊆ ds') : Couples K ds' c c' x y g Q :=
  h.mono hsub fun _ _ hq => hq

/-- Steps that couple still do with less required of what they yield. -/
theorem weaken (h : Couples K ds c c' x y g Q) (hQR : ∀ a z, Q a z → R a z) :
    Couples K ds c c' x y g R :=
  h.mono (List.Subset.refl _) hQR

/-- Steps in which no declaration is converted keep the kind of an entry. -/
theorem sameKind {i : EntryId} (h : Couples K [] c c' x y g Q) (hi : i < x.atlas.size) :
    Couples K ds c c' x y g fun _ z => z.atlas.kindAt i = x.atlas.kindAt i :=
  ⟨h.value, h.related, h.kept.mono (List.nil_subset _), h.spares, h.kept.kinds i hi nofun⟩

/-- Yielding values that are the same up to the numbers couples. -/
theorem pure {a : α} {b : β} (h : K.Related x y) (hb : b = g a) (hQ : Q a x) :
    Couples K ds (pure a) (pure b) x y g Q :=
  ⟨hb, h, .refl _ _, .refl _, hQ⟩

/-- Two steps in turn couple when both the first ones and the second ones do. -/
theorem bind {k : α → Conv γ} {k' : β → Conv δ} {g' : γ → δ} {S : γ → Draft → Prop}
    (h : Couples K ds c c' x y g Q)
    (hk : ∀ a x' y', Q a x' → K.Related x' y' → x.Kept ds x' →
      Couples K ds (k a) (k' (g a)) x' y' g' S) :
    Couples K ds (c >>= k) (c' >>= k') x y g' S := by
  have hk := hk _ _ _ h.post h.related h.kept
  rw [← h.value] at hk
  exact ⟨hk.value, hk.related, h.kept.trans hk.kept, h.spares.trans hk.spares, hk.post⟩

/-- Questions couple when they have the same answer up to the numbers. -/
theorem ask {f : Atlas → α} {f' : Atlas → β} (h : K.Related x y)
    (hvalue : f' y.atlas = g (f x.atlas)) (hQ : Q (f x.atlas) x) :
    Couples K ds (ask f) (ask f') x y g Q :=
  ⟨hvalue, h, .refl _ _, .refl _, hQ⟩

/-- Steps that are noted as visits couple when they do otherwise. -/
theorem visiting {c c' : Conv (Option EntryId)} {g : Option EntryId → Option EntryId}
    {Q : Option EntryId → Draft → Prop} {s s' : Site} {d d' : Decl} {name name' : String}
    (h : Couples K ds c c' x y g Q) :
    Couples K ds (Conv.visiting s d name c) (Conv.visiting s' d' name' c') x y g Q :=
  ⟨h.value, h.related, h.kept, h.spares, h.post⟩

/-- Steps couple after questions when they do for the answers. -/
theorem ask_bind {f : Atlas → γ} {f' : Atlas → δ} {k : γ → Conv α} {k' : δ → Conv β}
    (hk : Couples K ds (k (f x.atlas)) (k' (f' y.atlas)) x y g Q) :
    Couples K ds (Conv.ask f >>= k) (Conv.ask f' >>= k') x y g Q :=
  ⟨hk.value, hk.related, hk.kept, hk.spares, hk.post⟩

/-- A step that does nothing on the first side and yields what the next one goes on with. -/
theorem skip {a : γ} {c₀ : Conv γ} {k : γ → Conv α} (hc : c₀.run x = (a, x))
    (hk : Couples K ds (k a) c' x y g Q) : Couples K ds (c₀ >>= k) c' x y g Q := by
  have hrun : (c₀ >>= k).run x = (k a).run x := by
    change (k (c₀.run x).1).run (c₀.run x).2 = _
    rw [hc]
  obtain ⟨hvalue, hrelated, hkept, hspares, hpost⟩ := hk
  rw [← hrun] at hvalue hrelated hkept hspares hpost
  exact ⟨hvalue, hrelated, hkept, hspares, hpost⟩

/-- A step that is followed by one which only names its result. -/
theorem bind_pure {g' : γ → δ} {f : α → γ} {f' : β → δ} {S : γ → Draft → Prop}
    (h : Couples K ds c c' x y g Q) (hf : ∀ a, f' (g a) = g' (f a))
    (hS : ∀ a z, Q a z → S (f a) z) :
    Couples K ds (c >>= fun a => Pure.pure (f a)) (c' >>= fun b => Pure.pure (f' b)) x y g' S :=
  h.bind fun _ _ _ hq hrel _ => pure hrel (hf _) (hS _ _ hq)

/-- A step that is followed by one which yields a fixed result. -/
theorem then_pure {a : γ} {b : δ} {g' : γ → δ} (h : Couples K ds c c' x y g Q) (hb : b = g' a) :
    Couples K ds (c >>= fun _ => Pure.pure a) (c' >>= fun _ => Pure.pure b) x y g'
      fun _ _ => True := by
  refine h.bind ?_
  intro r x' y' _ hrel _
  exact pure hrel hb trivial

/-! ## Changes -/

variable {s : Site} {i : EntryId} {U : Unit → Draft → Prop}

/-- Reports couple. -/
theorem report (h : K.Related x y) {code : Code} {message : String}
    {details : List (String × Json)} (hU : ∀ z, z.atlas = x.atlas → U () z) :
    Couples K ds (report (K.left s) code message details)
      (report (K.right s) code message details) x y id U :=
  ⟨rfl, K.report h (K.same _), ⟨.refl _, fun _ _ _ => rfl⟩, .of_atlas_eq rfl, hU _ rfl⟩

/-- Adding an entry and its renumbered form couples. -/
theorem addEntry (h : K.Related x y) {e e' : Entry} {p : EntryId} (hp : e.parent = some p)
    (hlt : p < x.atlas.size) (hb : e.IsBlank) (he : e' = e.rename K.rename) :
    Couples K ds (addEntry e) (addEntry e') x y K.rename
      fun id z => id = x.atlas.size ∧ z.atlas.get? id = some e := by
  subst he
  refine ⟨K.fresh h, K.add h hp hlt hb, ⟨Atlas.extends_add e, fun i hi _ => ?_⟩, .add e, rfl, ?_⟩
  · change ((x.atlas.add e).1.get? i).map _ = _
    rw [Atlas.get?_add_of_lt e hi]
    rfl
  · exact Atlas.get?_add_self x.atlas e

/-- A change of one entry, which keeps its kind or is due to a declaration of its symbol. What it
extends and its type parameters are changed only if its symbol may be declared. -/
theorem changeEntry (h : K.Related x y) {f f' : Entry → Entry} (hi : i ≠ Atlas.root)
    (hf : ∀ e, (f e).rename K.rename = f' (e.rename K.rename))
    (hkeeps : ∀ e, x.atlas.get? i = some e → e.Keeps (f e) ∧ (f e).members? = e.members?)
    (hkind : (∀ e, (f e).kind = e.kind) ∨ ¬x.atlas.Outside i ds)
    (hheritage : (∀ e, x.atlas.get? i = some e → (f e).heritage = e.heritage) ∨
      ∀ s, x.atlas.symbolOf i = some s → K.Carried s)
    (hU : ∀ z, z.atlas = x.atlas.modify i f → U () z) :
    Couples K ds (changeEntry i f) (changeEntry (K.rename i) f') x y id U := by
  refine ⟨rfl, K.change h hi hf hkeeps, ⟨?_, fun j hj hout => ?_⟩,
    .modify (fun e he => (hkeeps e he).1) hheritage, hU _ rfl⟩
  · exact Atlas.extends_modify fun e he => (hkeeps e he).1
  · change ((x.atlas.modify i f).get? j).map _ = _
    by_cases hji : j = i
    · subst hji
      obtain ⟨e, he⟩ := Atlas.exists_get? hj
      rw [Atlas.get?_modify_self f he, Option.map_some, Atlas.kindAt, he, Option.map_some,
        (hkind.resolve_right fun hnot => hnot hout) e]
    · rw [Atlas.get?_modify_of_ne f hji]
      rfl

end Conv.Couples

namespace Entry

/-- A change of the details of an entry leaves its members. -/
theorem members?_mapDetails (f : Details → Details) (e : Entry) :
    (e.mapDetails f).members? = e.members? := by
  obtain ⟨name, kind, flags, comment, parent, body⟩ := e
  cases body <;> rfl

/-- A change of the details of an entry leaves its kind. -/
theorem kind_mapDetails (f : Details → Details) (e : Entry) :
    (e.mapDetails f).kind = e.kind := by
  obtain ⟨name, kind, flags, comment, parent, body⟩ := e
  cases body <;> rfl

/-- A change of details that leaves the symbol keeps what is known of the entry. -/
theorem keeps_mapDetails {f : Details → Details} (hf : ∀ d, (f d).symbol = d.symbol) (e : Entry) :
    e.Keeps (e.mapDetails f) := by
  obtain ⟨name, kind, flags, comment, parent, body⟩ := e
  cases body with
  | declaration m d =>
    exact keeps_body rfl (by simp [symbol?, details?, hf])
  | _ => exact .refl _

/-- A change of a signature leaves the members of the entry. -/
theorem members?_mapShape (f : Shape → Shape) (e : Entry) :
    (e.mapShape f).members? = e.members? := by
  obtain ⟨name, kind, flags, comment, parent, body⟩ := e
  cases body <;> rfl

/-- A change of a signature leaves the kind of the entry. -/
theorem kind_mapShape (f : Shape → Shape) (e : Entry) : (e.mapShape f).kind = e.kind := by
  obtain ⟨name, kind, flags, comment, parent, body⟩ := e
  cases body <;> rfl

/-- A change of a signature keeps what is known of the entry. -/
theorem keeps_mapShape (f : Shape → Shape) (e : Entry) : e.Keeps (e.mapShape f) := by
  obtain ⟨name, kind, flags, comment, parent, body⟩ := e
  cases body <;> exact keeps_body rfl rfl

end Entry

/-- The project is no declaration. -/
theorem Atlas.Identified.isDeclaration_root {a : Atlas} (h : a.Identified) :
    a.isDeclaration root = false := by
  obtain ⟨e, m, he, hb, -⟩ := h.project
  rw [isDeclaration_eq he, Entry.isDeclaration, Entry.details?, hb, Option.isSome_none]

/-- A declaration is not the project. -/
theorem Atlas.Identified.ne_root {a : Atlas} (h : a.Identified) {i : EntryId}
    (hi : a.isDeclaration i = true) : i ≠ Atlas.root := by
  rintro rfl
  rw [h.isDeclaration_root] at hi
  cases hi

namespace Conv.Couples

variable {K : Coupling} {ds : List Decl} {x y : Draft} {i : EntryId} {U : Unit → Draft → Prop}

/-- A change of details that leaves the heritage alone or is due to a symbol that may be
declared. -/
theorem changeHeritage (h : K.Related x y) {f f' : Details → Details} (hi : i ≠ Atlas.root)
    (hf : ∀ d, (f d).rename K.rename = f' (d.rename K.rename))
    (hsymbol : ∀ d, (f d).symbol = d.symbol)
    (hheritage : (∀ d, (f d).extended = d.extended ∧ (f d).typeParameters = d.typeParameters) ∨
      ∀ s, x.atlas.symbolOf i = some s → K.Carried s)
    (hU : ∀ z, U () z) :
    Couples K ds (Conv.changeDetails i f) (Conv.changeDetails (K.rename i) f') x y id U := by
  refine changeEntry h hi ?hf ?hkeeps (.inl ?hkind) ?hheritage ?hU
  case hf => exact fun e => e.rename_mapDetails _ hf
  case hkeeps => exact fun e _ => ⟨e.keeps_mapDetails hsymbol, e.members?_mapDetails f⟩
  case hkind => exact fun e => e.kind_mapDetails f
  case hheritage => exact hheritage.imp_left fun hsame e _ => e.heritage_mapDetails hsame
  case hU => exact fun z _ => hU z

/-- A change of details that leaves the heritage alone. -/
theorem changeDetails (h : K.Related x y) {f f' : Details → Details} (hi : i ≠ Atlas.root)
    (hf : ∀ d, (f d).rename K.rename = f' (d.rename K.rename))
    (hsymbol : ∀ d, (f d).symbol = d.symbol)
    (hsame : ∀ d, (f d).extended = d.extended ∧ (f d).typeParameters = d.typeParameters)
    (hU : ∀ z, U () z) :
    Couples K ds (Conv.changeDetails i f) (Conv.changeDetails (K.rename i) f') x y id U :=
  changeHeritage h hi hf hsymbol (Or.inl hsame) hU

/-- A change of the parts of a signature. -/
theorem changeShape (h : K.Related x y) {f f' : Shape → Shape} (hi : i ≠ Atlas.root)
    (hf : ∀ w, (f w).rename K.rename = f' (w.rename K.rename)) (hU : ∀ z, U () z) :
    Couples K ds (Conv.changeEntry i fun e => e.mapShape f)
      (Conv.changeEntry (K.rename i) fun e => e.mapShape f') x y id U := by
  refine changeEntry h hi ?hf ?hkeeps (.inl ?hkind) (.inl ?hheritage) ?hU
  case hf => exact fun e => e.rename_mapShape _ hf
  case hkeeps => exact fun e _ => ⟨e.keeps_mapShape f, e.members?_mapShape f⟩
  case hkind => exact fun e => e.kind_mapShape f
  case hheritage => exact fun e _ => Entry.heritage_eq_of_details?_eq (e.details?_mapShape f)
  case hU => exact fun z _ => hU z

end Conv.Couples

end ApiAtlas
