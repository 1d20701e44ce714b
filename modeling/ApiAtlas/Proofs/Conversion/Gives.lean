import ApiAtlas.Proofs.Conversion.Filled
import ApiAtlas.Proofs.Atlas.Tidy

/-!
# What a step of conversion gives

A step `Gives` what holds of its result and of the draft that it ends in. To lead through a step,
each of its parts runs within bounds, so that the entries outside the bounds are the same after it
(`Draft.Grown`). Here the small steps of conversion give tidy atlases.
-/

set_option autoImplicit false

namespace ApiAtlas

open Source (Decl)

/-- What is known of the draft that a run ends in: it extends the first one, and what the run may
not touch is the same. -/
structure Draft.Grown (A : EntryId → Prop) (x y : Draft) : Prop where
  grows : x.atlas.Extends y.atlas
  identified : y.atlas.Identified
  frame : ∀ j, j < x.atlas.size → ¬ A j → y.atlas.get? j = x.atlas.get? j

/-- A step ends in a result and a draft as required. -/
def Conv.Gives {α : Type} (c : Conv α) (x : Draft) (Q : α → Draft → Prop) : Prop :=
  Q (c.run x).1 (c.run x).2

namespace Conv

variable {α β : Type} {c : Conv α} {x : Draft} {A : EntryId → Prop} {Q R : α → Draft → Prop}

/-- A step that runs lets the draft grow. -/
theorem Runs.grown (h : c.Runs x A Q) (hx : x.atlas.Identified) : x.Grown A (c.run x).2 where
  grows := h.grows hx
  identified := h.identified hx
  frame _ hj hA := h.frame hx hj hA

/-- A run that is also known to give something. -/
theorem Runs.and (h : c.Runs x A Q) (h' : c.Gives x R) :
    c.Runs x A fun a y => Q a y ∧ R a y :=
  ⟨h.chain, h.post, h'⟩

namespace Gives

/-- Yielding a value gives what holds of it already. -/
theorem pure {a : α} (h : Q a x) : (pure a : Conv α).Gives x Q := h

/-- What gives more gives less. -/
theorem mono (h : c.Gives x Q) (hQR : ∀ a y, Q a y → R a y) : c.Gives x R := hQR _ _ h

/-- A step that is noted as a visit gives what it gives otherwise. -/
theorem visiting {c : Conv (Option EntryId)} {Q : Option EntryId → Draft → Prop} {s : Site}
    {d : Decl} {name : String} (h : c.Gives x Q) : (visiting s d name c).Gives x Q := h

/-- A question gives what the steps after it give for the answer. -/
theorem ask_bind {f : Atlas → α} {k : α → Conv β} {S : β → Draft → Prop}
    (hk : (k (f x.atlas)).Gives x S) : (Conv.ask f >>= k).Gives x S := hk

/-- Two steps, the first of which runs within bounds. -/
theorem bind {k : α → Conv β} {S : β → Draft → Prop} (hx : x.atlas.Identified)
    (h : c.Runs x A Q) (hk : ∀ a y, Q a y → x.Grown A y → (k a).Gives y S) :
    (c >>= k).Gives x S :=
  hk _ _ h.post (h.grown hx)

/-- Two steps, where what the first one gives is all that is known after it. -/
theorem seq {k : α → Conv β} {S : β → Draft → Prop} (h : c.Gives x Q)
    (hk : ∀ a y, Q a y → (k a).Gives y S) : (c >>= k).Gives x S :=
  hk _ _ h

/-- A report gives what holds of the atlas already. -/
theorem report {s : Site} {code : Code} {message : String} {details : List (String × Json)}
    {S : Unit → Draft → Prop} (h : ∀ y, y.atlas = x.atlas → S () y) :
    (Conv.report s code message details).Gives x S :=
  h _ rfl

/-- A report gives what the steps after it give from the same atlas. -/
theorem report_bind {s : Site} {code : Code} {message : String} {details : List (String × Json)}
    {k : Unit → Conv β} {S : β → Draft → Prop} (hk : ∀ y, y.atlas = x.atlas → (k ()).Gives y S) :
    (Conv.report s code message details >>= k).Gives x S :=
  hk _ rfl

/-- A change of an entry gives what the steps after it give from the changed atlas. -/
theorem change_bind {i : EntryId} {f : Entry → Entry} {k : Unit → Conv β} {S : β → Draft → Prop}
    (hk : ∀ y, y.atlas = x.atlas.modify i f → (k ()).Gives y S) :
    (changeEntry i f >>= k).Gives x S :=
  hk _ rfl

/-- A step gives what holds of a value that is yielded after it. -/
theorem then_pure {b : β} {S : β → Draft → Prop} (h : c.Gives x fun _ y => S b y) :
    (c >>= fun _ => Pure.pure b).Gives x S :=
  h

end Gives

end Conv

namespace Atlas

variable {a b : Atlas} {i : EntryId} {ids : List EntryId} {ds ds' : List Decl}

/-- Whether an entry is none of the symbols that some declarations carry. -/
def Outside (a : Atlas) (i : EntryId) (ds : List Decl) : Prop :=
  ∀ d ∈ ds, ∀ s, d.Carries s → a.symbolOf i ≠ some s

/-- What is outside of some declarations is outside of fewer of them. -/
theorem Outside.mono (h : a.Outside i ds) (hsub : ds' ⊆ ds) : a.Outside i ds' :=
  fun d hd => h d (hsub hd)

/-- What is outside of some declarations still is in an extension. -/
theorem Outside.grow (h : a.Outside i ds) (hab : a.Extends b) (hi : i < a.size) :
    b.Outside i ds :=
  fun d hd s hs => hab.symbolOf_eq hi ▸ h d hd s hs

/-- An entry without symbol is outside of any declarations. -/
theorem outside_of_symbolOf_eq_none (h : a.symbolOf i = none) : a.Outside i ds := by
  intro d _ s _ hs
  rw [h] at hs
  cases hs

/-- The project is no declaration. -/
theorem Identified.outside_root (h : a.Identified) (ds : List Decl) : a.Outside root ds := by
  obtain ⟨e, m, he, hb, -, -⟩ := h.project
  apply outside_of_symbolOf_eq_none
  rw [symbolOf_eq he, Entry.symbol?, Entry.details?, hb]
  rfl

/-- What is outside of some declarations is out of their reach. -/
theorem Outside.not_reach (h : a.Outside i ds) (hi : i < a.size) (hids : i ∉ ids) :
    ¬ a.Reach ids ds i := by
  rintro (hlt | hmem | ⟨d, hd, s, hs, hsym⟩)
  · exact Nat.lt_irrefl _ (Nat.lt_of_lt_of_le hi hlt)
  · exact hids hmem
  · exact h d hd s hs hsym

/-- A run within reach of some declarations leaves an entry outside of them as it is. -/
theorem Outside.frame {x y : Draft} (h : x.atlas.Outside i ds)
    (hxy : x.Grown (x.atlas.Reach ids ds) y) (hi : i < x.atlas.size) (hids : i ∉ ids) :
    y.atlas.get? i = x.atlas.get? i :=
  hxy.frame i hi (h.not_reach hi hids)

/-- The type of a declaration, or the result of a signature. -/
def typeOf (a : Atlas) (i : EntryId) : Option Ty :=
  (a.get? i).bind Entry.type?

/-- Whether an entry is there and can have type parameters. -/
def IsGeneric (a : Atlas) (i : EntryId) : Prop :=
  ∃ e, a.get? i = some e ∧ e.IsGeneric

/-- What can have type parameters still can in an extension. -/
theorem Extends.isGeneric (h : a.Extends b) (hi : a.IsGeneric i) : b.IsGeneric i := by
  obtain ⟨e, he, hg⟩ := hi
  obtain ⟨e', he', hkeep⟩ := h i e he
  refine ⟨e', he', hg.imp (fun hd => ?_) fun hs => ?_⟩
  · rw [hkeep.isDeclaration, hd]
  · rw [hkeep.isSome_shape, hs]

/-- A declaration still is one in an extension. -/
theorem Extends.isDeclaration (h : a.Extends b) (hi : a.isDeclaration i = true) :
    b.isDeclaration i = true :=
  (h.isDeclaration_eq (lt_of_isDeclaration hi)).trans hi

/-- A declaration has an entry with members and details. -/
theorem exists_body_of_isDeclaration (hi : a.isDeclaration i = true) :
    ∃ e m d, a.get? i = some e ∧ e.body = .declaration m d := by
  unfold Atlas.isDeclaration Atlas.details? at hi
  cases he : a.get? i with
  | none => simp [he] at hi
  | some e =>
    obtain ⟨name, kind, flags, comment, parent, body⟩ := e
    cases body <;> simp [he, Entry.details?] at hi
    exact ⟨_, _, _, rfl, rfl⟩

end Atlas

namespace Conv

variable {x : Draft} {s : Site} {id : EntryId} {P new : List EntryId}

/-- A declaration takes what is owed to it. -/
theorem changeDetails_gives {f : Details → Details} (hd : x.atlas.isDeclaration id = true)
    (h : x.atlas.Owes P id new)
    (hf : ∀ e m d, x.atlas.get? id = some e → e.body = .declaration m d → d.Takes (f d) new) :
    (changeDetails id f).Gives x fun _ y => y.atlas.Tidy P := by
  obtain ⟨e, m, d, he, hb⟩ := Atlas.exists_body_of_isDeclaration hd
  refine Atlas.Tidy.store h he (f := fun e => e.mapDetails f) ?_
  simp only [Entry.mapDetails, hb]
  exact Entry.takes_details hb (hf e m d he hb)

/-- A change of details that are in no slot. -/
theorem changeDetails_gives_tidy {f : Details → Details} (h : x.atlas.Tidy P)
    (hf : ∀ d : Details, d.Takes (f d) []) :
    (changeDetails id f).Gives x fun _ y => y.atlas.Tidy P := by
  refine h.modify fun e _ => ?_
  unfold Entry.mapDetails
  split
  · next m d hb => exact Entry.takes_details hb (hf d)
  · exact Entry.takes_nil rfl rfl

/-- Adding a signature that is owed to a declaration leaves the atlas tidy. -/
theorem addSignature_gives {sig : EntryId} (hd : x.atlas.isDeclaration id = true)
    (h : x.atlas.Owes P id [sig])
    (hlt : ∀ e, x.atlas.get? id = some e → ∀ j ∈ e.held, j < sig) :
    (addSignature id sig).Gives x fun _ y => y.atlas.Tidy P := by
  refine changeDetails_gives hd h fun e m d he hb => Details.takes_signature fun j hj => ?_
  exact hlt e he j (by simp [Entry.held, hb, Details.held, hj])

/-- Setting the type of a declaration leaves the atlas tidy if its inline declarations are owed to
it. -/
theorem setType_gives {t : Option Ty} (hd : x.atlas.isDeclaration id = true)
    (h : x.atlas.Owes P id (t.toList.flatMap Ty.literals)) (hnone : x.atlas.typeOf id = none) :
    (changeDetails id fun d => { d with type := t }).Gives x fun _ y => y.atlas.Tidy P := by
  refine changeDetails_gives hd h fun e m d he hb => Details.takes_type ?_ t
  simpa [Atlas.typeOf, he, Entry.type?, hb] using hnone

/-- Adding bases to a declaration leaves the atlas tidy if their inline declarations are owed to it.
-/
theorem extended_gives {ts : List Ty} (hd : x.atlas.isDeclaration id = true)
    (h : x.atlas.Owes P id (ts.flatMap Ty.literals)) :
    (changeDetails id fun d => { d with extended := extendHeritage d.extended ts }).Gives x
      fun _ y => y.atlas.Tidy P := by
  refine changeDetails_gives hd h fun e m d he hb => ?_
  obtain ⟨kept, heq, -, hlit⟩ := extendHeritage_eq d.extended ts
  rw [heq, ← hlit]
  exact Details.takes_extended kept

/-- Adding interfaces to a declaration leaves the atlas tidy if their inline declarations are owed
to it. -/
theorem implemented_gives {ts : List Ty} (hd : x.atlas.isDeclaration id = true)
    (h : x.atlas.Owes P id (ts.flatMap Ty.literals)) :
    (changeDetails id fun d => { d with implemented := extendHeritage d.implemented ts }).Gives x
      fun _ y => y.atlas.Tidy P := by
  refine changeDetails_gives hd h fun e m d he hb => ?_
  obtain ⟨kept, heq, -, hlit⟩ := extendHeritage_eq d.implemented ts
  rw [heq, ← hlit]
  exact Details.takes_implemented kept

end Conv

end ApiAtlas
