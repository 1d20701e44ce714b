import ApiAtlas.Proofs.Conversion.Filters
import ApiAtlas.Proofs.Conversion.Kept
import ApiAtlas.Proofs.Source.Owners

/-!
# What a conversion leaves aside

A conversion couples with itself, whatever symbols may be declared in it. So converting some written
declarations, types or type parameters leaves the entries of other symbols aside (`Draft.Aside`):
they stay of their kind, their heritage stays as it is, and none of them is new.
-/

set_option autoImplicit false

namespace ApiAtlas

open Source

/-- Whether some declarations carry a symbol. -/
def Source.Carry (ds : List Decl) (s : String) : Prop :=
  ∃ d ∈ ds, d.Carries s

/-- An empty list of declarations carries no symbol. -/
theorem Source.not_carry_nil (s : String) : ¬Carry [] s :=
  fun ⟨_, hd, _⟩ => List.not_mem_nil hd

/-- An entry whose symbol is not carried by some declarations is outside of them. -/
theorem Atlas.outside_of_symbolOf {a : Atlas} {i : EntryId} {s : String} {ds : List Decl}
    (hi : a.symbolOf i = some s) (hs : ¬Carry ds s) : a.Outside i ds := by
  rintro d hd t ht hit
  obtain rfl : t = s := Option.some.inj (hit.symm.trans hi)
  exact hs ⟨d, hd, ht⟩

/-- When everything is kept, only declarations are dropped: there are none. -/
theorem Source.isDeclared_of_keepAll {top : Bool} {d : Decl} (h : keepAll top d = true) :
    d.kind.isDeclared = true :=
  absurd h Bool.false_ne_true

/-- When everything is kept, what is dropped is not wanted. -/
theorem Conv.unwanted_of_keepAll {settings : Settings} {strict : Prop} {top : Bool} {d : Decl}
    {k : Kind} (h : keepAll top d = true) (_ : strict → k.isIn Kind.topKinds = top) :
    isWanted settings k d = false :=
  absurd h Bool.false_ne_true

/-- When everything is kept, it is wanted as before. -/
theorem Conv.wanted_of_keepAll {settings : Settings} {strict : Prop} {top : Bool} {d : Decl}
    {k : Kind} (_ : keepAll top d = false) (_ : d.kind.isDeclared = true)
    (_ : strict → k.isIn Kind.topKinds = top) : isWanted settings k d = isWanted settings k d :=
  rfl

/-- The coupling of a conversion with itself, when certain symbols may be declared. -/
def Coupling.itself (settings : Settings) (carried : String → Prop) : Coupling :=
  sameNumbers settings settings keepAll False carried isDeclared_of_keepAll
    Conv.unwanted_of_keepAll Conv.wanted_of_keepAll

/-- What a conversion leaves aside in which some declarations are converted and certain symbols may
get another heritage. -/
structure Draft.Aside (inner : List Decl) (heirs : String → Prop) (x y : Draft) : Prop where
  identified : y.atlas.Identified
  details : x.atlas.DetailsGrow y.atlas
  kept : x.Kept inner y
  spares : x.Spares (fun s => Carry inner s ∨ heirs s) y

namespace Draft.Aside

variable {x y z : Draft} {inner inner' : List Decl} {heirs heirs' : String → Prop}

/-- A conversion that does nothing leaves everything aside. -/
theorem refl (hx : x.atlas.Identified) : x.Aside inner heirs x :=
  ⟨hx, .refl _, .refl _ _, .refl _⟩

/-- What a conversion leaves aside includes that the atlas is extended. -/
theorem grows (h : x.Aside inner heirs y) : x.atlas.Extends y.atlas :=
  h.kept.grows

/-- What two conversions in turn leave aside is left aside by both together. -/
theorem trans (h : x.Aside inner heirs y) (h' : y.Aside inner heirs z) : x.Aside inner heirs z :=
  ⟨h'.identified, h.details.trans h'.details, h.kept.trans h'.kept, h.spares.trans h'.spares⟩

/-- With more declarations inside and more heirs, less has to be left aside. -/
theorem mono (h : x.Aside inner heirs y) (hsub : inner ⊆ inner')
    (hheirs : ∀ s, heirs s → heirs' s) : x.Aside inner' heirs' y := by
  refine ⟨h.identified, h.details, h.kept.mono hsub, h.spares.mono ?_⟩
  rintro s (⟨d, hd, hds⟩ | hs)
  · exact .inl ⟨d, hsub hd, hds⟩
  · exact .inr (hheirs s hs)

end Draft.Aside

namespace Conv

variable {α β : Type} {c : Conv α} {c' : Conv β} {x : Draft} {s : Site} {g : α → β}
  {A : EntryId → Prop} {Q R : α → Draft → Prop} {inner : List Decl} {heirs : String → Prop}
  {d : Decl} {i : EntryId}

/-- A step that runs and couples with itself leaves aside what does not concern it. -/
theorem Runs.aside {y : Draft} {settings : Settings} (hr : c.Runs x A R)
    (hx : x.atlas.Identified)
    (h : Couples (.itself settings fun s => Carry inner s ∨ heirs s) inner c c' x y g Q) :
    c.Runs x A fun a z => R a z ∧ x.Aside inner heirs z :=
  hr.and ⟨hr.identified hx, hr.details_grow hx, h.kept, h.spares⟩

/-- The coupling of a conversion with itself allows the declarations whose symbols may be declared.
-/
theorem allows_itself (settings : Settings) :
    (Coupling.itself settings fun s => Carry inner s ∨ heirs s).Allows inner :=
  ⟨fun d hd _ hs => .inl ⟨d, hd, hs⟩, False.elim⟩

/-- A draft is related to itself by the coupling of a conversion with itself. -/
theorem related_itself (settings : Settings) {carried : String → Prop} (hx : x.atlas.Identified) :
    (Coupling.itself settings carried).Related x x :=
  ⟨rfl, hx⟩

/-- Written types leave aside all symbols but those written in them. -/
theorem convertTypes_aside (s : Site) (ts : List TypeExpr) (hx : x.atlas.Identified)
    (hs : s.scope < x.atlas.size) :
    (convertTypes s ts).Runs x (x.atlas.Reach [] (declsOfTypes ts)) fun tys y =>
      Ty.AllOpen tys ∧ x.Aside (declsOfTypes ts) (fun _ => False) y := by
  let K := Coupling.itself s.settings fun t => Carry (declsOfTypes ts) t ∨ False
  have hrelated : K.Related x x := related_itself s.settings hx
  have hallows : K.Allows (declsOfTypes ts) := allows_itself s.settings
  have hruns := convertTypes_runs (fun t (_ : t ∈ ts) => walk.of_type t) hx hs
  exact hruns.aside hx
    (convertTypes_couples (s := s) (fun t _ => (coupledWalk K).of_type t) hrelated hs hallows)

/-- A written type, if there is one, leaves aside all symbols but those written in it. -/
theorem convertType?_aside (s : Site) (t : Option TypeExpr) (hx : x.atlas.Identified)
    (hs : s.scope < x.atlas.size) :
    (convertType? s t).Runs x (x.atlas.Reach [] (declsOfType? t)) fun ty y =>
      (∀ u ∈ ty, u.IsOpen) ∧ x.Aside (declsOfType? t) (fun _ => False) y := by
  let K := Coupling.itself s.settings fun u => Carry (declsOfType? t) u ∨ False
  have hrelated : K.Related x x := related_itself s.settings hx
  have hallows : K.Allows (declsOfType? t) := allows_itself s.settings
  have hruns := convertType?_runs (fun u (_ : u ∈ t) => walk.of_type u) hx hs
  exact hruns.aside hx
    (convertType?_couples (s := s) (fun t _ => (coupledWalk K).of_type t) hrelated hs hallows)

/-- Type parameters leave aside all symbols but those written in them and that of their owner. -/
theorem convertTypeParams_aside (s : Site) {owner : EntryId} (bound : List String)
    (ps : List TypeParam) (hx : x.atlas.Identified) (ho : x.atlas.Hosts owner)
    (hroot : owner ≠ Atlas.root) (hown : ∀ t, x.atlas.symbolOf owner = some t → heirs t) :
    (convertTypeParams s owner bound ps).Runs x (x.atlas.Reach [owner] (declsOfTypeParams ps))
      fun _ y => True ∧ x.Aside (declsOfTypeParams ps) heirs y := by
  let K := Coupling.itself s.settings fun t => Carry (declsOfTypeParams ps) t ∨ heirs t
  have hrelated : K.Related x x := related_itself s.settings hx
  have hallows : K.Allows (declsOfTypeParams ps) := allows_itself s.settings
  have howner : ∀ t, x.atlas.symbolOf owner = some t → K.Carried t :=
    fun t ht => .inr (hown t ht)
  have hruns : (convertTypeParams s owner bound ps).Runs x
      (x.atlas.Reach [owner] (declsOfTypeParams ps)) fun _ _ => True :=
    convertTypeParams_runs (walk.of_typeParams ps) hx ho.noAccessor
  exact hruns.aside hx (convertTypeParams_couples (s := s) ((coupledWalk K).of_typeParams ps)
    hrelated ho.lt hroot (.inr howner) hallows)

/-- A declaration leaves aside all symbols but its own and those of the declarations inside it. -/
theorem convertDecl_aside (s : Site) (d : Decl) (hx : x.atlas.Identified)
    (hs : x.atlas.Hosts s.scope) :
    (convertDecl s d).Runs x (x.atlas.Reach [s.scope] (d :: d.nested)) fun _ y =>
      True ∧ x.Aside (d :: d.nested) (fun _ => False) y := by
  let K := Coupling.itself s.settings fun t => Carry (d :: d.nested) t ∨ False
  have hrelated : K.Related x x := related_itself s.settings hx
  have hallows : K.Allows (d :: d.nested) := allows_itself s.settings
  -- Nothing is left out, so neither the place of the declaration nor what is kept is restricted.
  have hcouples := (coupledWalk K).of_decl d false s x x hrelated hs hallows False.elim rfl
  exact (walk.of_decl d s x hx hs).aside hx hcouples

/-! ## Declarations without members of their own -/

end Conv

namespace Source.Decl

/-- Whether what stands in a declaration is converted. -/
def isContainer (d : Decl) : Bool :=
  d.isClass || d.kind.opensTop || d.kind = .enum

/-- What a declaration is converted by that is no container: all of it but its members, and its
symbol only if it has an entry of its own. -/
def bare (d : Decl) : Decl :=
  { d with children := [], symbol := if d.kind.isDeclared then d.symbol else none }

/-- What is nested in a bare declaration is what is written on it. -/
theorem nested_bare (d : Decl) : d.bare.nested = d.written := by
  rw [nested_eq]
  cases d
  rfl

/-- A bare declaration carries its symbol only if it has an entry of its own, and else those of what
is written on it. -/
theorem carry_bare {d : Decl} {s : String} (h : Carry (d.bare :: d.bare.nested) s) :
    (d.kind.isDeclared = true ∧ d.Carries s) ∨ Carry d.written s := by
  obtain ⟨e, he, hs⟩ := h
  rw [nested_bare] at he
  rcases List.mem_cons.1 he with rfl | he
  · refine .inl ?_
    unfold Carries bare at hs
    dsimp only at hs
    split at hs
    · next hd => exact ⟨hd, hs⟩
    · cases hs
  · exact .inr ⟨e, he, hs⟩

end Source.Decl

namespace Conv

variable {x : Draft} {s : Site} {d : Decl} {i : EntryId} {heirs : String → Prop}

/-- A declaration that is no container is converted as the bare one is. -/
theorem run_convertDecl_bare (h : d.isContainer = false) :
    (convertDecl s d.bare).run = (convertDecl s d).run := by
  obtain ⟨kind, name, symbol, children, modifiers, type, signature, typeParameters, bases,
    interfaces, comment, defaultValue, origin, file, line, form⟩ := d
  cases kind with
  | module | «namespace» | enum | «class» | interface => cases h
  | callSignature | constructSignature | indexSignature =>
    unfold Decl.bare
    rw [convertDecl, convertDecl]
  | _ =>
    unfold Decl.bare
    rw [convertDecl, convertDecl]
    rfl

/-- A declaration that is no container leaves aside all symbols but its own and those that are
written in its types. -/
theorem convertDecl_aside_of_bare (s : Site) (h : d.isContainer = false)
    (hx : x.atlas.Identified) (hs : x.atlas.Hosts s.scope) :
    x.Aside (d.bare :: d.bare.nested) (fun _ => False) ((convertDecl s d).run x).2 :=
  run_convertDecl_bare h ▸ (convertDecl_aside s d.bare hx hs).post.2

/-! ## Opening a class -/

/-- Filling a class up to its members, which yields the site that these stand at. -/
def openClass (s : Site) (d : Decl) (id : EntryId) : Conv Site := do
  let bound ← knownOrNew (fun id => convertTypeParams s id [] d.typeParameters) id
  let inner := s.within id bound
  let extended ← convertTypes inner d.bases
  changeDetails id fun x => { x with extended := extendHeritage x.extended extended }
  let implemented ← convertTypes inner d.interfaces
  changeDetails id fun x => { x with implemented := extendHeritage x.implemented implemented }
  return inner

/-- Filling a class is opening it and then converting the members at the site that is open. -/
theorem run_fillClass (s : Site) (d : Decl) (members : Site → Conv (List EntryId)) (id : EntryId)
    (x : Draft) :
    ((fillClass s (fun id => convertTypeParams s id [] d.typeParameters)
        (fun s => convertTypes s d.bases) (fun s => convertTypes s d.interfaces) members
        id).run x).2 =
      ((members ((openClass s d id).run x).1).run ((openClass s d id).run x).2).2 := rfl

/-- A change of details leaves aside the kinds of all entries, and the heritage of all others. -/
theorem changeDetails_aside (heirs : String → Prop) {f : Details → Details} {A : EntryId → Prop}
    {R : Unit → Draft → Prop} (hr : (changeDetails i f).Runs x A R) (hx : x.atlas.Identified)
    (hroot : i ≠ Atlas.root) (hsymbol : ∀ d, (f d).symbol = d.symbol)
    (hheritage : (∀ d, (f d).extended = d.extended ∧ (f d).typeParameters = d.typeParameters) ∨
      ∀ t, x.atlas.symbolOf i = some t → heirs t) :
    (changeDetails i f).Runs x A fun a y => R a y ∧ x.Aside [] heirs y := by
  have hcouples : Couples (.itself {} fun s => Carry [] s ∨ heirs s) [] (changeDetails i f)
      (changeDetails i f) x x id fun _ _ => True := by
    refine .changeHeritage (related_itself {} hx) hroot (fun d => ?_) hsymbol
      (hheritage.imp_right fun hown t ht => .inr (hown t ht)) fun _ => trivial
    change Details.rename id (f d) = f (Details.rename id d)
    rw [Details.rename_id, Details.rename_id]
  exact hr.aside hx hcouples

end Conv

end ApiAtlas
