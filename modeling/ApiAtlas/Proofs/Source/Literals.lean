import ApiAtlas.Proofs.Source.WrittenTypes
import ApiAtlas.Source.Inheritance

/-!
# Symbols inside inline objects

An inline object is named by the symbol of the declaration whose type it is and by the byte where it
starts, and by nothing else (`Naming.literalSymbol_inj`); its members are named by it, at any depth
(`InLiteral`). A declaration that is moved to another symbol takes the members inside its types
along: they extend the new symbol as they did the old one (`Decl.IsInline.rebase`).
-/

set_option autoImplicit false

namespace ApiAtlas.Source

/-- Whether a symbol is that of something inside an inline object in a type of an owner. -/
def InLiteral (owner symbol : String) : Prop :=
  ∃ rest, symbol = owner ++ ":__type@" ++ rest

/-- A declaration that is a member of an inline object inside the types of an owner. It holds no
others but those inside its own types, and these are inside its own symbol. -/
structure Decl.IsInline (owner : String) (m : Decl) : Prop where
  origin : m.origin = none
  children : m.children = []
  childless : ∀ k ∈ m.written, k.children = []
  symbol : ∀ x, m.symbol = some x → InLiteral owner x
  inner : ∀ x, m.symbol = some x → ∀ k ∈ m.written, ∀ y, k.symbol = some y → InLiteral x y

/-- Whether the inline objects in the types of a declaration are named by its symbol. A member that
can be inherited has a symbol. -/
structure Decl.KeepsLiterals (d : Decl) : Prop where
  inheritable : d.isInheritable = true → ∃ s, d.symbol = some s ∧ s ≠ ""
  inline : ∃ owner, (∀ s, d.symbol = some s → s = owner) ∧ ∀ m ∈ d.written, m.IsInline owner

/-- Whether the declarations inside a type hold no others but those inside their own types. -/
def TypeExpr.Childless (t : TypeExpr) : Prop :=
  t.Holds (fun _ => True) fun m => m.children = []

variable {owner symbol symbol' old new : String} {m d : Decl}

/-! ## Names -/

/-- What follows the last occurrence of an element is unique. -/
theorem List.eq_of_append_cons_eq {α : Type} {a : α} {xs xs' ys ys' : List α} (h : a ∉ ys)
    (h' : a ∉ ys') (heq : xs ++ a :: ys = xs' ++ a :: ys') : ys = ys' := by
  have hrest : ∀ {zs zs' : List α}, a ∉ zs → ∀ bs, a :: zs = bs ++ a :: zs' → zs = zs' := by
    intro zs zs' hzs bs hbs
    cases bs with
    | nil => exact (List.cons.inj hbs).2
    | cons b bs =>
      refine absurd ?_ hzs
      rw [(List.cons.inj hbs).2]
      exact List.mem_append_right _ List.mem_cons_self
  rcases List.append_eq_append_iff.1 heq with ⟨bs, -, hbs⟩ | ⟨bs, -, hbs⟩
  · exact hrest h bs hbs
  · exact (hrest h' bs hbs).symm

/-- Inline objects are named alike just when they start at the same place below the same owner,
whichever files they are written in. -/
theorem Naming.literalSymbol_inj {owner owner' : String} {start start' : Nat} :
    Naming.literalSymbol owner start = Naming.literalSymbol owner' start' ↔
      owner = owner' ∧ start = start' := by
  constructor
  · intro h
    have hlists : (owner.toList ++ ":__type".toList) ++ '@' :: Nat.toDigits 10 start =
        (owner'.toList ++ ":__type".toList) ++ '@' :: Nat.toDigits 10 start' := by
      simpa [Naming.literalSymbol, Nat.toString_eq_ofList_toDigits] using congrArg String.toList h
    have hat : ∀ n, '@' ∉ Nat.toDigits 10 n := fun n hmem =>
      absurd (Nat.isDigit_of_mem_toDigits (by decide) (by decide) hmem) (by decide)
    have hdigits := List.eq_of_append_cons_eq (hat start) (hat start') hlists
    rw [hdigits] at hlists
    constructor
    · exact String.toList_inj.1 (List.append_cancel_right (List.append_cancel_right hlists))
    · calc
        start = Nat.ofDigitChars 10 (Nat.toDigits 10 start) 0 :=
          Nat.ofDigitChars_ten_toDigits.symm
        _ = Nat.ofDigitChars 10 (Nat.toDigits 10 start') 0 := by rw [hdigits]
        _ = start' := Nat.ofDigitChars_ten_toDigits
  · rintro ⟨rfl, rfl⟩
    rfl
/-! ## Nesting -/

namespace InLiteral

/-- What is inside an inline object of something that is inside one of an owner is inside one of the
owner. -/
theorem trans (h : InLiteral owner symbol) (h' : InLiteral symbol symbol') :
    InLiteral owner symbol' := by
  obtain ⟨rest, rfl⟩ := h
  obtain ⟨rest', rfl⟩ := h'
  exact ⟨rest ++ ":__type@" ++ rest', by simp only [String.append_assoc]⟩

/-- An inline object in a type of an owner has a symbol inside it. -/
theorem literalSymbol (owner : String) (start : Nat) :
    InLiteral owner (Naming.literalSymbol owner start) :=
  ⟨toString start, rfl⟩

/-- A member of what is inside an inline object is inside it. -/
theorem memberSymbol (h : InLiteral owner symbol) (name : String) (isStatic : Bool) :
    InLiteral owner (Naming.memberSymbol symbol name isStatic) := by
  obtain ⟨rest, rfl⟩ := h
  exact ⟨rest ++ (if isStatic then "." else "#") ++ name, by
    simp only [Naming.memberSymbol, String.append_assoc]⟩

/-- What is inside an inline object of an owner is moved to the new owner. -/
theorem moveSymbol_eq (old new rest : String) :
    moveSymbol old new (old ++ ":__type@" ++ rest) = new ++ ":__type@" ++ rest := by
  have hsplit : (old ++ ":__type@" ++ rest).toList =
      old.toList ++ (":__type@" ++ rest).toList := by
    rw [String.append_assoc, String.toList_append]
  have hstart : Text.startsWith (old ++ ":").toList (old ++ ":__type@" ++ rest).toList = true := by
    rw [Text.startsWith, List.isPrefixOf_iff_prefix, hsplit, String.toList_append,
      List.prefix_append_right_inj, String.toList_append]
    exact List.IsPrefix.trans (by decide : ":".toList <+: ":__type@".toList)
      (List.prefix_append _ _)
  rw [moveSymbol, if_pos hstart, hsplit, ← String.length_toList, List.drop_left,
    String.ofList_toList, String.append_assoc]

/-- A symbol inside an inline object of an owner is inside one of another owner after it has been
moved there. -/
theorem moveSymbol (new : String) (h : InLiteral old symbol) :
    InLiteral new (moveSymbol old new symbol) := by
  obtain ⟨rest, rfl⟩ := h
  exact ⟨rest, moveSymbol_eq old new rest⟩

/-- Symbols inside each other are moved to symbols inside each other. -/
theorem moveSymbol_inner (new : String) (h : InLiteral old symbol) (h' : InLiteral symbol symbol') :
    InLiteral (Source.moveSymbol old new symbol) (Source.moveSymbol old new symbol') := by
  obtain ⟨rest, rfl⟩ := h
  obtain ⟨rest', rfl⟩ := h'
  refine ⟨rest', ?_⟩
  have hnested : old ++ ":__type@" ++ rest ++ ":__type@" ++ rest' =
      old ++ ":__type@" ++ (rest ++ ":__type@" ++ rest') := by
    simp only [String.append_assoc]
  rw [hnested, moveSymbol_eq, moveSymbol_eq]
  simp only [String.append_assoc]

end InLiteral

/-- A member of an inline object of what is inside an owner's is one of the owner's. -/
theorem Decl.IsInline.mono (h : InLiteral owner symbol) (hm : m.IsInline symbol) :
    m.IsInline owner :=
  { hm with symbol := fun x hx => h.trans (hm.symbol x hx) }

/-! ## Moving -/

/-- Moving a declaration to another owner leaves its children. -/
@[simp]
theorem Decl.rebase_children (old new : String) (d : Decl) :
    (d.rebase old new).children = d.children := by
  cases d
  rw [rebase]

/-- Moving a declaration to another owner moves its symbol. -/
@[simp]
theorem Decl.rebase_symbol (old new : String) (d : Decl) :
    (d.rebase old new).symbol = d.symbol.map (moveSymbol old new) := by
  cases d
  rw [rebase]

/-- Moving a declaration to another owner leaves its origin. -/
@[simp]
theorem Decl.rebase_origin (old new : String) (d : Decl) :
    (d.rebase old new).origin = d.origin := by
  cases d
  rw [rebase]

section

variable {ts : List TypeExpr}

/-- The declarations in moved types are the moved ones. -/
theorem declsOfTypes_rebase
    (h : ∀ t ∈ ts, (t.rebase old new).decls = t.decls.map (Decl.rebase old new)) :
    declsOfTypes (rebaseTypes old new ts) = (declsOfTypes ts).map (Decl.rebase old new) := by
  induction ts with
  | nil => rfl
  | cons t ts ih =>
    obtain ⟨ht, hts⟩ := List.forall_mem_cons.1 h
    rw [rebaseTypes, declsOfTypes, declsOfTypes, ht, ih hts, List.map_append]

/-- The declarations in a moved type that may be missing are the moved ones. -/
theorem declsOfType?_rebase {t : Option TypeExpr}
    (h : ∀ u ∈ t, (u.rebase old new).decls = u.decls.map (Decl.rebase old new)) :
    declsOfType? (rebaseType old new t) = (declsOfType? t).map (Decl.rebase old new) := by
  cases t with
  | none => rfl
  | some t => exact h t rfl

/-- The declarations in the types of moved parameters are the moved ones. -/
theorem declsOfParams_rebase {ps : List Param}
    (h : ∀ p ∈ ps, ∀ t ∈ p.type, (t.rebase old new).decls = t.decls.map (Decl.rebase old new)) :
    declsOfParams (rebaseParams old new ps) = (declsOfParams ps).map (Decl.rebase old new) := by
  induction ps with
  | nil => rfl
  | cons p ps ih =>
    obtain ⟨name, type, optional, rest, defaultValue⟩ := p
    obtain ⟨hp, hps⟩ := List.forall_mem_cons.1 h
    rw [rebaseParams, declsOfParams, declsOfParams, declsOfType?_rebase hp, ih hps, List.map_append]

/-- The declarations in the types of moved type parameters are the moved ones. -/
theorem declsOfTypeParams_rebase {ps : List TypeParam}
    (h : ∀ p ∈ ps, p.All fun t => (t.rebase old new).decls = t.decls.map (Decl.rebase old new)) :
    declsOfTypeParams (rebaseTypeParams old new ps) =
      (declsOfTypeParams ps).map (Decl.rebase old new) := by
  induction ps with
  | nil => rfl
  | cons p ps ih =>
    obtain ⟨name, constraint, default⟩ := p
    obtain ⟨⟨hc, hd⟩, hps⟩ := List.forall_mem_cons.1 h
    rw [rebaseTypeParams, declsOfTypeParams, declsOfTypeParams, declsOfType?_rebase hc,
      declsOfType?_rebase hd, ih hps, List.map_append, List.map_append]

/-- The declarations in and below moved ones without children are the moved ones. -/
theorem declsOfDecls_rebase {ds : List Decl} (hchildren : ∀ m ∈ declsOf ds, m.children = [])
    (h : ∀ d ∈ ds, (d.rebase old new).written = d.written.map (Decl.rebase old new)) :
    declsOf (rebaseDecls old new ds) = (declsOf ds).map (Decl.rebase old new) := by
  induction ds with
  | nil => rfl
  | cons d ds ih =>
    obtain ⟨hd, hds⟩ := List.forall_mem_cons.1 h
    rw [declsOf, List.forall_mem_cons, List.forall_mem_append] at hchildren
    obtain ⟨hnone, -, hrest⟩ := hchildren
    rw [rebaseDecls, declsOf, declsOf, Decl.nested_eq, Decl.nested_eq, Decl.rebase_children, hnone,
      hd, ih hrest hds]
    simp [declsOf]

/-- What the types on a type parameter satisfy they satisfy too if it follows. -/
theorem TypeParam.All.imp {P P' : TypeExpr → Prop} {q : TypeParam} (h : q.All fun t => P' t → P t)
    (h' : q.All P') : q.All P :=
  ⟨fun t ht => h.1 t ht (h'.1 t ht), fun t ht => h.2 t ht (h'.2 t ht)⟩

/-- The declarations inside moved types are those that were there, moved, when they hold no others
but those inside their types. -/
theorem steps_rebase (old new : String) :
    Steps
      (fun t => t.Childless → (t.rebase old new).decls = t.decls.map (Decl.rebase old new))
      (fun w => w.All TypeExpr.Childless →
        declsOfSignature? (rebaseSignature old new (some w)) = w.decls.map (Decl.rebase old new))
      (fun d => d.AllTypes TypeExpr.Childless →
        (d.rebase old new).written = d.written.map (Decl.rebase old new)) where
  type t ha hm hw := by
    rintro ⟨-, h⟩
    obtain ⟨form, name, symbol, arguments, members, signature, text⟩ := t
    rw [TypeExpr.decls, List.forall_mem_append, List.forall_mem_append] at h
    obtain ⟨⟨harguments, hmembers⟩, hsignature⟩ := h
    -- The declarations inside the arguments, the members and the signature have no children either.
    have hold := (holds_types arguments).1 ⟨fun _ _ => trivial, harguments⟩
    have hnew := (holds_signature? signature).1 ⟨fun _ _ => trivial, hsignature⟩
    rw [TypeExpr.rebase, TypeExpr.decls, TypeExpr.decls, List.map_append, List.map_append]
    congr 1
    · rw [declsOfTypes_rebase fun t ht => ha t ht (hold t ht),
        declsOfDecls_rebase hmembers fun d hd => hm d hd (d.allTypes_holds.2
          ⟨fun _ _ => trivial, fun k hk => hmembers k (mem_declsOf.2
            ⟨d, hd, .inr (d.written_subset_nested hk)⟩)⟩)]
    · cases signature with
      | none => rfl
      | some w => exact hw w rfl (hnew w rfl)
  signature w h := by
    intro hplain
    obtain ⟨parameters, result, typeParameters⟩ := w
    rw [rebaseSignature, declsOfSignature?, Signature.decls, Signature.decls,
      declsOfTypeParams_rebase fun q hq => (h.2.2 q hq).imp (hplain.2.2 q hq),
      declsOfParams_rebase fun q hq t ht => h.1 q hq t ht (hplain.1 q hq t ht),
      declsOfType?_rebase fun t ht => h.2.1 t ht (hplain.2.1 t ht), List.map_append,
      List.map_append]
  decl d _ ht hw hp hb hi := by
    intro h
    obtain ⟨kind, name, symbol, children, modifiers, type, signature, typeParameters, bases,
      interfaces, comment, defaultValue, origin, file, line, form⟩ := d
    have hsignature : declsOfSignature? (rebaseSignature old new signature) =
        (declsOfSignature? signature).map (Decl.rebase old new) := by
      cases signature with
      | none => rfl
      | some w => exact (hw w rfl).1 (h.signature w rfl)
    rw [Decl.rebase, Decl.written, Decl.written,
      declsOfType?_rebase fun t hu => ht t hu (h.type t hu), hsignature,
      declsOfTypeParams_rebase fun q hq => (hp q hq).imp (h.typeParameters q hq),
      declsOfTypes_rebase fun t hu => hb t hu (h.bases t hu),
      declsOfTypes_rebase fun t hu => hi t hu (h.interfaces t hu)]
    simp only [List.map_append]

end

/-- What is inside the types of a moved declaration was there before, and is moved. -/
theorem Decl.written_rebase (old new : String) (h : ∀ m ∈ d.written, m.children = []) :
    (d.rebase old new).written = d.written.map (Decl.rebase old new) :=
  (steps_rebase old new).of_decl d (d.allTypes_holds.2 ⟨fun _ _ => trivial, h⟩)

/-- A member of an inline object that is moved is one of the new owner. -/
theorem Decl.IsInline.rebase (new : String) (h : m.IsInline old) :
    (m.rebase old new).IsInline new := by
  have hsymbol : ∀ x, (m.rebase old new).symbol = some x →
      ∃ s, m.symbol = some s ∧ moveSymbol old new s = x := by
    intro x hx
    rw [Decl.rebase_symbol] at hx
    exact Option.map_eq_some_iff.1 hx
  constructor
  case origin => rw [Decl.rebase_origin, h.origin]
  case children => rw [Decl.rebase_children, h.children]
  case childless =>
    rw [Decl.written_rebase old new h.childless]
    intro k hk
    obtain ⟨c, hc, rfl⟩ := List.mem_map.1 hk
    rw [Decl.rebase_children, h.childless c hc]
  case symbol =>
    intro x hx
    obtain ⟨s, hs, rfl⟩ := hsymbol x hx
    exact (h.symbol s hs).moveSymbol new
  case inner =>
    intro x hx k hk y hy
    obtain ⟨s, hs, rfl⟩ := hsymbol x hx
    rw [Decl.written_rebase old new h.childless] at hk
    obtain ⟨c, hc, rfl⟩ := List.mem_map.1 hk
    rw [Decl.rebase_symbol] at hy
    obtain ⟨t, ht, rfl⟩ := Option.map_eq_some_iff.1 hy
    exact (h.symbol s hs).moveSymbol_inner new (h.inner s hs c hc t ht)

/-- The symbol of a member is not empty. -/
theorem Naming.memberSymbol_ne_empty (owner name : String) (isStatic : Bool) :
    Naming.memberSymbol owner name isStatic ≠ "" := by
  intro h
  have hlength := congrArg String.length h
  simp only [Naming.memberSymbol, String.length_append] at hlength
  cases isStatic <;> simp at hlength

/-- The copy of a member keeps the inline objects under its own symbol. -/
theorem Decl.KeepsLiterals.inheritedBy (D : String) (h : d.KeepsLiterals)
    (hd : d.isInheritable = true) : (d.inheritedBy D).KeepsLiterals := by
  obtain ⟨s, hs, hne⟩ := h.inheritable hd
  obtain ⟨owner, howner, hinline⟩ := h.inline
  obtain rfl := howner s hs
  have hwritten : (d.inheritedBy D).written =
      d.written.map (Decl.rebase s (Naming.memberSymbol D (d.name.getD "") d.isStatic)) := by
    rw [← Decl.written_rebase _ _ fun m hm => (hinline m hm).children, Decl.inheritedBy, hs]
    simp only [String.isEmpty_iff, hne, if_false]
    rfl
  refine ⟨fun _ => ⟨_, rfl, Naming.memberSymbol_ne_empty _ _ _⟩,
    Naming.memberSymbol D (d.name.getD "") d.isStatic, fun t ht => (Option.some.inj ht).symm, ?_⟩
  rw [hwritten]
  intro k hk
  obtain ⟨m, hm, rfl⟩ := List.mem_map.1 hk
  exact (hinline m hm).rebase _

end ApiAtlas.Source
