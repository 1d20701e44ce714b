import ApiAtlas.Proofs.Reading.Plain
import ApiAtlas.Proofs.Source.Literals

/-!
# Reading types

Two readings of a type that bind names otherwise go alike. The first one binds every reference that
it writes, and gives everything inside inline objects a symbol that extends the one of the place
(`Place.Writes`). The proof follows the walk over the tree, one theorem for each of its functions.
-/

set_option autoImplicit false

namespace ApiAtlas.Source

/-- Whether a type is as it is written at a place: its references are bound under the scopes of the
place, and its inline members stand under the owner. -/
def Place.Writes (p : Place) (mentions : List (List String × String)) (t : TypeExpr) : Prop :=
  t.Holds (fun u => u.form = .reference → p.page.Binds mentions p.scopes u)
    (Decl.IsInline p.owner)

/-- Whether a declaration is a member of the owner of a place: its types are written under its own
symbol, or under that of the owner if it has none. -/
structure Place.HasMember (p : Place) (mentions : List (List String × String)) (d : Decl) :
    Prop where
  children : d.children = []
  origin : d.origin = none
  inheritable : d.isInheritable = true → d.symbol.isSome
  types : ∃ owner, d.AllTypes ((p.under owner).Writes mentions) ∧
    (d.symbol = none ∧ owner = p.owner ∨
      ∃ name isStatic, d.symbol = some owner ∧ owner = Naming.memberSymbol p.owner name isStatic)

variable {mentions : List (List String × String)} {bind : List String → String → String}
  {p : Place}

/-- A place with names bound otherwise is on the page with names bound otherwise. -/
@[simp]
theorem Place.rebind_page : (p.rebind bind).page = p.page.rebind bind := rfl

/-- A place with names bound otherwise has the same owner. -/
@[simp]
theorem Place.rebind_owner : (p.rebind bind).owner = p.owner := rfl

/-- Binding names otherwise goes together with going under an owner. -/
@[simp]
theorem Place.rebind_under (owner : String) :
    (p.rebind bind).under owner = (p.under owner).rebind bind := rfl

namespace Place.Writes

/-- A type without parts that is not a reference. -/
theorem plain {t : TypeExpr} (hform : t.form ≠ .reference) (harguments : t.arguments = [])
    (hmembers : t.members = []) (hsignature : t.signature = none) : p.Writes mentions t :=
  TypeExpr.holds_of_parts (fun h => absurd h hform) (by simp [harguments]) (by simp [hmembers])
    (by simp [hsignature])

/-- A reference that is bound at a place is written there. -/
theorem reference {name : String} {arguments : List TypeExpr}
    (hname : (p.scopes, name) ∈ mentions) (harguments : ∀ t ∈ arguments, p.Writes mentions t) :
    p.Writes mentions { TypeExpr.ofReference name (some (p.page.bind p.scopes name)) with
      arguments := arguments } :=
  TypeExpr.holds_of_parts (fun _ => ⟨name, rfl, rfl, hname⟩) harguments (List.forall_mem_nil _)
    nofun

/-- A type that consists of types written at a place is written there. -/
theorem parts {form : TypeForm} {ts : List TypeExpr} (hform : form ≠ .reference)
    (h : ∀ t ∈ ts, p.Writes mentions t) : p.Writes mentions (.ofParts form ts) :=
  TypeExpr.holds_of_parts (fun h => absurd h hform) h (List.forall_mem_nil _) nofun

/-- A function type whose signature is written at a place is written there. -/
theorem function {w : Signature} (h : w.All (p.Writes mentions)) :
    p.Writes mentions { form := .function, signature := some w } :=
  TypeExpr.holds_of_parts nofun (List.forall_mem_nil _) (List.forall_mem_nil _)
    fun _ hw => Option.mem_some.1 hw ▸ h

/-- An inline object: its members are members of the symbol that names it. -/
theorem object {owner : String} {members : List Decl} (howner : InLiteral p.owner owner)
    (h : ∀ d ∈ members, (p.under owner).HasMember mentions d) :
    p.Writes mentions { form := .object, members := members } := by
  refine TypeExpr.holds_of_parts nofun (List.forall_mem_nil _) (fun d hd => ?_) nofun
  obtain ⟨hchildren, horigin, -, s, htypes, hsymbol⟩ := h d hd
  obtain ⟨hreferences, hinline⟩ := d.allTypes_holds.1 htypes
  have hs : InLiteral p.owner s := by
    rcases hsymbol with ⟨-, rfl⟩ | ⟨name, isStatic, -, rfl⟩
    · exact howner
    · exact howner.memberSymbol name isStatic
  have hown : ∀ x, d.symbol = some x → x = s := by
    rintro x hx
    rcases hsymbol with ⟨hnone, -⟩ | ⟨-, -, hsome, -⟩
    · rw [hnone] at hx
      cases hx
    · exact Option.some.inj (hx.symm.trans hsome)
  rw [Decl.within_eq, Decl.nested_eq, hchildren]
  refine ⟨hreferences, ⟨horigin, hchildren, fun k hk => (hinline k hk).children, ?_, ?_⟩, ?_⟩
  · rintro x hx
    exact hown x hx ▸ hs
  · rintro x hx k hk y hy
    exact hown x hx ▸ (hinline k hk).symbol y hy
  · exact fun k hk => (hinline k hk).mono hs

end Place.Writes

namespace Place.HasMember

open Reading (openedDecl)

variable {kind : DeclKind} {t : SyntaxTree} {name symbol : String} {modifiers : List String}
  {comment : Option Comment} {isStatic : Bool}

/-- A declaration with a type that is written under its symbol is a member. -/
theorem typed {type : Option TypeExpr} {value : Option String}
    (hsymbol : symbol = Naming.memberSymbol p.owner name isStatic)
    (htype : ∀ u ∈ type, (p.under symbol).Writes mentions u) :
    p.HasMember mentions
      { openedDecl p.page kind t (some name) (some symbol) modifiers comment with
        type := type, defaultValue := value } :=
  ⟨rfl, rfl, fun _ => rfl, symbol, .of_type htype (List.forall_mem_nil _) ⟨rfl, rfl, rfl⟩,
    .inr ⟨name, isStatic, rfl, hsymbol⟩⟩

/-- A declaration with a signature that is written under its symbol is a member. -/
theorem callable {w : Signature}
    (hsymbol : symbol = Naming.memberSymbol p.owner name isStatic)
    (hw : w.All ((p.under symbol).Writes mentions)) :
    p.HasMember mentions
      { openedDecl p.page kind t (some name) (some symbol) modifiers comment with
        signature := some w } :=
  ⟨rfl, rfl, fun _ => rfl, symbol, .of_signature hw rfl ⟨rfl, rfl, rfl, rfl⟩,
    .inr ⟨name, isStatic, rfl, hsymbol⟩⟩

/-- A member without a name writes its types under the owner. -/
theorem nameless {w : Signature}
    (hkind : kind ∈ [DeclKind.callSignature, .constructSignature, .indexSignature])
    (hw : w.All (p.Writes mentions)) :
    p.HasMember mentions
      { openedDecl p.page kind t none none modifiers comment with signature := some w } := by
  refine ⟨rfl, rfl, fun h => ?_, p.owner, .of_signature hw rfl ⟨rfl, rfl, rfl, rfl⟩,
    .inl ⟨rfl, rfl⟩⟩
  simp only [List.mem_cons, List.not_mem_nil, or_false] at hkind
  rcases hkind with rfl | rfl | rfl <;> cases h

end Place.HasMember

namespace Reading

/-! ## Signatures -/

variable {W : TypeExpr → Prop}

/-- Reading a signature goes alike when reading its parameters, its result and its type parameters
does. -/
theorem signatureOf_alike {several single several' single' : Option (Reading (List Param))}
    {result result' : Reading (Option TypeExpr)}
    {typeParameters typeParameters' : Reading (List TypeParam)}
    (hseveral : Alike? mentions several several' fun ps => ∀ q ∈ ps, ∀ t ∈ q.type, W t)
    (hsingle : Alike? mentions single single' fun ps => ∀ q ∈ ps, ∀ t ∈ q.type, W t)
    (hresult : Alike mentions result result' fun r => ∀ t ∈ r, W t)
    (htypeParameters : Alike mentions typeParameters typeParameters' fun qs => ∀ q ∈ qs, q.All W) :
    Alike mentions (signatureOf several single result typeParameters)
      (signatureOf several' single' result' typeParameters') fun w => w.All W := by
  have hparameters : Alike mentions ((several.or single).getD (pure []))
      ((several'.or single').getD (pure [])) fun ps => ∀ q ∈ ps, ∀ t ∈ q.type, W t :=
    (hseveral.or hsingle).getD (.pure (List.forall_mem_nil _))
  refine .bind hparameters fun ps ps' => ?_
  refine .bind hresult fun r r' => ?_
  refine .bind htypeParameters fun qs qs' => ?_
  exact .pure fun hqs hr hps => ⟨hps, hr, hqs⟩

/-- Reading the parameter of an index signature goes alike when reading the type of its keys does.
-/
theorem indexParams_alike (cs : List SyntaxTree) {keys keys' : Option (Reading TypeExpr)}
    (hkeys : Alike? mentions keys keys' W) :
    Alike mentions (indexParams p cs keys) (indexParams (p.rebind bind) cs keys') fun ps =>
      ∀ q ∈ ps, ∀ t ∈ q.type, W t := by
  unfold indexParams
  dsimp only
  split
  · exact .pure (List.forall_mem_nil _)
  · refine .steady_bind (textOf_steady _) fun name _ => ?_
    rcases hkeys with ⟨rfl, rfl⟩ | ⟨m, m', rfl, rfl, h⟩
    · exact .pure (List.forall_mem_singleton.2 nofun)
    · refine .bind h fun t t' => .pure fun ht => ?_
      exact List.forall_mem_singleton.2 fun u hu => Option.mem_some.1 hu ▸ ht

/-- What stands in a field of some name, if it writes a type there; a node that only wraps a type
is taken off. -/
def slot? (p : Place) (name : String) : List SyntaxTree → Option (Reading TypeExpr)
  | [] => none
  | t :: ts =>
    if t.field = some name then
      if isWrapper t.kind then firstType p t.children
      else if isPredicate t.kind then some (pure (.ofIntrinsic "boolean"))
      else some (readType p t)
    else slot? p name ts

/-- The type in a field is what its slot yields, if there is one. -/
theorem slotAt_eq (p : Place) (name : String) (ts : List SyntaxTree) :
    slotAt p name ts = match slot? p name ts with
      | some type => some <$> type
      | none => pure none := by
  induction ts with
  | nil => rw [slotAt, slot?]
  | cons t ts ih =>
    obtain ⟨k, start, stop, named, field, cs⟩ := t
    rw [slotAt, slot?, ih]
    split
    · split
      · cases firstType p cs <;> simp
      · split <;> simp
    · rfl

/-! ## The walk -/

/-- The reading of a slot, once the type in it is read alike. -/
theorem slotAt_alike_of {name : String} {ts : List SyntaxTree}
    (h : Alike? mentions (slot? p name ts) (slot? (p.rebind bind) name ts) (p.Writes mentions)) :
    Alike mentions (slotAt p name ts) (slotAt (p.rebind bind) name ts) fun r =>
      ∀ t ∈ r, p.Writes mentions t := by
  rw [slotAt_eq, slotAt_eq]
  rcases h with ⟨h, h'⟩ | ⟨m, m', h, h', hm⟩ <;> rw [h, h']
  · exact .pure (by simp)
  · exact .map hm fun t ht u hu => Option.mem_some.1 hu ▸ ht

/-- Reading an unknown type goes alike with itself, and the type is written anywhere. -/
theorem unknown_alike (page : Page) (t : SyntaxTree) :
    Alike mentions (unknown page t) (unknown page t) (p.Writes mentions) :=
  .of_steady ((unknown_steady t).mono fun _ ⟨_, hu⟩ => hu ▸ .plain nofun rfl rfl rfl)

mutual

/-- Reading a type goes alike however names are bound, and the type is written at the place. -/
theorem readType_alike (p : Place) : ∀ t : SyntaxTree,
    Alike mentions (readType p t) (readType (p.rebind bind) t) (p.Writes mentions)
  | ⟨kind, start, stop, named, field, cs⟩ => by
    rw [readType, readType]
    generalize TypeNode.ofKind kind = node
    cases node with
    | builtin =>
      exact .steady_bind (textOf_steady _) fun name _ => .pure (.plain nofun rfl rfl rfl)
    | name =>
      refine .steady_bind (textOf_steady _) fun name _ => ?_
      exact .mono (.reference p bind name) fun t ⟨ht, hname⟩ =>
        ht ▸ .reference hname (List.forall_mem_nil _)
    | generic =>
      simp only [Place.rebind_page, textAt_rebind]
      refine .steady_bind (textAt_steady _ _) fun name _ => ?_
      refine .bind (.reference p bind name) fun base base' => ?_
      refine .bind (argumentsAt_alike p _ cs) fun ts ts' => .pure fun hts ⟨hbase, hname⟩ => ?_
      exact hbase ▸ .reference hname hts
    | union | intersection =>
      exact .bind (readFlat_alike p kind cs) fun _ _ => .pure (.parts nofun)
    | array =>
      rcases firstType_alike p cs with ⟨h, h'⟩ | ⟨m, m', h, h', hm⟩ <;> rw [h, h']
      · exact unknown_alike _ _
      · exact .bind hm fun _ _ => .pure fun ht => .parts nofun (List.forall_mem_singleton.2 ht)
    | tuple => exact .bind (readTupleParts_alike p cs) fun _ _ => .pure (.parts nofun)
    | wrapped => exact (firstType_alike p cs).getD (unknown_alike _ _)
    | literal =>
      refine .of_steady ((literal_steady _).mono ?_)
      rintro u ⟨form, name, text, hform, rfl⟩
      exact .plain hform rfl rfl rfl
    | self => exact .pure (.plain nofun rfl rfl rfl)
    | object =>
      refine .steady_bind (declare_steady _) fun owner howner => ?_
      refine .bind (readObjectMembers_alike (p.under owner) none cs) fun ds ds' => .pure ?_
      exact .object (howner ▸ .literalSymbol _ _)
    | function =>
      refine .bind (signatureOf_alike (parametersAt_alike p _ cs) (parametersAt_alike p _ cs)
        (slotAt_alike_of (slot?_alike p _ cs)) (typeParametersAt_alike p _ cs)) fun w w' => ?_
      exact .pure .function
    | other => exact unknown_alike _ _

/-- Reading types goes alike however names are bound, and the types are written at the place. -/
theorem readTypes_alike (p : Place) : ∀ ts : List SyntaxTree,
    Alike mentions (readTypes p ts) (readTypes (p.rebind bind) ts) fun us =>
      ∀ u ∈ us, p.Writes mentions u
  | [] => by
    rw [readTypes, readTypes]
    exact .pure (List.forall_mem_nil _)
  | t :: ts => by
    rw [readTypes, readTypes]
    split
    · exact .cons (readType_alike p t) (readTypes_alike p ts)
    · exact readTypes_alike p ts

/-- Reading the first type among some nodes goes alike however names are bound, and the type is
written at the place. -/
theorem firstType_alike (p : Place) : ∀ ts : List SyntaxTree,
    Alike? mentions (firstType p ts) (firstType (p.rebind bind) ts) (p.Writes mentions)
  | [] => by
    rw [firstType, firstType]
    exact .none
  | t :: ts => by
    rw [firstType, firstType]
    split
    · exact .some (readType_alike p t)
    · exact firstType_alike p ts

/-- Reading a union or an intersection flat goes alike however names are bound, and its parts are
written at the place. -/
theorem readFlat_alike (p : Place) (kind : String) : ∀ ts : List SyntaxTree,
    Alike mentions (readFlat p kind ts) (readFlat (p.rebind bind) kind ts) fun us =>
      ∀ u ∈ us, p.Writes mentions u
  | [] => by
    rw [readFlat, readFlat]
    exact .pure (List.forall_mem_nil _)
  | ⟨k, start, stop, named, field, cs⟩ :: ts => by
    rw [readFlat, readFlat]
    split
    · exact readFlat_alike p kind ts
    split
    · exact .append (readFlat_alike p kind cs) (readFlat_alike p kind ts)
    · exact .cons (readType_alike p ⟨k, start, stop, named, field, cs⟩) (readFlat_alike p kind ts)

/-- Reading the parts of a tuple goes alike however names are bound, and they are written at the
place. -/
theorem readTupleParts_alike (p : Place) : ∀ ts : List SyntaxTree,
    Alike mentions (readTupleParts p ts) (readTupleParts (p.rebind bind) ts) fun us =>
      ∀ u ∈ us, p.Writes mentions u
  | [] => by
    rw [readTupleParts, readTupleParts]
    exact .pure (List.forall_mem_nil _)
  | ⟨k, start, stop, named, field, cs⟩ :: ts => by
    rw [readTupleParts, readTupleParts]
    split
    · exact readTupleParts_alike p ts
    split
    · exact .cons ((firstType_alike p cs).getD (unknown_alike _ _)) (readTupleParts_alike p ts)
    split
    · rw [slotAt_eq, slotAt_eq]
      rcases slot?_alike p "type" cs with ⟨h, h'⟩ | ⟨m, m', h, h', hm⟩ <;> rw [h, h']
      · simp only [pure_bind]
        exact .cons (unknown_alike _ _) (readTupleParts_alike p ts)
      · simp only [bind_map_left]
        exact .cons hm (readTupleParts_alike p ts)
    · exact .cons (readType_alike p ⟨k, start, stop, named, field, cs⟩) (readTupleParts_alike p ts)

/-- Reading the type in a field goes alike however names are bound, and the type is written at the
place. -/
theorem typeAt_alike (p : Place) (name : String) : ∀ ts : List SyntaxTree,
    Alike? mentions (typeAt p name ts) (typeAt (p.rebind bind) name ts) (p.Writes mentions)
  | [] => by
    rw [typeAt, typeAt]
    exact .none
  | t :: ts => by
    rw [typeAt, typeAt]
    split
    · exact .some (readType_alike p t)
    · exact typeAt_alike p name ts

/-- Reading what stands in a field goes alike however names are bound, and the type is written at
the place. -/
theorem slot?_alike (p : Place) (name : String) : ∀ ts : List SyntaxTree,
    Alike? mentions (slot? p name ts) (slot? (p.rebind bind) name ts) (p.Writes mentions)
  | [] => by
    rw [slot?, slot?]
    exact .none
  | ⟨k, start, stop, named, field, cs⟩ :: ts => by
    rw [slot?, slot?]
    dsimp only
    split
    · split
      · exact firstType_alike p cs
      split
      · exact .some (.pure (.plain nofun rfl rfl rfl))
      · exact .some (readType_alike p ⟨k, start, stop, named, field, cs⟩)
    · exact slot?_alike p name ts

/-- Reading type arguments in a field goes alike however names are bound, and they are written at
the place. -/
theorem argumentsAt_alike (p : Place) (name : String) : ∀ ts : List SyntaxTree,
    Alike mentions (argumentsAt p name ts) (argumentsAt (p.rebind bind) name ts) fun us =>
      ∀ u ∈ us, p.Writes mentions u
  | [] => by
    rw [argumentsAt, argumentsAt]
    exact .pure (List.forall_mem_nil _)
  | ⟨_, _, _, _, field, cs⟩ :: ts => by
    rw [argumentsAt, argumentsAt]
    split
    · exact readTypes_alike p cs
    · exact argumentsAt_alike p name ts

/-- Reading the parameters in a field goes alike however names are bound, and their types are
written at the place. -/
theorem parametersAt_alike (p : Place) (name : String) : ∀ ts : List SyntaxTree,
    Alike? mentions (parametersAt p name ts) (parametersAt (p.rebind bind) name ts) fun qs =>
      ∀ q ∈ qs, ∀ t ∈ q.type, p.Writes mentions t
  | [] => by
    rw [parametersAt, parametersAt]
    exact .none
  | ⟨k, start, stop, named, field, cs⟩ :: ts => by
    rw [parametersAt, parametersAt]
    split
    · split
      · exact .some (.steady_bind (textOf_steady _) fun _ _ =>
          .pure (List.forall_mem_singleton.2 nofun))
      · exact .some (readParams_alike p cs)
    · exact parametersAt_alike p name ts

/-- Reading parameters goes alike however names are bound, and their types are written at the place.
-/
theorem readParams_alike (p : Place) : ∀ ts : List SyntaxTree,
    Alike mentions (readParams p ts) (readParams (p.rebind bind) ts) fun qs =>
      ∀ q ∈ qs, ∀ t ∈ q.type, p.Writes mentions t
  | [] => by
    rw [readParams, readParams]
    exact .pure (List.forall_mem_nil _)
  | ⟨k, _, _, named, _, cs⟩ :: ts => by
    rw [readParams, readParams]
    simp only [Place.rebind_page, textOf?_rebind, parameterName_rebind]
    split
    · exact readParams_alike p ts
    · have hname : Steady (match SyntaxTree.at? "pattern" cs with
          | some pattern => parameterName p.page pattern
          | none => pure none) fun _ => True := by
        split
        · exact parameterName_steady _
        · exact .pure trivial
      refine .steady_bind hname fun found _ => ?_
      cases found with
      | none => exact readParams_alike p ts
      | some found =>
        refine .bind (slotAt_alike_of (slot?_alike p _ cs)) fun type type' => ?_
        refine .steady_bind (textOf?_steady _) fun value _ => ?_
        refine .bind (readParams_alike p ts) fun qs qs' => .pure fun hqs htype => ?_
        exact List.forall_mem_cons.2 ⟨htype, hqs⟩

/-- Reading the type parameters in a field goes alike however names are bound, and their types are
written at the place. -/
theorem typeParametersAt_alike (p : Place) (name : String) : ∀ ts : List SyntaxTree,
    Alike mentions (typeParametersAt p name ts) (typeParametersAt (p.rebind bind) name ts) fun qs =>
      ∀ q ∈ qs, q.All (p.Writes mentions)
  | [] => by
    rw [typeParametersAt, typeParametersAt]
    exact .pure (List.forall_mem_nil _)
  | ⟨_, _, _, _, field, cs⟩ :: ts => by
    rw [typeParametersAt, typeParametersAt]
    split
    · exact readTypeParams_alike p cs
    · exact typeParametersAt_alike p name ts

/-- Reading type parameters goes alike however names are bound, and their types are written at the
place. -/
theorem readTypeParams_alike (p : Place) : ∀ ts : List SyntaxTree,
    Alike mentions (readTypeParams p ts) (readTypeParams (p.rebind bind) ts) fun qs =>
      ∀ q ∈ qs, q.All (p.Writes mentions)
  | [] => by
    rw [readTypeParams, readTypeParams]
    exact .pure (List.forall_mem_nil _)
  | ⟨k, _, _, named, _, cs⟩ :: ts => by
    rw [readTypeParams, readTypeParams]
    simp only [Place.rebind_page, textAt_rebind]
    split
    · exact readTypeParams_alike p ts
    · refine .steady_bind (textAt_steady _ _) fun name _ => ?_
      refine .bind (slotAt_alike_of (slot?_alike p _ cs)) fun c c' => ?_
      refine .bind (slotAt_alike_of (slot?_alike p _ cs)) fun d d' => ?_
      refine .bind (readTypeParams_alike p ts) fun qs qs' => .pure fun hqs hd hc => ?_
      exact List.forall_mem_cons.2 ⟨⟨hc, hd⟩, hqs⟩

/-- Reading the members of an object type goes alike however names are bound, and yields members. -/
theorem readObjectMembers_alike (p : Place) (before : Option SyntaxTree) :
    ∀ ts : List SyntaxTree,
    Alike mentions (readObjectMembers p before ts) (readObjectMembers (p.rebind bind) before ts)
      fun ds => ∀ d ∈ ds, p.HasMember mentions d
  | [] => by
    rw [readObjectMembers, readObjectMembers]
    exact .pure (List.forall_mem_nil _)
  | ⟨k, start, stop, named, field, cs⟩ :: ts => by
    rw [readObjectMembers, readObjectMembers]
    simp only [Place.rebind_page, openMember_rebind, openDecl_rebind, readModifiers_rebind]
    split
    · exact readObjectMembers_alike p before ts
    · generalize MemberNode.ofKind k = node
      cases node with
      | property =>
        refine .steady_bind (openMember_steady _ _ _) ?_
        rintro _ ⟨name, symbol, modifiers, comment, hsymbol, rfl⟩
        refine .bind (slotAt_alike_of (slot?_alike (p.under symbol) _ cs)) fun type type' => ?_
        exact .bind (readObjectMembers_alike p _ ts) fun ds ds' => .pure fun hds htype =>
          List.forall_mem_cons.2 ⟨.typed hsymbol htype, hds⟩
      | method =>
        refine .steady_bind (openMember_steady _ _ _) ?_
        rintro _ ⟨name, symbol, modifiers, comment, hsymbol, rfl⟩
        refine .bind (signatureOf_alike (parametersAt_alike (p.under symbol) _ cs)
          (parametersAt_alike (p.under symbol) _ cs)
          (slotAt_alike_of (slot?_alike (p.under symbol) _ cs))
          (typeParametersAt_alike (p.under symbol) _ cs)) fun w w' => ?_
        exact .bind (readObjectMembers_alike p _ ts) fun ds ds' => .pure fun hds hw =>
          List.forall_mem_cons.2 ⟨.callable hsymbol hw, hds⟩
      -- These have no symbol of their own, so their types are written under the owner's.
      | call | construct =>
        refine .steady_bind (openDecl_steady _ _ _ _ _ _) ?_
        rintro _ ⟨comment, rfl⟩
        refine .bind (signatureOf_alike (parametersAt_alike p _ cs) (parametersAt_alike p _ cs)
          (slotAt_alike_of (slot?_alike p _ cs)) (typeParametersAt_alike p _ cs)) fun w w' => ?_
        exact .bind (readObjectMembers_alike p _ ts) fun ds ds' => .pure fun hds hw =>
          List.forall_mem_cons.2 ⟨.nameless (by decide) hw, hds⟩
      | index =>
        refine .steady_bind (readModifiers_steady _ _) fun modifiers _ => ?_
        refine .steady_bind (openDecl_steady _ _ _ _ _ _) ?_
        rintro _ ⟨comment, rfl⟩
        refine .bind (indexParams_alike cs (typeAt_alike p _ cs)) fun qs qs' => ?_
        refine .bind (slotAt_alike_of (slot?_alike p _ cs)) fun r r' => ?_
        refine .bind (readObjectMembers_alike p _ ts) fun ds ds' => .pure fun hds hr hqs => ?_
        exact List.forall_mem_cons.2
          ⟨.nameless (by decide) ⟨hqs, hr, List.forall_mem_nil _⟩, hds⟩
      | other => exact readObjectMembers_alike p _ ts

end

/-- Reading a type that may be missing in a field goes alike however names are bound, and the type
is written at the place. -/
theorem slotAt_alike (p : Place) (name : String) (ts : List SyntaxTree) :
    Alike mentions (slotAt p name ts) (slotAt (p.rebind bind) name ts) fun r =>
      ∀ t ∈ r, p.Writes mentions t :=
  slotAt_alike_of (slot?_alike p name ts)

end Reading

end ApiAtlas.Source
