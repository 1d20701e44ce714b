import ApiAtlas.Proofs.Reading.Types
import ApiAtlas.Proofs.Source.Scopes
import Mathlib.Data.List.Basic

/-!
# Reading declarations

Two readings of a declaration that bind names otherwise go alike. What the first one yields is
declared at its place (`Place.Declares`): its types and those of its members are bound in the
scopes of the place, the inline objects in them are named by the declaration that they belong to,
and nothing is a copy.
-/

set_option autoImplicit false

namespace ApiAtlas.Source

/-- Whether the types on a declaration are bound in the scopes of a place. -/
def Place.BindsTypes (p : Place) (mentions : List (List String × String)) (d : Decl) : Prop :=
  ∀ t ∈ d.types, t.form = .reference → p.page.Binds mentions p.scopes t

/-- Whether a declaration is a member of one that a statement at a place makes. -/
structure Place.HoldsMember (p : Place) (mentions : List (List String × String)) (d : Decl) :
    Prop where
  children : d.children = []
  origin : d.origin = none
  literals : d.KeepsLiterals
  bound : p.BindsTypes mentions d

/-- Whether a declaration is one that a statement at a place makes. -/
structure Place.Declares (p : Place) (mentions : List (List String × String)) (d : Decl) :
    Prop where
  outermost : p.owner = "" → d.IsGlobal
  bound : d.Scoped (fun scopes t => t.form = .reference → p.page.Binds mentions scopes t) p.scopes
  standing : ∀ e ∈ standing [d], e.origin = none ∧ e.KeepsLiterals

variable {mentions : List (List String × String)} {bind : List String → String → String}
  {p : Place} {d : Decl}

/-- A member of what has a symbol is one that a statement of that symbol makes. -/
theorem Place.HasMember.holdsMember {symbol : String} (h : (p.under symbol).HasMember mentions d) :
    p.HoldsMember mentions d := by
  obtain ⟨owner, htypes, hsymbol⟩ := h.types
  obtain ⟨hbound, hinline⟩ := d.allTypes_holds.1 htypes
  refine ⟨h.children, h.origin, ⟨fun hd => ?_, owner, fun s hs => ?_, hinline⟩, hbound⟩
  · rcases hsymbol with ⟨hnone, -⟩ | ⟨name, isStatic, hsome, rfl⟩
    · have hsome := h.inheritable hd
      rw [hnone] at hsome
      cases hsome
    · exact ⟨_, hsome, Naming.memberSymbol_ne_empty _ _ _⟩
  · rcases hsymbol with ⟨hnone, -⟩ | ⟨name, isStatic, hsome, -⟩
    · rw [hnone] at hs
      cases hs
    · exact Option.some.inj (hs.symm.trans hsome)

/-- A bare declaration that is not inherited keeps its literals. -/
theorem Reading.IsBare.keepsLiterals {kind : DeclKind} (h : Reading.IsBare kind d)
    (hkind : d.isInheritable = false) : d.KeepsLiterals := by
  refine ⟨fun hd => Bool.noConfusion (hkind.symm.trans hd), d.symbol.getD "", fun s hs => ?_, ?_⟩
  · rw [hs]
    rfl
  · rw [h.written]
    exact List.forall_mem_nil _

/-- A bare enum member is a member of what a statement makes. -/
theorem Reading.IsBare.holdsMember (h : Reading.IsBare .enumMember d) :
    p.HoldsMember mentions d := by
  refine ⟨h.children, h.origin, h.keepsLiterals ?_, ?_⟩
  · simp [Decl.isInheritable, h.kind]
  · rw [Place.BindsTypes, h.types]
    exact List.forall_mem_nil _

namespace Place.Declares

/-- A declaration with types under its own symbol and with members. -/
theorem holder {name : String} (hname : d.name = some name)
    (hsymbol : d.symbol = some (Naming.inScope p.owner name)) (horigin : d.origin = none)
    (hkind : d.kind.opensTop = false ∧ d.isInheritable = false)
    (htypes : d.AllTypes ((p.under (Naming.inScope p.owner name)).Writes mentions))
    (hchildren : ∀ c ∈ d.children, p.HoldsMember mentions c) : p.Declares mentions d := by
  obtain ⟨hbound, hinline⟩ := d.allTypes_holds.1 htypes
  constructor
  case outermost =>
    intro howner
    refine .inr ?_
    rw [hsymbol, hname, Naming.inScope, howner]
    rfl
  case bound =>
    rw [Decl.scoped_iff, scopedAmong_iff, DeclKind.scopesInside_eq hkind.1]
    refine ⟨hbound, fun c hc => .inl ?_⟩
    rw [Decl.scoped_iff, (hchildren c hc).children]
    exact ⟨(hchildren c hc).bound, trivial⟩
  case standing =>
    intro e he
    obtain ⟨e', he', hstands⟩ := mem_standing.1 he
    obtain rfl := List.mem_singleton.1 he'
    rcases hstands with rfl | hstands
    · refine ⟨horigin, fun h => Bool.noConfusion (hkind.2.symm.trans h), _, fun s hs => ?_, hinline⟩
      exact Option.some.inj (hs.symm.trans hsymbol)
    · obtain ⟨c, hc, hstands⟩ := mem_standing.1 hstands
      rw [(hchildren c hc).children] at hstands
      obtain rfl : e = c := by simpa [Source.standing] using hstands
      exact ⟨(hchildren e hc).origin, (hchildren e hc).literals⟩

/-- A declaration that is not described. -/
theorem bare {kind : DeclKind} (h : Reading.IsBare kind d) (hsymbol : d.symbol = none)
    (hkind : d.isInheritable = false) : p.Declares mentions d := by
  constructor
  case outermost => exact fun _ => .inl hsymbol
  case bound =>
    rw [Decl.scoped_iff, h.types, h.children]
    exact ⟨List.forall_mem_nil _, trivial⟩
  case standing =>
    intro e he
    obtain rfl : e = d := by simpa [Source.standing, Decl.inner_eq, h.children] using he
    exact ⟨h.origin, h.keepsLiterals hkind⟩

end Place.Declares

namespace Reading

/-! ## Members -/

/-- Reading a signature goes alike however names are bound, and its types are written at the place.
-/
theorem readSignature_alike (p : Place) (result : String) (cs : List SyntaxTree) :
    Alike mentions (readSignature p result cs) (readSignature (p.rebind bind) result cs) fun w =>
      w.All (p.Writes mentions) :=
  signatureOf_alike (parametersAt_alike p _ cs) (parametersAt_alike p _ cs)
    (slotAt_alike p _ cs) (typeParametersAt_alike p _ cs)

/-- Reading a field of a class goes alike however names are bound, and yields a member. -/
theorem readField_alike (p : Place) (t : SyntaxTree) (before : Option SyntaxTree) :
    Alike mentions (readField p t before) (readField (p.rebind bind) t before)
      (p.HasMember mentions) := by
  unfold readField
  simp only [openMember_rebind, Place.rebind_page, textOf?_rebind]
  refine .steady_bind (openMember_steady _ _ _) ?_
  rintro _ ⟨name, symbol, modifiers, comment, hsymbol, rfl⟩
  refine .bind (slotAt_alike (p.under symbol) _ t.children) fun type type' => ?_
  exact .steady_bind (textOf?_steady _) fun value _ => .pure fun htype => .typed hsymbol htype

/-- Reading a method goes alike however names are bound, and yields a member. -/
theorem readMethod_alike (p : Place) (t : SyntaxTree) (before : Option SyntaxTree) :
    Alike mentions (readMethod p t before) (readMethod (p.rebind bind) t before)
      (p.HasMember mentions) := by
  unfold readMethod
  simp only [openMember_rebind]
  refine .steady_bind (openMember_steady _ _ _) ?_
  rintro _ ⟨name, symbol, modifiers, comment, hsymbol, rfl⟩
  exact .bind (readSignature_alike (p.under symbol) _ t.children) fun w w' => .pure
    fun hw => .callable hsymbol hw

/-- Reading an index signature goes alike however names are bound, and yields a member. -/
theorem readIndex_alike (p : Place) (t : SyntaxTree) (before : Option SyntaxTree) :
    Alike mentions (readIndex p t before) (readIndex (p.rebind bind) t before)
      (p.HasMember mentions) := by
  unfold readIndex
  simp only [Place.rebind_page, readModifiers_rebind, openDecl_rebind]
  refine .steady_bind (readModifiers_steady _ _) fun modifiers _ => ?_
  refine .steady_bind (openDecl_steady _ _ _ _ _ _) ?_
  rintro _ ⟨comment, rfl⟩
  refine .bind (indexParams_alike _ (typeAt_alike p _ t.children)) fun qs qs' => ?_
  refine .bind (slotAt_alike p _ t.children) fun r r' => .pure fun hr hqs => ?_
  exact .nameless (by decide) ⟨hqs, hr, List.forall_mem_nil _⟩

/-- Reading the members of a class goes alike however names are bound, and yields members. -/
theorem readClassMembers_alike (p : Place) (before : Option SyntaxTree) (ts : List SyntaxTree) :
    Alike mentions (readClassMembers p before ts) (readClassMembers (p.rebind bind) before ts)
      fun ds => ∀ d ∈ ds, p.HasMember mentions d := by
  induction ts generalizing before with
  | nil => exact .pure (List.forall_mem_nil _)
  | cons t ts ih =>
    unfold readClassMembers
    split
    · exact ih before
    split
    · exact .cons (readMethod_alike p t before) (ih (some t))
    split
    · exact .cons (readField_alike p t before) (ih (some t))
    split
    · exact .cons (readIndex_alike p t before) (ih (some t))
    · exact ih (some t)

/-! ## Heritage -/

/-- Whether a type is a bound reference with arguments that are written at a place. -/
def IsBase (mentions : List (List String × String)) (p : Place) (t : TypeExpr) : Prop :=
  ∃ name arguments, (p.scopes, name) ∈ mentions ∧ (∀ u ∈ arguments, p.Writes mentions u) ∧
    t = { TypeExpr.ofReference name (some (p.page.bind p.scopes name)) with arguments := arguments }

/-- A base is a type that is written at its place. -/
theorem IsBase.writes {t : TypeExpr} (h : IsBase mentions p t) : p.Writes mentions t := by
  obtain ⟨name, arguments, hname, harguments, rfl⟩ := h
  exact .reference hname harguments

/-- The bases found so far are as many in both readings, which is why arguments go to the same base
in both. -/
theorem readBases_alike (p : Place) (ts : List SyntaxTree) (bases bases' : List TypeExpr)
    (hlength : bases.length = bases'.length) :
    Alike mentions (readBases p bases ts) (readBases (p.rebind bind) bases' ts) fun us =>
      (∀ u ∈ bases, IsBase mentions p u) → ∀ u ∈ us, IsBase mentions p u := by
  induction ts generalizing bases bases' with
  | nil => exact .pure id
  | cons t ts ih =>
    have hreference : Alike mentions
        (do
          let base ← reference p (← textOf p.page t)
          readBases p (bases ++ [base]) ts)
        (do
          let base ← reference (p.rebind bind) (← textOf p.page t)
          readBases (p.rebind bind) (bases' ++ [base]) ts) fun us =>
        (∀ u ∈ bases, IsBase mentions p u) → ∀ u ∈ us, IsBase mentions p u := by
      refine .steady_bind (textOf_steady t) fun name _ => ?_
      refine .bind (.reference p bind name) fun base base' => ?_
      refine .mono (ih _ _ (by simp [hlength])) fun us hus hbase hbases => hus ?_
      exact List.forall_mem_append.2 ⟨hbases, List.forall_mem_singleton.2
        ⟨name, [], hbase.2, List.forall_mem_nil _, hbase.1⟩⟩
    unfold readBases
    cases hargs : t.kind == "type_arguments" with
    | false => exact hreference
    | true =>
      rcases List.eq_nil_or_concat' bases with rfl | ⟨front, base, rfl⟩ <;>
        rcases List.eq_nil_or_concat' bases' with rfl | ⟨front', base', rfl⟩
      · exact hreference
      · simp at hlength
      · simp at hlength
      · simp only [List.getLast?_concat, List.dropLast_concat]
        refine .bind (readTypes_alike p t.children) fun us us' => ?_
        refine .mono (ih _ _ (by simpa using hlength)) fun vs hvs hus hbases => hvs ?_
        obtain ⟨hfront, hbase⟩ := List.forall_mem_append.1 hbases
        obtain ⟨name, arguments, hname, -, rfl⟩ := hbase base (List.mem_singleton_self base)
        exact List.forall_mem_append.2 ⟨hfront, List.forall_mem_singleton.2
          ⟨name, us, hname, hus, rfl⟩⟩

/-- Reading heritage goes alike however names are bound, and what it finds is written at the place.
-/
theorem readHeritage_alike (p : Place) (ts : List SyntaxTree)
    (found found' : List TypeExpr × List TypeExpr) :
    Alike mentions (readHeritage p found ts) (readHeritage (p.rebind bind) found' ts) fun r =>
      (∀ u ∈ found.1 ++ found.2, p.Writes mentions u) →
        (∀ u ∈ r.1, p.Writes mentions u) ∧ ∀ u ∈ r.2, p.Writes mentions u := by
  induction ts generalizing found found' with
  | nil => exact .pure List.forall_mem_append.1
  | cons t ts ih =>
    obtain ⟨bases, interfaces⟩ := found
    obtain ⟨bases', interfaces'⟩ := found'
    unfold readHeritage
    split
    · refine .bind (readBases_alike p _ [] [] rfl) fun more more' => ?_
      refine .mono (ih _ _) fun r hr hmore hfound => hr ?_
      obtain ⟨hbases, hinterfaces⟩ := List.forall_mem_append.1 hfound
      exact List.forall_mem_append.2 ⟨List.forall_mem_append.2
        ⟨hbases, fun u hu => (hmore (List.forall_mem_nil _) u hu).writes⟩, hinterfaces⟩
    split
    · refine .bind (readTypes_alike p t.children) fun more more' => ?_
      refine .mono (ih _ _) fun r hr hmore hfound => hr ?_
      obtain ⟨hbases, hinterfaces⟩ := List.forall_mem_append.1 hfound
      exact List.forall_mem_append.2 ⟨hbases, List.forall_mem_append.2 ⟨hinterfaces, hmore⟩⟩
    · exact ih _ _

/-! ## Declarations -/

/-- Dropping implementations leaves the other declarations in order. -/
theorem dropImplementationsAfter_sublist (bare : List String) (ds : List Decl) :
    (dropImplementationsAfter bare ds).Sublist ds := by
  induction ds generalizing bare with
  | nil => exact .slnil
  | cons d ds ih =>
    unfold dropImplementationsAfter
    split
    · exact (ih _).cons_cons d
    split
    · exact (ih _).cons d
    · exact (ih _).cons_cons d

/-- What is left after dropping implementations was there before. -/
theorem dropImplementations_subset (ds : List Decl) : dropImplementations ds ⊆ ds :=
  (dropImplementationsAfter_sublist [] ds).subset

/-- Reading a class goes alike however names are bound, and the place declares what is read. -/
theorem readClass_alike (p : Place) (t : SyntaxTree) (before : Option SyntaxTree)
    (modifiers : List String) :
    Alike mentions (readClass p t before modifiers) (readClass (p.rebind bind) t before modifiers)
      (p.Declares mentions) := by
  unfold readClass
  simp only [openName_rebind, Place.rebind_page, openDecl_rebind, Place.rebind_under]
  refine .steady_bind (openName_steady _) ?_
  rintro _ ⟨name, rfl⟩
  refine .steady_bind (openDecl_steady _ _ _ _ _ _) ?_
  rintro _ ⟨comment, rfl⟩
  refine .bind (typeParametersAt_alike (p.under _) _ t.children) fun qs qs' => ?_
  refine .bind (readHeritage_alike (p.under _) _ ([], []) ([], [])) fun heritage heritage' => ?_
  split
  · refine .bind (readClassMembers_alike (p.under _) none _) fun ds ds' => .pure ?_
    intro hds hheritage hqs
    obtain ⟨hbases, hinterfaces⟩ := hheritage (List.forall_mem_nil _)
    exact .holder rfl rfl rfl ⟨rfl, rfl⟩ (.of_heritage hqs hbases hinterfaces ⟨rfl, rfl⟩)
      fun c hc => (hds c (dropImplementations_subset ds hc)).holdsMember
  · refine .pure fun hheritage hqs => ?_
    obtain ⟨hbases, hinterfaces⟩ := hheritage (List.forall_mem_nil _)
    exact .holder rfl rfl rfl ⟨rfl, rfl⟩ (.of_heritage hqs hbases hinterfaces ⟨rfl, rfl⟩)
      (List.forall_mem_nil _)

/-- Reading an interface goes alike however names are bound, and the place declares what is read. -/
theorem readInterface_alike (p : Place) (t : SyntaxTree) (before : Option SyntaxTree)
    (modifiers : List String) :
    Alike mentions (readInterface p t before modifiers)
      (readInterface (p.rebind bind) t before modifiers) (p.Declares mentions) := by
  unfold readInterface
  simp only [openName_rebind, Place.rebind_page, openDecl_rebind, Place.rebind_under]
  refine .steady_bind (openName_steady _) ?_
  rintro _ ⟨name, rfl⟩
  refine .steady_bind (openDecl_steady _ _ _ _ _ _) ?_
  rintro _ ⟨comment, rfl⟩
  refine .bind (typeParametersAt_alike (p.under _) _ t.children) fun qs qs' => ?_
  refine .bind (readTypes_alike (p.under _) _) fun bases bases' => ?_
  split
  · refine .bind (readObjectMembers_alike (p.under _) none _) fun ds ds' => .pure ?_
    intro hds hbases hqs
    exact .holder rfl rfl rfl ⟨rfl, rfl⟩
      (.of_heritage hqs hbases (List.forall_mem_nil _) ⟨rfl, rfl⟩)
      fun c hc => (hds c hc).holdsMember
  · refine .pure fun hbases hqs => ?_
    exact .holder rfl rfl rfl ⟨rfl, rfl⟩
      (.of_heritage hqs hbases (List.forall_mem_nil _) ⟨rfl, rfl⟩) (List.forall_mem_nil _)

/-- Reading a function goes alike however names are bound, and the place declares what is read. -/
theorem readFunction_alike (p : Place) (t : SyntaxTree) (before : Option SyntaxTree)
    (modifiers : List String) :
    Alike mentions (readFunction p t before modifiers)
      (readFunction (p.rebind bind) t before modifiers) (p.Declares mentions) := by
  unfold readFunction
  simp only [openName_rebind, Place.rebind_page, openDecl_rebind, Place.rebind_under]
  refine .steady_bind (openName_steady _) ?_
  rintro _ ⟨name, rfl⟩
  refine .steady_bind (openDecl_steady _ _ _ _ _ _) ?_
  rintro _ ⟨comment, rfl⟩
  refine .bind (readSignature_alike (p.under _) _ t.children) fun w w' => .pure fun hw => ?_
  exact .holder rfl rfl rfl ⟨rfl, rfl⟩ (.of_signature hw rfl ⟨rfl, rfl, rfl, rfl⟩)
    (List.forall_mem_nil _)

/-- Reading an enum goes alike however names are bound, and the place declares what is read. -/
theorem readEnum_alike (p : Place) (t : SyntaxTree) (before : Option SyntaxTree)
    (modifiers : List String) :
    Alike mentions (readEnum p t before modifiers) (readEnum (p.rebind bind) t before modifiers)
      (p.Declares mentions) := by
  unfold readEnum
  simp only [openName_rebind, Place.rebind_page, openDecl_rebind, readEnumMembers_rebind]
  refine .steady_bind (openName_steady _) ?_
  rintro _ ⟨name, rfl⟩
  refine .steady_bind (openDecl_steady _ _ _ _ _ _) ?_
  rintro _ ⟨comment, rfl⟩
  split
  · refine .steady_bind (readEnumMembers_steady _ _ _) fun ds hds => .pure ?_
    exact .holder rfl rfl rfl ⟨rfl, rfl⟩ (.of_none ⟨rfl, rfl, rfl, rfl, rfl⟩)
      fun c hc => (hds c hc).holdsMember
  · exact .pure (.holder rfl rfl rfl ⟨rfl, rfl⟩ (.of_none ⟨rfl, rfl, rfl, rfl, rfl⟩)
      (List.forall_mem_nil _))

/-- Reading a variable goes alike however names are bound, and the place declares what is read. -/
theorem readVariable_alike (p : Place) (t : SyntaxTree) (before : Option SyntaxTree)
    (modifiers : List String) :
    Alike mentions (readVariable p t before modifiers)
      (readVariable (p.rebind bind) t before modifiers) (p.Declares mentions) := by
  unfold readVariable
  simp only [openName_rebind, Place.rebind_page, openDecl_rebind, Place.rebind_under,
    textOf?_rebind]
  refine .steady_bind (openName_steady _) ?_
  rintro _ ⟨name, rfl⟩
  split
  · refine .steady_bind (openDecl_steady _ _ _ _ _ _) ?_
    rintro _ ⟨comment, rfl⟩
    refine .bind (readSignature_alike (p.under _) _ _) fun w w' => .pure fun hw => ?_
    exact .holder rfl rfl rfl ⟨rfl, rfl⟩ (.of_signature hw rfl ⟨rfl, rfl, rfl, rfl⟩)
      (List.forall_mem_nil _)
  · refine .steady_bind (openDecl_steady _ _ _ _ _ _) ?_
    rintro _ ⟨comment, rfl⟩
    refine .bind (slotAt_alike (p.under _) _ t.children) fun type type' => ?_
    refine .steady_bind (textOf?_steady _) fun value _ => .pure fun htype => ?_
    exact .holder rfl rfl rfl ⟨rfl, rfl⟩ (.of_type htype (List.forall_mem_nil _) ⟨rfl, rfl, rfl⟩)
      (List.forall_mem_nil _)

/-- Reading a list of variables goes alike however names are bound, and the place declares what is
read. -/
theorem readVariables_alike (p : Place) (t : SyntaxTree) (before : Option SyntaxTree)
    (modifiers : List String) :
    Alike mentions (readVariables p t before modifiers)
      (readVariables (p.rebind bind) t before modifiers) fun ds =>
        ∀ d ∈ ds, p.Declares mentions d := by
  unfold readVariables
  simp only [Place.rebind_page, textAt_rebind]
  exact .steady_bind (textAt_steady _ _) fun word _ => .mapM fun v => readVariable_alike p v _ _

/-- Reading an alias goes alike however names are bound, and the place declares what is read. -/
theorem readAlias_alike (p : Place) (t : SyntaxTree) (before : Option SyntaxTree)
    (modifiers : List String) :
    Alike mentions (readAlias p t before modifiers) (readAlias (p.rebind bind) t before modifiers)
      (p.Declares mentions) := by
  unfold readAlias
  simp only [openName_rebind, Place.rebind_page, openDecl_rebind, Place.rebind_under]
  refine .steady_bind (openName_steady _) ?_
  rintro _ ⟨name, rfl⟩
  refine .steady_bind (openDecl_steady _ _ _ _ _ _) ?_
  rintro _ ⟨comment, rfl⟩
  refine .bind (typeParametersAt_alike (p.under _) _ t.children) fun qs qs' => ?_
  have hvalue : Alike? mentions (typeAt (p.under (Naming.inScope p.owner name)) "value" t.children)
      (typeAt ((p.under (Naming.inScope p.owner name)).rebind bind) "value" t.children) _ :=
    typeAt_alike _ _ _
  rcases hvalue with ⟨h, h'⟩ | ⟨m, m', h, h', hm⟩ <;> rw [h, h']
  · refine .pure fun hqs => ?_
    exact .holder rfl rfl rfl ⟨rfl, rfl⟩ (.of_heritage hqs (List.forall_mem_nil _)
      (List.forall_mem_nil _) ⟨rfl, rfl⟩) (List.forall_mem_nil _)
  · refine .bind hm fun u u' => .pure fun hu hqs => ?_
    exact .holder rfl rfl rfl ⟨rfl, rfl⟩ (.of_type (fun v hv => Option.mem_some.1 hv ▸ hu) hqs
      ⟨rfl, rfl, rfl⟩) (List.forall_mem_nil _)

/-- Reading a declaration of another kind goes alike however names are bound, and the place declares
what is read. -/
theorem readOther_alike (p : Place) (t : SyntaxTree) (before : Option SyntaxTree)
    (modifiers : List String) :
    Alike mentions (readOther p t before modifiers) (readOther (p.rebind bind) t before modifiers)
      (p.Declares mentions) := by
  unfold readOther
  simp only [Place.rebind_page, textOf?_rebind, openDecl_rebind]
  refine .steady_bind (textOf?_steady _) fun name _ => ?_
  refine .of_steady ((openDecl_steady _ _ _ _ _ _).mono ?_)
  rintro _ ⟨comment, rfl⟩
  exact .bare ⟨rfl, rfl, rfl, rfl, rfl⟩ rfl rfl

end Reading

end ApiAtlas.Source
