import ApiAtlas.Proofs.Reading.Alike
import ApiAtlas.Proofs.Source.WrittenTypes
import ApiAtlas.Source.Reading.Statements

/-!
# Readings that bind nothing

Texts, comments, modifiers, enumerations and imports are read without binding a name, so that a page
with names bound otherwise gives the same readings. What they yield is recorded as far as later
readings build on it: the declaration that a node opens has no types yet.
-/

set_option autoImplicit false

namespace ApiAtlas.Source.Reading

variable {page : Page} {p : Place} {bind : List String → String → String}

/-- The declaration that a node opens, with its comment. -/
def openedDecl (page : Page) (kind : DeclKind) (t : SyntaxTree) (name symbol : Option String)
    (modifiers : List String) (comment : Option Comment) : Decl :=
  { kind := kind, name := name, symbol := symbol, modifiers := modifiers, comment := comment,
    file := some page.name, line := some (lineOf page.bytes t.start), form := some t.kind }

/-- Whether a declaration of a kind has no types and no children, and is written where it stands. -/
structure IsBare (kind : DeclKind) (d : Decl) : Prop where
  kind : d.kind = kind
  children : d.children = []
  origin : d.origin = none
  types : d.types = []
  written : d.written = []

/-! ## Pages with other bindings -/

/-- The text of a node does not depend on how names are bound. -/
@[simp]
theorem textOf_rebind (t : SyntaxTree) : textOf (page.rebind bind) t = textOf page t := rfl

/-- The text of a node that may be missing does not depend on how names are bound. -/
@[simp]
theorem textOf?_rebind (t : Option SyntaxTree) : textOf? (page.rebind bind) t = textOf? page t := by
  cases t <;> rfl

/-- The text in a field does not depend on how names are bound. -/
@[simp]
theorem textAt_rebind (field : String) (ts : List SyntaxTree) :
    textAt (page.rebind bind) field ts = textAt page field ts := by
  rw [textAt, textAt, textOf?_rebind]

/-- What a node opens does not depend on how names are bound. -/
@[simp]
theorem openDecl_rebind (kind : DeclKind) (t : SyntaxTree) (before : Option SyntaxTree)
    (name symbol : Option String) (modifiers : List String) :
    openDecl (page.rebind bind) kind t before name symbol modifiers =
      openDecl page kind t before name symbol modifiers := rfl

/-- The name of a parameter does not depend on how names are bound. -/
@[simp]
theorem parameterName_rebind (t : SyntaxTree) :
    parameterName (page.rebind bind) t = parameterName page t := rfl

/-- Modifiers do not depend on how names are bound. -/
@[simp]
theorem readModifiers_rebind (ms : List String) (ts : List SyntaxTree) :
    readModifiers (page.rebind bind) ms ts = readModifiers page ms ts := by
  induction ts generalizing ms with
  | nil => rfl
  | cons t ts ih => simp only [readModifiers, ih, textOf_rebind]

/-- What a member opens does not depend on how names are bound. -/
@[simp]
theorem openMember_rebind (t : SyntaxTree) (before : Option SyntaxTree)
    (kind : String → DeclKind) :
    openMember (p.rebind bind) t before kind = openMember p t before kind := by
  simp only [openMember, Place.rebind, textAt_rebind, readModifiers_rebind, openDecl_rebind]

/-- A name that is opened does not depend on how names are bound. -/
@[simp]
theorem openName_rebind (cs : List SyntaxTree) : openName (p.rebind bind) cs = openName p cs := by
  simp only [openName, Place.rebind, textAt_rebind]

/-- The members of an enum do not depend on how names are bound. -/
@[simp]
theorem readEnumMembers_rebind (owner : String) (before : Option SyntaxTree)
    (ts : List SyntaxTree) :
    readEnumMembers (page.rebind bind) owner before ts = readEnumMembers page owner before ts := by
  induction ts generalizing before with
  | nil => rfl
  | cons t ts ih =>
    simp only [readEnumMembers, ih, textAt_rebind, textOf?_rebind, openDecl_rebind]

/-- The comment of a file does not depend on how names are bound. -/
@[simp]
theorem fileComment_rebind (ts : List SyntaxTree) :
    fileComment (page.rebind bind) ts = fileComment page ts := by
  induction ts with
  | nil => rfl
  | cons t ts ih => simp only [fileComment, ih, textOf_rebind]

/-! ## What is yielded -/

/-- Reading the text of a node is steady. -/
theorem textOf_steady (t : SyntaxTree) : Steady (textOf page t) fun _ => True := by
  unfold textOf
  split
  · exact .pure trivial
  · exact .throw _

/-- Reading the text of a node that may be missing is steady. -/
theorem textOf?_steady (t : Option SyntaxTree) : Steady (textOf? page t) fun _ => True := by
  cases t with
  | none => exact .pure trivial
  | some t => exact .bind (textOf_steady t) fun _ _ => .pure trivial

/-- Reading the text in a field is steady. -/
theorem textAt_steady (field : String) (ts : List SyntaxTree) :
    Steady (textAt page field ts) fun _ => True :=
  .bind (textOf?_steady _) fun _ _ => .pure trivial

/-- Declaring a symbol is steady and yields the symbol. -/
theorem declare_steady (symbol : String) : Steady (declare symbol) (· = symbol) :=
  .bind (.modify fun _ => List.Subset.refl _) fun _ _ => .pure rfl

/-- Noting an import is steady. -/
theorem noteImport_steady (name symbol : String) :
    Steady (noteImport name symbol) fun _ => True :=
  .modify fun _ => List.Subset.refl _

/-- Reading an unknown type is steady and yields its text. -/
theorem unknown_steady (t : SyntaxTree) :
    Steady (unknown page t) fun u => ∃ text, u = .ofUnknown text :=
  .bind (textOf_steady t) fun text _ => .pure ⟨text, rfl⟩

/-- A literal stands for a type without parts, which is not a reference. -/
theorem literal_steady (t : SyntaxTree) :
    Steady (literal page t) fun u => ∃ form name text, form ≠ .reference ∧
      u = { form := form, name := name, text := text } := by
  have hplain : Steady (do
      let text ← textOf page t
      if text = "null" || text = "undefined" then return .ofIntrinsic text
      return .ofUnknown text : Reading TypeExpr) fun u => ∃ form name text, form ≠ .reference ∧
      u = { form := form, name := name, text := text } := by
    refine .bind (textOf_steady t) fun text _ => ?_
    split
    · exact .pure ⟨.intrinsic, some text, text, nofun, rfl⟩
    · exact .pure ⟨.unknown, none, text, nofun, rfl⟩
  unfold literal
  split
  · split
    · exact .bind (textOf_steady _) fun _ _ => .pure ⟨.stringLiteral, _, _, nofun, rfl⟩
    · exact hplain
  · exact hplain

/-- Reading a doc comment is steady. -/
theorem docComment_steady (before : Option SyntaxTree) :
    Steady (docComment page before) fun _ => True := by
  unfold docComment
  split
  · split
    · refine .bind (textOf_steady _) fun raw _ => ?_
      split <;> exact .pure trivial
    · exact .pure trivial
  · exact .pure trivial

/-- Reading the comment of a file is steady. -/
theorem fileComment_steady (ts : List SyntaxTree) :
    Steady (fileComment page ts) fun _ => True := by
  induction ts with
  | nil => exact .pure trivial
  | cons t ts ih =>
    unfold fileComment
    split
    · exact ih
    split
    · exact .pure trivial
    · refine .bind (textOf_steady t) fun raw _ => ?_
      split
      · exact .pure trivial
      · exact ih

/-- Opening a declaration is steady and yields it with some comment, or none. -/
theorem openDecl_steady (kind : DeclKind) (t : SyntaxTree) (before : Option SyntaxTree)
    (name symbol : Option String) (modifiers : List String) :
    Steady (openDecl page kind t before name symbol modifiers) fun d =>
      ∃ comment, d = openedDecl page kind t name symbol modifiers comment :=
  .bind (docComment_steady before) fun comment _ => .pure ⟨comment, rfl⟩

/-- Reading modifiers is steady. -/
theorem readModifiers_steady (ms : List String) (ts : List SyntaxTree) :
    Steady (readModifiers page ms ts) fun _ => True := by
  induction ts generalizing ms with
  | nil => exact .pure trivial
  | cons t ts ih =>
    unfold readModifiers
    split
    · exact .bind (textOf_steady t) fun _ _ => ih _
    split
    · exact ih _
    split
    · exact ih _
    split
    · exact ih _
    · exact ih _

/-- A member that is opened carries the symbol of a member of the owner. -/
theorem openMember_steady (t : SyntaxTree) (before : Option SyntaxTree)
    (kind : String → DeclKind) :
    Steady (openMember p t before kind) fun r => ∃ name symbol modifiers comment,
      symbol = Naming.memberSymbol p.owner name (modifiers.contains "static") ∧
      r = (openedDecl p.page (kind name) t (some name) (some symbol) modifiers comment,
        symbol) := by
  refine .bind (textAt_steady _ _) fun text _ => ?_
  refine .bind (readModifiers_steady [] t.children) fun listed _ => ?_
  refine .bind (declare_steady _) fun symbol hsymbol => ?_
  refine .bind (openDecl_steady _ _ _ _ _ _) fun d hd => ?_
  obtain ⟨comment, rfl⟩ := hd
  exact .pure ⟨_, symbol, _, comment, hsymbol, rfl⟩

/-- Opening a name is steady and yields it with its symbol in scope. -/
theorem openName_steady (cs : List SyntaxTree) :
    Steady (openName p cs) fun r => ∃ name, r = (name, Naming.inScope p.owner name) :=
  .bind (textAt_steady _ _) fun name _ => .bind (declare_steady _) fun _ hsymbol =>
    .pure ⟨name, Prod.ext rfl hsymbol⟩

/-- Reading the name of a parameter is steady. -/
theorem parameterName_steady (t : SyntaxTree) : Steady (parameterName page t) fun _ => True := by
  unfold parameterName
  split
  · exact .pure trivial
  split
  · split
    · exact .bind (textOf_steady _) fun _ _ => .pure trivial
    · exact .pure trivial
  split
  · exact .pure trivial
  · exact .bind (textOf_steady _) fun _ _ => .pure trivial

/-- The members of an enumeration have no types. -/
theorem readEnumMembers_steady (owner : String) (before : Option SyntaxTree)
    (ts : List SyntaxTree) :
    Steady (readEnumMembers page owner before ts) fun ds => ∀ d ∈ ds, IsBare .enumMember d := by
  induction ts generalizing before with
  | nil => exact .pure (List.forall_mem_nil _)
  | cons t ts ih =>
    unfold readEnumMembers
    split
    · exact ih before
    split
    · exact ih (some t)
    · extract_lets finish
      have hfinish : ∀ found, Steady (finish found) fun ds => ∀ d ∈ ds, IsBare .enumMember d := by
        intro found
        refine .bind (textOf?_steady found.1) fun text _ => ?_
        refine .bind (declare_steady _) fun symbol _ => ?_
        refine .bind (openDecl_steady _ _ _ _ _ _) fun d hd => ?_
        refine .bind (ih (some t)) fun ds hds => .pure ?_
        obtain ⟨comment, rfl⟩ := hd
        exact List.forall_mem_cons.2 ⟨⟨rfl, rfl, rfl, rfl, rfl⟩, hds⟩
      simp only [pure_bind]
      split
      · exact .bind (textAt_steady _ _) fun value _ => hfinish (_, some value)
      · exact hfinish (some t, none)

/-- Reading an import is steady. -/
theorem readImport_steady (t : SyntaxTree) : Steady (readImport page t) fun _ => True := by
  have hspecifier : ∀ target c, Steady (noteSpecifier page target c) fun _ => True := by
    intro target c
    refine .bind (textAt_steady _ _) fun _ _ => ?_
    exact .bind (textOf?_steady _) fun _ _ => noteImport_steady _ _
  have hitem : ∀ target c, Steady (noteItem page target c) fun _ => True := by
    intro target c
    unfold noteItem
    split
    · split
      · exact .bind (textOf_steady _) fun _ _ => noteImport_steady _ _
      · exact .pure trivial
    split
    · exact .forM (hspecifier target)
    · exact .pure trivial
  unfold readImport
  split
  · exact .pure trivial
  · exact .bind (textOf_steady _) fun _ _ => .forM (hitem _)

end ApiAtlas.Source.Reading
