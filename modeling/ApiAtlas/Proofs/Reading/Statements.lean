import ApiAtlas.Proofs.Reading.Members
import ApiAtlas.Source.Reading.Program

/-!
# Reading statements and files

The statements of a file make declarations at their place or, from inside a block for the whole
program, at the outermost one (`Place.Lists`). The walk over statements shows this for every
declaration of a file, and that files are read alike whatever names are bound to.
-/

set_option autoImplicit false

namespace ApiAtlas.Source

/-- The place in the outermost scope of the same page. -/
def Place.outermost (p : Place) : Place :=
  { p with owner := "", scopes := [""] }

/-- Whether a declaration is one that a statement at a place or in the outermost scope makes. -/
def Place.Lists (p : Place) (mentions : List (List String × String)) (d : Decl) : Prop :=
  p.Declares mentions d ∨ p.outermost.Declares mentions d

variable {mentions : List (List String × String)} {bind : List String → String → String}
  {p : Place} {d : Decl}

namespace Place.Lists

/-- What stands in a declaration that a statement makes is no copy, and keeps its literals. -/
theorem standing {e : Decl} (h : p.Lists mentions d) (he : e = d ∨ e ∈ standing d.children) :
    e.origin = none ∧ e.KeepsLiterals := by
  have hstands : e ∈ Source.standing [d] := mem_standing.2 ⟨d, List.mem_singleton_self d, he⟩
  rcases h with h | h
  · exact h.standing e hstands
  · exact h.standing e hstands

/-- The types in what is listed are bound in the scopes of the place, or in the outermost one if the
declaration stands there. -/
theorem scopedAmong {ds : List Decl} (h : ∀ d ∈ ds, p.Lists mentions d) :
    ScopedAmong (fun scopes t => t.form = .reference → p.page.Binds mentions scopes t) p.scopes true
      ds := by
  rw [scopedAmong_iff]
  intro d hd
  exact (h d hd).imp (·.bound) fun h => ⟨rfl, h.outermost rfl, h.bound⟩

end Place.Lists

/-- A namespace or a module declares what its body lists. -/
theorem Place.Declares.opening {owner : String} (hkind : d.kind.opensTop = true)
    (houtermost : p.owner = "" → d.IsGlobal) (horigin : d.origin = none)
    (htypes : d.types = [] ∧ d.written = [])
    (hchildren : ∀ c ∈ d.children,
      Place.Lists { p with owner := owner, scopes := d.kind.scopesInside d.symbol p.scopes }
        mentions c) :
    p.Declares mentions d := by
  refine ⟨houtermost, ?_, ?_⟩
  · rw [Decl.scoped_iff, htypes.1, hkind]
    exact ⟨List.forall_mem_nil _, Place.Lists.scopedAmong hchildren⟩
  · intro e he
    obtain ⟨e', he', hstands⟩ := mem_standing.1 he
    obtain rfl := List.mem_singleton.1 he'
    rcases hstands with rfl | hstands
    · refine ⟨horigin, fun h => ?_, e.symbol.getD "", fun s hs => by rw [hs]; rfl, ?_⟩
      · simp only [Decl.isInheritable, Bool.or_eq_true, decide_eq_true_eq] at h
        rcases h with ((h | h) | h) | h <;> rw [h] at hkind <;> cases hkind
      · rw [htypes.2]
        exact List.forall_mem_nil _
    · obtain ⟨c, hc, hstands⟩ := mem_standing.1 hstands
      exact (hchildren c hc).standing hstands

namespace Reading

/-! ## Namespaces -/

/-- Nesting namespaces goes alike however names are bound, if reading their body does. -/
theorem nestNamespaces_alike (t : SyntaxTree) (before : Option SyntaxTree) (modifiers : List String)
    {body : Place → Reading (List Decl)}
    (hbody : ∀ q : Place, Alike mentions (body q) (body (q.rebind bind)) fun ds =>
      ∀ d ∈ ds, q.Lists mentions d) (isInner : Bool) (p : Place) (names : List String) :
    Alike mentions (nestNamespaces t before modifiers body isInner p names)
      (nestNamespaces t before modifiers body isInner (p.rebind bind) names) fun ds =>
        ∀ d ∈ ds, p.Lists mentions d := by
  induction names generalizing isInner p with
  | nil => exact hbody p
  | cons name names ih =>
    unfold nestNamespaces
    simp only [Place.rebind_page, Place.rebind_owner, openDecl_rebind]
    refine .steady_bind (declare_steady _) ?_
    rintro _ rfl
    refine .steady_bind (openDecl_steady _ _ _ _ _ _) ?_
    rintro _ ⟨comment, rfl⟩
    refine .bind (ih true _) fun ds ds' => .pure fun hds => ?_
    refine List.forall_mem_singleton.2 (.inl ?_)
    refine .opening rfl (fun howner => .inr ?_) rfl ⟨rfl, rfl⟩ hds
    change some (Naming.inScope p.owner name) = some name
    rw [Naming.inScope, howner]
    rfl

/-- Opening a namespace goes alike however names are bound, if reading its body does. -/
theorem openNamespace_alike (p : Place) (t : SyntaxTree) (before : Option SyntaxTree)
    (modifiers : List String) {body : Place → Reading (List Decl)}
    (hbody : ∀ q : Place, Alike mentions (body q) (body (q.rebind bind)) fun ds =>
      ∀ d ∈ ds, q.Lists mentions d) :
    Alike mentions (openNamespace p t before modifiers body)
      (openNamespace (p.rebind bind) t before modifiers body) fun ds =>
        ∀ d ∈ ds, p.Lists mentions d := by
  unfold openNamespace
  simp only [Place.rebind_page, openDecl_rebind, textOf_rebind]
  split
  · refine .steady_bind (openDecl_steady _ _ _ _ _ _) ?_
    rintro _ ⟨comment, rfl⟩
    exact .pure (List.forall_mem_singleton.2 (.inl (.bare ⟨rfl, rfl, rfl, rfl, rfl⟩ rfl rfl)))
  · refine .steady_bind (textOf_steady _) fun text _ => ?_
    split
    · refine .steady_bind (declare_steady _) ?_
      rintro _ rfl
      refine .steady_bind (openDecl_steady _ _ _ _ _ _) ?_
      rintro _ ⟨comment, rfl⟩
      refine .bind (hbody _) fun ds ds' => .pure fun hds => ?_
      exact List.forall_mem_singleton.2 (.inl (.opening rfl (fun _ => .inr rfl) rfl ⟨rfl, rfl⟩ hds))
    · exact nestNamespaces_alike t before modifiers hbody false p _

/-! ## The walk -/

/-- A declaration alone in a list. -/
theorem singleton_alike {m m' : Reading Decl} (h : Alike mentions m m' (p.Declares mentions)) :
    Alike mentions (do return [← m]) (do return [← m']) fun ds => ∀ d ∈ ds, p.Lists mentions d :=
  .bind h fun _ _ => .pure fun hd => List.forall_mem_singleton.2 (.inl hd)

mutual

/-- Reading a statement goes alike however names are bound, and the place lists what is read. -/
theorem readStatement_alike (p : Place) (modifiers : List String) (before : Option SyntaxTree) :
    ∀ t : SyntaxTree,
    Alike mentions (readStatement p modifiers before t)
      (readStatement (p.rebind bind) modifiers before t) fun ds => ∀ d ∈ ds, p.Lists mentions d
  | ⟨kind, start, stop, named, field, cs⟩ => by
    rw [readStatement, readStatement]
    generalize StatementNode.ofKind kind = node
    cases node with
    | «export» => exact readExported_alike p _ before cs
    | ambient => exact readAmbient_alike p _ before cs
    | expression => exact readNamespaces_alike p modifiers before cs
    | «import» =>
      exact .steady_bind (readImport_steady _) fun _ _ => .pure (List.forall_mem_nil _)
    | «class» => exact singleton_alike (readClass_alike p _ before modifiers)
    | interface => exact singleton_alike (readInterface_alike p _ before modifiers)
    | function => exact singleton_alike (readFunction_alike p _ before modifiers)
    | enum => exact singleton_alike (readEnum_alike p _ before modifiers)
    | «variables» =>
      exact .mono (readVariables_alike p _ before modifiers) fun ds hds d hd => .inl (hds d hd)
    | «alias» => exact singleton_alike (readAlias_alike p _ before modifiers)
    | «namespace» =>
      exact openNamespace_alike p _ before modifiers fun q => readBody_alike q cs
    | other => exact singleton_alike (readOther_alike p _ before modifiers)
    | skipped => exact .pure (List.forall_mem_nil _)

/-- Reading statements goes alike however names are bound, and the place lists what is read. -/
theorem readStatements_alike (p : Place) (before : Option SyntaxTree) : ∀ ts : List SyntaxTree,
    Alike mentions (readStatements p before ts) (readStatements (p.rebind bind) before ts) fun ds =>
      ∀ d ∈ ds, p.Lists mentions d
  | [] => by
    rw [readStatements, readStatements]
    exact .pure (List.forall_mem_nil _)
  | t :: ts => by
    rw [readStatements, readStatements]
    split
    · exact readStatements_alike p before ts
    split
    · exact readStatements_alike p (some t) ts
    · exact .append (readStatement_alike p [] before t) (readStatements_alike p (some t) ts)

/-- Reading what is exported goes alike however names are bound, and the place lists what is read.
-/
theorem readExported_alike (p : Place) (modifiers : List String) (before : Option SyntaxTree) :
    ∀ ts : List SyntaxTree,
    Alike mentions (readExported p modifiers before ts)
      (readExported (p.rebind bind) modifiers before ts) fun ds => ∀ d ∈ ds, p.Lists mentions d
  | [] => by
    rw [readExported, readExported]
    exact .pure (List.forall_mem_nil _)
  | t :: ts => by
    rw [readExported, readExported]
    split
    · exact readStatement_alike p modifiers before t
    · exact readExported_alike p modifiers before ts

/-- Reading ambient declarations goes alike however names are bound, and the place lists what is
read. -/
theorem readAmbient_alike (p : Place) (modifiers : List String) (before : Option SyntaxTree) :
    ∀ ts : List SyntaxTree,
    Alike mentions (readAmbient p modifiers before ts)
      (readAmbient (p.rebind bind) modifiers before ts) fun ds => ∀ d ∈ ds, p.Lists mentions d
  | [] => by
    rw [readAmbient, readAmbient]
    exact .pure (List.forall_mem_nil _)
  | ⟨kind, start, stop, named, field, cs⟩ :: ts => by
    rw [readAmbient, readAmbient]
    split
    · exact readAmbient_alike p modifiers before ts
    split
    · refine .bind (readStatements_alike p.outermost none cs) fun ds ds' => ?_
      refine .bind (readAmbient_alike p modifiers before ts) fun es es' => .pure fun hes hds => ?_
      refine List.forall_mem_append.2 ⟨fun d hd => ?_, hes⟩
      exact (hds d (dropImplementations_subset ds hd)).elim .inr .inr
    · exact .append (readStatement_alike p modifiers before _)
        (readAmbient_alike p modifiers before ts)

/-- Reading namespaces goes alike however names are bound, and the place lists what is read. -/
theorem readNamespaces_alike (p : Place) (modifiers : List String) (before : Option SyntaxTree) :
    ∀ ts : List SyntaxTree,
    Alike mentions (readNamespaces p modifiers before ts)
      (readNamespaces (p.rebind bind) modifiers before ts) fun ds => ∀ d ∈ ds, p.Lists mentions d
  | [] => by
    rw [readNamespaces, readNamespaces]
    exact .pure (List.forall_mem_nil _)
  | t :: ts => by
    rw [readNamespaces, readNamespaces]
    split
    · exact .append (readStatement_alike p modifiers before t)
        (readNamespaces_alike p modifiers before ts)
    · exact readNamespaces_alike p modifiers before ts

/-- Reading a body goes alike however names are bound, and the place lists what is read. -/
theorem readBody_alike (p : Place) : ∀ ts : List SyntaxTree,
    Alike mentions (readBody p ts) (readBody (p.rebind bind) ts) fun ds =>
      ∀ d ∈ ds, p.Lists mentions d
  | [] => by
    rw [readBody, readBody]
    exact .pure (List.forall_mem_nil _)
  | ⟨_, _, _, _, field, cs⟩ :: ts => by
    rw [readBody, readBody]
    split
    · exact .map (readStatements_alike p none cs) fun ds hds d hd =>
        hds d (dropImplementations_subset ds hd)
    · exact readBody_alike p ts

end

/-! ## Files -/

/-- Whether a file is as it is read from a page: its references are bound, the inline objects in it
are named by the declarations that they belong to, and nothing in it is a copy. -/
structure IsRead (page : Page) (mentions : List (List String × String)) (f : File) : Prop where
  bound : f.Scoped fun scopes t => t.form = .reference → page.Binds mentions scopes t
  standing : ∀ e ∈ standing f.decls, e.origin = none ∧ e.KeepsLiterals

/-- A file is read as its page requires if all its declarations are listed at a place of the page.
-/
theorem isRead_of_lists {q : Place} {f : File} {ds : List Decl} (hscopes : f.scopes = q.scopes)
    (hdecls : f.decls ⊆ ds) (hds : ∀ d ∈ ds, q.Lists mentions d) : IsRead q.page mentions f := by
  constructor
  case bound =>
    rw [File.Scoped, hscopes]
    exact Place.Lists.scopedAmong fun d hd => hds d (hdecls hd)
  case standing =>
    intro e he
    obtain ⟨d, hd, hstands⟩ := mem_standing.1 he
    exact (hds d (hdecls hd)).standing hstands

/-- The symbol of a module is not empty. -/
theorem isEmpty_moduleSymbol (name : String) : (Naming.moduleSymbol name).isEmpty = false := by
  rw [Naming.moduleSymbol, Naming.inQuotes, ← Bool.not_eq_true, String.isEmpty_iff]
  intro h
  have hlength := congrArg String.length h
  simp [String.length_append] at hlength

/-- Files are read alike whatever names are bound to, and names are bound in the first reading. -/
theorem readFile_alike (page : Page) (tree : SyntaxTree) :
    Alike mentions (readFile page tree) (readFile (page.rebind bind) tree)
      (IsRead page mentions) := by
  obtain ⟨name, bytes, mode, binds⟩ := page
  unfold readFile
  simp only [fileComment_rebind]
  cases mode with
  | file =>
    refine .steady_bind (P := (· = "")) (.pure rfl) ?_
    rintro _ rfl
    refine .bind (readStatements_alike ⟨_, "", [""]⟩ none tree.children) fun ds ds' => ?_
    refine .steady_bind (fileComment_steady _) fun comment _ => .pure fun hds => ?_
    exact isRead_of_lists rfl (dropImplementations_subset ds) hds
  | modules =>
    refine .steady_bind (declare_steady _) ?_
    rintro _ rfl
    simp only [isEmpty_moduleSymbol, Bool.false_eq_true, if_false]
    refine .bind (readStatements_alike ⟨_, _, [_, ""]⟩ none tree.children) fun ds ds' => ?_
    refine .steady_bind (fileComment_steady _) fun comment _ => .pure fun hds => ?_
    exact isRead_of_lists rfl (dropImplementations_subset ds) hds

end Reading

end ApiAtlas.Source
