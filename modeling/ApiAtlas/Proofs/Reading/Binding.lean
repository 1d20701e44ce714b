import ApiAtlas.Proofs.Inheritance.Copies
import ApiAtlas.Proofs.Reading.Documents

/-!
# Binding names

A name in a type stands for the closest of its candidates that some file of the program declares,
or for itself if there is none. Which symbols are declared does not depend on the order of the
files, so that every file is the same in each order (`Program.read_bound`).
-/

set_option autoImplicit false

namespace ApiAtlas

open Source

namespace Source

/-- Whether a mention stands for a symbol: the first of its candidates that is declared, or its own
name when none of them is. -/
def Mention.StandsFor (m : Mention) (Declared : String → Prop) (s : String) : Prop :=
  (∃ before after, m.candidates = before ++ s :: after ∧ Declared s ∧
    ∀ c ∈ before, ¬Declared c) ∨
  (∀ c ∈ m.candidates, ¬Declared c) ∧ m.name = some s

/-- Whether some file of a program declares a symbol, by the notes on its files. -/
def DeclaredIn (notes : List Notes) (s : String) : Prop :=
  ∃ n ∈ notes, s ∈ n.declared

/-- Whether a type is bound by the notes on its file and those on all files: a reference stands for
the closest declared symbol that its name can mean in its scopes. -/
def BoundBy (notes : List Notes) (n : Notes) (scopes : List String) (t : TypeExpr) : Prop :=
  t.form = .reference → ∃ name s, t.name = some name ∧ t.symbol = some s ∧
    (scopes, name) ∈ n.mentions ∧
    (Mention.mk (some name) scopes n.imports).StandsFor (DeclaredIn notes) s

instance (notes : List Notes) (s : String) : Decidable (DeclaredIn notes s) :=
  inferInstanceAs (Decidable (∃ n ∈ notes, s ∈ n.declared))

variable {mode : Mode} {ds ds' : List Document} {files : List File} {notes : List Notes}
  {declared declared' : List String}

/-! ## Declared symbols -/

/-- After some declarations the declared symbols are those from before and the new ones. -/
theorem mem_foldl_declare {symbols : List String} {b : Binder} {s : String} :
    s ∈ (symbols.foldl Binder.declare b).declared ↔ s ∈ b.declared ∨ s ∈ symbols := by
  induction symbols generalizing b with
  | nil => simp
  | cons x symbols ih =>
    have hx : s ∈ (b.declare x).declared ↔ s ∈ b.declared ∨ s = x := by
      unfold Binder.declare
      split
      · next h =>
        refine ⟨.inl, fun hs => hs.elim id ?_⟩
        rintro rfl
        exact List.contains_iff_mem.1 h
      · simp
    rw [List.foldl_cons, ih, hx, List.mem_cons, or_assoc]

/-- The symbols that a binder has from notes are those that are declared in them. -/
theorem mem_ofNotes_declared {s : String} :
    s ∈ (Binder.ofNotes notes).declared ↔ DeclaredIn notes s := by
  change s ∈ ((notes.flatMap (·.declared)).foldl Binder.declare {}).declared ↔ _
  rw [mem_foldl_declare, List.mem_flatMap]
  simp [DeclaredIn]

/-- How a mention is bound only depends on which symbols are declared. -/
theorem Mention.bind?_congr (m : Mention) (h : ∀ s, s ∈ declared ↔ s ∈ declared') :
    m.bind? declared = m.bind? declared' := by
  have hsame : declared.contains = declared'.contains := by
    funext s
    rw [Bool.eq_iff_iff, List.contains_iff_mem, List.contains_iff_mem, h]
  rw [bind?, bind?, hsame]

/-- Nothing is bound just when no candidate is declared. -/
theorem Mention.bind?_eq_none_iff (m : Mention) :
    m.bind? declared = none ↔ ∀ c ∈ m.candidates, c ∉ declared := by
  simp [bind?, List.find?_eq_none]

/-- The symbol of a name is what its mention stands for. -/
theorem Mention.standsFor_symbol (declared : List String) (name : String) (scopes : List String)
    (imports : Table String String) :
    (Mention.mk (some name) scopes imports).StandsFor (· ∈ declared)
      (((Mention.mk (some name) scopes imports).symbol declared).getD name) := by
  generalize hm : Mention.mk (some name) scopes imports = m
  rw [symbol]
  cases hbind : m.bind? declared with
  | none => exact .inr ⟨m.bind?_eq_none_iff.1 hbind, hm ▸ rfl⟩
  | some s =>
    obtain ⟨hs, before, after, hsplit, hbefore⟩ := List.find?_eq_some_iff_append.1 hbind
    refine .inl ⟨before, after, hsplit, List.contains_iff_mem.1 hs, fun c hc hmem => ?_⟩
    have hnot := hbefore c hc
    rw [List.contains_iff_mem.2 hmem] at hnot
    cases hnot

/-- How many mentions stand for no declared symbol. -/
theorem unbound_ofNotes (notes : List Notes) : (Binder.ofNotes notes).unbound =
    (notes.flatMap Notes.pending).countP fun m => ∀ c ∈ m.candidates, ¬DeclaredIn notes c := by
  change (notes.flatMap Notes.pending).countP _ = _
  refine List.countP_congr fun m _ => ?_
  rw [Option.isNone_iff_eq_none, Mention.bind?_eq_none_iff, decide_eq_true_iff]
  exact forall₂_congr fun c _ => not_congr mem_ofNotes_declared

/-! ## Order -/

/-- A document only sees which symbols are declared, not in which order. -/
theorem Document.read_congr (h : ∀ s, s ∈ declared ↔ s ∈ declared') (d : Document) (n : Notes) :
    d.read mode declared n = d.read mode declared' n := by
  have hbind : n.bind declared = n.bind declared' := by
    funext scopes name
    rw [Notes.bind, Notes.bind, Mention.symbol, Mention.symbol, Mention.bind?_congr _ h]
  exact congrArg (fun bind => (·.1) <$> (Reading.readFile (d.page mode bind) d.tree).run {}) hbind

/-- In another order the documents of a program have the same files. -/
theorem readDocuments_perm (h : readDocuments mode ds = .ok files) (hperm : ds.Perm ds') :
    ∃ files', readDocuments mode ds' = .ok files' ∧ (ds.zip files).Perm (ds'.zip files') := by
  obtain ⟨hds, rfl⟩ := readDocuments_eq_ok_iff.1 h
  have hdeclared : ∀ s, s ∈ (Binder.ofNotes (ds'.map (Document.noted mode))).declared ↔
      s ∈ (Binder.ofNotes (ds.map (Document.noted mode))).declared := by
    intro s
    rw [mem_ofNotes_declared, mem_ofNotes_declared, DeclaredIn, DeclaredIn]
    simp only [List.mem_map, hperm.mem_iff]
  refine ⟨_, readDocuments_eq_ok_iff.2 ⟨fun d hd => hds d (hperm.mem_iff.2 hd), rfl⟩, ?_⟩
  have hfile : Document.file mode (Binder.ofNotes (ds'.map (Document.noted mode))).declared =
      Document.file mode (Binder.ofNotes (ds.map (Document.noted mode))).declared := by
    funext d
    rw [Document.file, Document.file, Document.read_congr hdeclared]
  rw [hfile, ← List.map_prod_left_eq_zip, ← List.map_prod_left_eq_zip]
  exact hperm.map _

/-- Every reference in a written file stands for the closest declared symbol. -/
theorem scoped_of_readDocuments (h : readDocuments mode ds = .ok files) :
    ∃ notes, ds.mapM (Document.notes mode) = .ok notes ∧
      List.Forall₂ (fun n f => f.Scoped (BoundBy notes n)) notes files := by
  obtain ⟨hds, rfl⟩ := readDocuments_eq_ok_iff.1 h
  refine ⟨ds.map (Document.noted mode), mapM_notes_eq_ok_iff.2 ⟨hds, rfl⟩, ?_⟩
  rw [List.forall₂_map_left_iff, List.forall₂_map_right_iff, List.forall₂_same]
  intro d hd
  refine ScopedAmong.mono (fun scopes t ht hform => ?_) (Document.file_spec (hds d hd) _).2.bound
  obtain ⟨name, hname, hsymbol, hmention⟩ := ht hform
  refine ⟨name, _, hname, hsymbol, hmention, ?_⟩
  have hstands := Mention.standsFor_symbol
    (Binder.ofNotes (ds.map (Document.noted mode))).declared name scopes (d.noted mode).imports
  simp only [mem_ofNotes_declared] at hstands
  exact hstands

end Source

/-- What binding comes down to in the files of a program, copies aside. -/
structure Program.Bound (mode : Mode) (ds : List Document) (notes : List Notes)
    (files : List File) : Prop where
  /-- The notes are those of the first reading. -/
  noted : ds.mapM (Document.notes mode) = .ok notes
  /-- Every reference stands for the closest symbol that its name can mean and that some file
  declares, or for its bare name. -/
  closest : List.Forall₂ (fun n f => f.Scoped (BoundBy notes n)) notes (files.map File.uncopied)
  /-- In any order of the documents each has the same file. -/
  anyOrder : ∀ ds', ds.Perm ds' → ∃ files', Program.read mode ds' = .ok files' ∧
    (ds.zip (files.map File.uncopied)).Perm (ds'.zip (files'.map File.uncopied))
  /-- The number that binding returns is the number of names without a declared candidate. -/
  unbound : (Binder.ofNotes notes).unbound =
    (notes.flatMap Notes.pending).countP fun m => ∀ c ∈ m.candidates, ¬DeclaredIn notes c
  /-- No name waits afterwards. -/
  settled : (Binder.ofNotes notes).clear.pending = []

/-- The files that are written are those of the program without the members that were copied. -/
theorem Program.uncopied_of_read {mode : Mode} {ds : List Document} {written files : List File}
    (hwritten : readDocuments mode ds = .ok written)
    (h : (inheritMembers written).1 = files) : files.map File.uncopied = written := by
  have hstanding := standing_of_readDocuments hwritten
  rw [← h]
  refine uncopied_inheritMembers (fun d hd => (hstanding d hd).1) fun d hd hinheritable => ?_
  obtain ⟨s, hs, -⟩ := (hstanding d hd).2.inheritable hinheritable
  rw [hs]
  rfl

/-- Names are bound to the closest declared symbol in any order of the documents. -/
theorem Program.read_bound {mode : Mode} {ds : List Document} {files : List File}
    (h : Program.read mode ds = .ok files) : ∃ notes, Program.Bound mode ds notes files := by
  obtain ⟨written, hwritten, hfiles⟩ := Program.read_eq_ok_iff.1 h
  obtain ⟨notes, hnoted, hclosest⟩ := scoped_of_readDocuments hwritten
  rw [← Program.uncopied_of_read hwritten hfiles] at hclosest
  refine ⟨notes, hnoted, hclosest, fun ds' hperm => ?_, unbound_ofNotes notes, rfl⟩
  obtain ⟨written', hwritten', hsame⟩ := readDocuments_perm hwritten hperm
  refine ⟨_, Program.read_eq_ok_iff.2 ⟨written', hwritten', rfl⟩, ?_⟩
  rw [Program.uncopied_of_read hwritten hfiles, Program.uncopied_of_read hwritten' rfl]
  exact hsame

/-- A name of the same module, one that is imported from the other, and one that is not
declared. -/
theorem Program.imported_name_bound :
    let node (kind : String) (start stop : Nat) (children : List SyntaxTree) : SyntaxTree :=
      { kind := kind, start := start, stop := stop, children := children }
    let inField (field : String) (t : SyntaxTree) : SyntaxTree := { t with field := some field }
    let name (start : Nat) : SyntaxTree :=
      inField "name" (node "identifier" start (start + 1) [])
    let classNode (start : Nat) : SyntaxTree :=
      node "class_declaration" start (start + 11)
        [name (start + 6), inField "body" (node "class_body" (start + 8) (start + 11) [])]
    let variableNode (start : Nat) : SyntaxTree :=
      node "variable_declarator" start (start + 4) [name start,
        inField "type" (node "type_annotation" (start + 1) (start + 4)
          [node "type_identifier" (start + 3) (start + 4) []])]
    let ds : List Document :=
      [{ name := "a.ts",
         text := "import \x7b T as B \x7d from \"./b\"\nclass A \x7b \x7d\nnamespace N \x7b let x: A, y: B, z: U \x7d\n",
         tree := node "program" 0 78
          [node "import_statement" 0 28 [
              node "import_clause" 7 18 [node "named_imports" 7 18 [
                node "import_specifier" 9 15 [name 9,
                  inField "alias" (node "identifier" 14 15 [])]]],
              inField "source" (node "string" 23 28 [])],
            classNode 29,
            node "internal_module" 41 77 [name 51,
              inField "body" (node "statement_block" 53 77
                [node "lexical_declaration" 55 75
                  [variableNode 59, variableNode 65, variableNode 71]])]] },
       { name := "b.ts", text := "class T \x7b \x7d\n",
         tree := node "program" 0 12 [classNode 0] }]
    ∃ files, Program.read .modules ds = .ok files ∧
      (files.flatMap fun f => (withinDecls f.decls).map fun t => (t.name, t.symbol)) =
        [(some "A", some "\"a\".A"), (some "B", some "\"b\".T"), (some "U", some "U")] ∧
      ∃ notes, Program.Bound .modules ds notes files ∧ (Binder.ofNotes notes).unbound = 1 := by
  intro node inField name classNode variableNode ds
  have hshown : (Program.read .modules ds).toOption.map (fun files => files.flatMap fun f =>
      (withinDecls f.decls).map fun t => (t.name, t.symbol)) =
      some [(some "A", some "\"a\".A"), (some "B", some "\"b\".T"), (some "U", some "U")] := by
    decide +kernel
  have hcount : (ds.mapM (Document.notes .modules)).toOption.map (fun notes =>
      (Binder.ofNotes notes).unbound) = some 1 := by
    decide +kernel
  cases hread : Program.read .modules ds with
  | error fault =>
    rw [hread] at hshown
    cases hshown
  | ok files =>
    rw [hread] at hshown
    obtain ⟨notes, hbound⟩ := Program.read_bound hread
    rw [hbound.noted] at hcount
    exact ⟨files, rfl, Option.some.inj hshown, notes, hbound, Option.some.inj hcount⟩

end ApiAtlas
