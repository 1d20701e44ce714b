import ApiAtlas.Program
import ApiAtlas.Proofs.Output.Fields
import ApiAtlas.Proofs.Reading.Statements

/-!
# Reading the documents of a program

A document that the first reading accepts is accepted by the second one, whatever was declared
elsewhere, and takes the same notes again. The notes of a document are its own affair, so that the
files of a program are found document by document (`readDocuments_eq_ok_iff`); what the documents
share is only which symbols are declared by any of them.
-/

set_option autoImplicit false

namespace ApiAtlas

namespace Source

open Reading (IsRead)

/-- The symbol of a name under some scopes, by the imports in some notes and the declared
symbols. -/
def Notes.bind (n : Notes) (declared : List String) (scopes : List String) (name : String) :
    String :=
  ((Mention.mk (some name) scopes n.imports).symbol declared).getD name

namespace Document

/-- The notes on a document, if it can be read. -/
def noted (mode : Mode) (d : Document) : Notes :=
  (d.notes mode).toOption.getD {}

/-- The file of a document among declared symbols, if it can be read. -/
def file (mode : Mode) (declared : List String) (d : Document) : File :=
  (d.read mode declared (d.noted mode)).toOption.getD default

variable {mode : Mode} {d : Document} {n : Notes}

/-- The notes on a document that can be read are those that it is read with. -/
theorem noted_eq (h : d.notes mode = .ok n) : d.noted mode = n := by
  rw [noted, h]
  rfl

/-- The second reading of a document succeeds like the first one, and binds the names that were
noted in the first one. -/
theorem read_spec (h : d.notes mode = .ok n) (declared : List String) :
    ∃ f, d.read mode declared n = .ok f ∧
      IsRead (d.page mode (n.bind declared)) n.mentions f := by
  -- The page of the first reading is that of the second one with every name left as it is.
  have halike : Reading.Alike n.mentions (Reading.readFile (d.page mode (n.bind declared)) d.tree)
      (Reading.readFile (d.page mode fun _ name => name) d.tree) _ :=
    Reading.readFile_alike _ _
  rcases halike {} with ⟨fault, -, hfault⟩ | ⟨f, f', k, hok, hok', -, hread⟩
  · rw [notes, hfault] at h
    cases h
  · rw [notes, hok'] at h
    cases h
    exact ⟨f, congrArg (Prod.fst <$> ·) hok, hread (List.Subset.refl _)⟩

/-- A document that can be read is read as its file, with the mentions in its notes. -/
theorem file_spec (h : d.notes mode = .ok n) (declared : List String) :
    d.read mode declared n = .ok (d.file mode declared) ∧
      IsRead (d.page mode (n.bind declared)) n.mentions (d.file mode declared) := by
  obtain ⟨f, hf, hread⟩ := read_spec h declared
  have hfile : d.file mode declared = f := by
    rw [file, noted_eq h, hf]
    rfl
  exact hfile ▸ ⟨hf, hread⟩

end Document

/-! ## Programs -/

variable {mode : Mode} {ds : List Document} {files : List File}

/-- All documents of a program can be read, and the notes on them are those of each document. -/
theorem mapM_notes_eq_ok_iff {notes : List Notes} : ds.mapM (Document.notes mode) = .ok notes ↔
    (∀ d ∈ ds, d.notes mode = .ok (d.noted mode)) ∧ notes = ds.map (Document.noted mode) := by
  induction ds generalizing notes with
  | nil =>
    rw [List.mapM_nil]
    exact ⟨fun h => ⟨List.forall_mem_nil _, (Except.ok.inj h).symm⟩, fun h => h.2 ▸ rfl⟩
  | cons d ds ih =>
    rw [List.mapM_cons, List.forall_mem_cons, List.map_cons]
    constructor
    · intro h
      obtain ⟨n, hn, h⟩ := Except.exists_of_bind_eq_ok h
      obtain ⟨ns, hns, h⟩ := Except.exists_of_bind_eq_ok h
      obtain ⟨hds, rfl⟩ := ih.1 hns
      obtain rfl := Document.noted_eq hn
      exact ⟨⟨hn, hds⟩, (Except.ok.inj h).symm⟩
    · rintro ⟨⟨hd, hds⟩, rfl⟩
      rw [hd, ih.2 ⟨hds, rfl⟩]
      rfl

/-- The second reading of documents that can be read gives the file of each. -/
theorem mapM_read_eq_ok (declared : List String)
    (h : ∀ d ∈ ds, d.notes mode = .ok (d.noted mode)) :
    (ds.zip (ds.map (Document.noted mode))).mapM (fun d => d.1.read mode declared d.2) =
      .ok (ds.map (Document.file mode declared)) := by
  induction ds with
  | nil => rfl
  | cons d ds ih =>
    obtain ⟨hd, hds⟩ := List.forall_mem_cons.1 h
    rw [List.map_cons, List.zip_cons_cons, List.mapM_cons, (Document.file_spec hd declared).1,
      ih hds]
    rfl

/-- The files of a program are those of its documents among the symbols that any of them
declares, if all documents can be read. -/
theorem readDocuments_eq_ok_iff : readDocuments mode ds = .ok files ↔
    (∀ d ∈ ds, d.notes mode = .ok (d.noted mode)) ∧ files =
      ds.map (Document.file mode (Binder.ofNotes (ds.map (Document.noted mode))).declared) := by
  unfold readDocuments
  constructor
  · intro h
    obtain ⟨notes, hnotes, h⟩ := Except.exists_of_bind_eq_ok h
    obtain ⟨hds, rfl⟩ := mapM_notes_eq_ok_iff.1 hnotes
    rw [mapM_read_eq_ok _ hds] at h
    exact ⟨hds, (Except.ok.inj h).symm⟩
  · rintro ⟨hds, rfl⟩
    rw [mapM_notes_eq_ok_iff.2 ⟨hds, rfl⟩]
    exact mapM_read_eq_ok _ hds

/-- In the files of a program as they are written nothing is a copy, and inline objects are named by
the declarations that they belong to. -/
theorem standing_of_readDocuments (h : readDocuments mode ds = .ok files) :
    ∀ e ∈ standing (files.flatMap (·.decls)), e.origin = none ∧ e.KeepsLiterals := by
  obtain ⟨hds, rfl⟩ := readDocuments_eq_ok_iff.1 h
  intro e he
  obtain ⟨c, hc, hstands⟩ := mem_standing.1 he
  obtain ⟨f, hf, hcf⟩ := List.mem_flatMap.1 hc
  obtain ⟨d, hd, rfl⟩ := List.mem_map.1 hf
  exact (Document.file_spec (hds d hd) _).2.standing e (mem_standing.2 ⟨c, hcf, hstands⟩)

end Source

/-- The files of a program are those that are written, with inherited members. -/
theorem Program.read_eq_ok_iff {mode : Mode} {ds : List Source.Document}
    {files : List Source.File} : Program.read mode ds = .ok files ↔
      ∃ written, Source.readDocuments mode ds = .ok written ∧
        (Source.inheritMembers written).1 = files := by
  unfold Program.read
  cases Source.readDocuments mode ds with
  | error fault => exact ⟨nofun, fun ⟨_, h, _⟩ => nomatch h⟩
  | ok written =>
    exact ⟨fun h => ⟨written, rfl, Except.ok.inj h⟩,
      fun ⟨_, hwritten, h⟩ => congrArg Except.ok (Except.ok.inj hwritten ▸ h)⟩

end ApiAtlas
