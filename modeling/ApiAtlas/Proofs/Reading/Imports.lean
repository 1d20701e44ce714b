import ApiAtlas.Proofs.Path.Segments
import ApiAtlas.Proofs.Reading.Documents
import Mathlib.Data.List.Find

/-!
# Imports between files

A file imports another one by a relative path. The module that the import means is found by
climbing from the folder of the importing file, and the module of the imported file by its own
name. Both are the same, however the path climbs and whether it names the ending of the file or
not (`importTarget_eq_moduleSymbol`).
-/

set_option autoImplicit false

namespace ApiAtlas.Source

open ApiAtlas.Path (IsName IsNormal under relative IsPathTo)
open ApiAtlas.Text (splitOn joinWith endsWith)

namespace Naming

/-- The endings of files, in the order in which they are tried. -/
def allEndings : List String :=
  declarationEndings ++ endings

variable {folders : List (List Char)} {path goal : List Char}

/-! ## Module paths -/

/-- No ending holds a slash. -/
theorem slash_notMem_ending : ∀ e ∈ allEndings, '/' ∉ e.toList := by
  decide

/-- Where a file has an ending, the path of its module is without it. -/
theorem modulePath_of_find {e : String}
    (h : allEndings.find? (fun e => endsWith e.toList path) = some e) :
    modulePath path = Text.dropEnding e.toList path := by
  rw [allEndings] at h
  rw [modulePath, h]

/-- Where a file has no ending, the path of its module is its own. -/
theorem modulePath_of_find_eq_none
    (h : allEndings.find? (fun e => endsWith e.toList path) = none) : modulePath path = path := by
  rw [allEndings] at h
  rw [modulePath, h]

/-- The ending belongs to what stands behind a slash. -/
theorem modulePath_append_cons (front path : List Char) :
    modulePath (front ++ '/' :: path) = front ++ '/' :: modulePath path := by
  have hfind : allEndings.find? (fun e => endsWith e.toList (front ++ '/' :: path)) =
      allEndings.find? fun e => endsWith e.toList path :=
    List.find?_congr fun e he => Text.endsWith_append_cons (slash_notMem_ending e he) front path
  cases hfound : allEndings.find? fun e => endsWith e.toList path with
  | none =>
    rw [modulePath_of_find_eq_none (hfind.trans hfound), modulePath_of_find_eq_none hfound]
  | some e =>
    obtain ⟨start, rfl⟩ := Text.endsWith_iff.1
      (List.find?_some (p := fun e : String => endsWith e.toList path) hfound)
    rw [modulePath_of_find (hfind.trans hfound), modulePath_of_find hfound,
      Text.dropEnding_append, ← List.cons_append, ← List.append_assoc, Text.dropEnding_append]

/-- The path of a module in folders is the path of the module in these folders. -/
theorem modulePath_under (folders : List (List Char)) (path : List Char) :
    modulePath (under folders path) = under folders (modulePath path) := by
  induction folders with
  | nil => rfl
  | cons folder folders ih => rw [Path.under_cons, modulePath_append_cons, ih, Path.under_cons]

/-- The path of a module is how the path of its file starts. -/
theorem modulePath_starts (path : List Char) : modulePath path <+: path := by
  unfold modulePath
  split
  · exact List.take_prefix _ _
  · exact List.prefix_refl _

/-- A path without an ending is the module path itself. -/
theorem modulePath_eq_self (h : ∀ e ∈ allEndings, endsWith e.toList path = false) :
    modulePath path = path := by
  refine modulePath_of_find_eq_none (List.find?_eq_none.2 fun e he => ?_)
  exact Bool.eq_false_iff.1 (h e he)

/-! ## Relative imports -/

/-- The folder of a file, by the names that lead to it. -/
theorem folder_modulePath {last : List Char}
    (hpath : splitOn '/' path = folders ++ [last]) (hnormal : IsNormal path) :
    Path.folder (modulePath path) = joinWith ['/'] folders := by
  have hsegment : ∀ segment ∈ folders ++ [last], IsName segment ∧ '/' ∉ segment :=
    fun segment h => ⟨hnormal segment (hpath ▸ h), Text.sep_notMem_of_mem_splitOn (hpath ▸ h)⟩
  rw [Path.eq_under_of_splitOn hpath (List.cons_ne_nil last []), modulePath_under]
  refine Path.folder_under (fun name h => ?_) fun h => ?_
  · obtain ⟨hname, hslash⟩ := hsegment name (List.mem_append_left _ h)
    exact ⟨hname.1, hslash⟩
  · exact (hsegment last (List.mem_append_right _ (List.mem_singleton_self last))).2
      ((modulePath_starts last).subset h)

/-- A relative import means the module of the file that it leads to. -/
theorem importTarget_of_isPathTo {name : String} (hname : IsNormal name.toList)
    (hgoal : IsNormal (modulePath goal)) (h : IsPathTo name.toList goal path) :
    importTarget .modules name (String.ofList path) =
      inQuotes (String.ofList (modulePath goal)) := by
  obtain ⟨common, climbed, names, hfolders, hsplit, hnames, rfl⟩ := h
  obtain ⟨last, hlast⟩ : ∃ last, splitOn '/' name.toList = common ++ climbed ++ [last] :=
    ⟨_, by rw [← hfolders, List.dropLast_concat_getLast (Text.splitOn_ne_nil '/' name.toList)]⟩
  have hfolderNames : ∀ folder ∈ common ++ climbed, IsName folder ∧ '/' ∉ folder := by
    intro folder h
    have hmem : folder ∈ splitOn '/' name.toList := hlast ▸ List.mem_append_left _ h
    exact ⟨hname folder hmem, Text.sep_notMem_of_mem_splitOn hmem⟩
  -- The module path of the goal goes down from the common folder.
  have hmodule : modulePath goal = under common (modulePath (joinWith ['/'] names)) := by
    rw [Path.eq_under_of_splitOn hsplit hnames, modulePath_under]
  have hdown : IsNormal (modulePath (joinWith ['/'] names)) := by
    intro segment h
    refine hgoal segment ?_
    rw [hmodule, Path.splitOn_under (Path.slash_notMem_of_splitOn hsplit)]
    exact List.mem_append_right _ h
  have hpath : modulePath (relative climbed.length names) =
      under (Path.climbSegments climbed.length) (modulePath (joinWith ['/'] names)) := by
    rw [Path.relative_eq_under, modulePath_under]
  obtain ⟨rest, hrest⟩ := Path.exists_cons_climb climbed.length (joinWith ['/'] names)
  obtain ⟨rest', hrest'⟩ :=
    Path.exists_cons_climb climbed.length (modulePath (joinWith ['/'] names))
  have hstart : Text.startsWith ['.'] (relative climbed.length names) = true := by
    rw [Path.relative_eq_under, hrest]
    rfl
  have hjoin : Path.join (joinWith ['/'] (common ++ climbed))
      (modulePath (relative climbed.length names)) =
        under (common ++ climbed) (modulePath (relative climbed.length names)) := by
    refine Path.join_joinWith (fun folder h => ?_) ?_
    · exact ⟨(hfolderNames folder h).1.1, (hfolderNames folder h).2⟩
    · rw [hpath, hrest']
      simp
  rw [importTarget, String.toList_ofList]
  simp only [hstart, if_true]
  rw [folder_modulePath hlast hname, hjoin, hpath, Path.normalize_climb hfolderNames hdown,
    hmodule]

end Naming

/-- A file that is read as a module has the symbol of its name. -/
theorem Document.moduleSymbol_of_read {d : Document} {declared : List String} {n : Notes}
    {f : File} (h : d.read .modules declared n = .ok f) :
    f.moduleSymbol = some (Naming.moduleSymbol d.name) := by
  unfold Document.read Reading.readFile at h
  simp only [Document.page, StateT.run_bind, map_eq_pure_bind] at h
  obtain ⟨r, hrun, hf⟩ := Except.exists_of_bind_eq_ok h
  obtain ⟨owner, howner, hrun⟩ := Except.exists_of_bind_eq_ok hrun
  obtain ⟨decls, -, hrun⟩ := Except.exists_of_bind_eq_ok hrun
  obtain ⟨comment, -, hrun⟩ := Except.exists_of_bind_eq_ok hrun
  cases hf
  cases hrun
  cases howner
  rfl

/-- An import of one module by another names the module. A relative path that leads from one file to
the other, with or without the ending of that file, means the symbol that the file has as a
module. -/
theorem importTarget_eq_moduleSymbol {name goal specifier : String} {written : List Char}
    (hname : IsNormal name.toList) (hmodule : IsNormal (Naming.modulePath goal.toList))
    (hending : ∀ e ∈ Naming.declarationEndings ++ Naming.endings,
      endsWith e.toList (Naming.modulePath goal.toList) = false)
    (hwritten : written = goal.toList ∨ written = Naming.modulePath goal.toList)
    (hleads : IsPathTo name.toList written specifier.toList) :
    Naming.importTarget .modules name specifier = Naming.moduleSymbol goal ∧
      ∀ d : Document, d.name = goal → ∀ declared n f, d.read .modules declared n = .ok f →
        f.moduleSymbol = some (Naming.importTarget .modules name specifier) := by
  have hsame : Naming.modulePath written = Naming.modulePath goal.toList := by
    rcases hwritten with rfl | rfl
    · rfl
    · exact Naming.modulePath_eq_self hending
  have htarget : Naming.importTarget .modules name specifier = Naming.moduleSymbol goal := by
    rw [← String.ofList_toList (s := specifier), Naming.importTarget_of_isPathTo hname
      (hsame ▸ hmodule) hleads, hsame, Naming.moduleSymbol]
  refine ⟨htarget, ?_⟩
  rintro d rfl declared n f hread
  rw [htarget]
  exact d.moduleSymbol_of_read hread

/-- A file in a neighbouring folder, whose ending is one of the longer ones, imported with its
ending and without it. -/
theorem neighbour_declarations_imported :
    let name := "src/app/main.ts"
    let goal := "src/lib/point.d.ts"
    IsNormal name.toList ∧ IsNormal (Naming.modulePath goal.toList) ∧
      (∀ e ∈ Naming.declarationEndings ++ Naming.endings,
        endsWith e.toList (Naming.modulePath goal.toList) = false) ∧
      IsPathTo name.toList goal.toList "../lib/point.d.ts".toList ∧
      IsPathTo name.toList (Naming.modulePath goal.toList) "../lib/point".toList ∧
      Naming.importTarget .modules name "../lib/point.d.ts" = Naming.moduleSymbol goal ∧
      Naming.importTarget .modules name "../lib/point" = Naming.moduleSymbol goal := by
  intro name goal
  have hname : IsNormal name.toList := by decide +kernel
  have hmodule : IsNormal (Naming.modulePath goal.toList) := by decide +kernel
  have hending : ∀ e ∈ Naming.declarationEndings ++ Naming.endings,
      endsWith e.toList (Naming.modulePath goal.toList) = false := by decide +kernel
  have hfull : IsPathTo name.toList goal.toList "../lib/point.d.ts".toList :=
    ⟨["src".toList], ["app".toList], ["lib".toList, "point.d.ts".toList], by decide +kernel⟩
  have hshort : IsPathTo name.toList (Naming.modulePath goal.toList) "../lib/point".toList :=
    ⟨["src".toList], ["app".toList], ["lib".toList, "point".toList], by decide +kernel⟩
  exact ⟨hname, hmodule, hending, hfull, hshort,
    (importTarget_eq_moduleSymbol hname hmodule hending (.inl rfl) hfull).1,
    (importTarget_eq_moduleSymbol hname hmodule hending (.inr rfl) hshort).1⟩

end ApiAtlas.Source
