import ApiAtlas.Program
import ApiAtlas.Proofs.Conversion.CoupledWalk
import ApiAtlas.Proofs.Conversion.Identity

/-!
# Filters

The settings can leave out private declarations, declarations that are not exported, and external
files. Each of them yields what is converted, without the setting, from files that lack what it
leaves out: the conversions of a program and of what is left of it couple with the entries numbered
alike, so that they end in the same draft.
-/

set_option autoImplicit false

namespace ApiAtlas

open Source (Decl declsOf stripDecls keepAll)

namespace Source

/-! ## What is left out -/

/-- Whether a declaration is private. -/
def isPrivate (_top : Bool) (d : Decl) : Bool :=
  d.kind.isDeclared && d.modifiers.contains "private"

/-- Whether a declaration at the top is neither exported nor declared. -/
def isInternal (top : Bool) (d : Decl) : Bool :=
  top && d.kind.isDeclared &&
    !(d.modifiers.contains "export" || d.modifiers.contains "declare")

/-- No declaration of a file, nor the module that the file becomes, has its own symbol repeated
below it. -/
def File.RepeatsNone (f : File) (mode : Mode) : Prop :=
  ∀ n ∈ declsOf (f.topDecls mode), ∀ m ∈ n.nested, m.symbol = none ∨ m.symbol ≠ n.symbol

instance (f : File) (mode : Mode) : Decidable (f.RepeatsNone mode) :=
  inferInstanceAs (Decidable (∀ n ∈ _, ∀ m ∈ _, _))

/-- In a file that repeats no symbol, what is nested in a declaration does not carry its symbol. -/
theorem File.RepeatsNone.not_carries {f : File} {mode : Mode} (h : f.RepeatsNone mode) {n m : Decl}
    (hn : n ∈ declsOf (f.topDecls mode)) (hm : m ∈ n.nested) {s : String} (hs : m.Carries s) :
    ¬n.Carries s := by
  intro hns
  rcases h n hn m hm with hnone | hne
  · exact Option.some_ne_none s (hs.symm.trans hnone)
  · exact hne (hs.trans hns.symm)

end Source

/-! ## The same numbers -/

/-- The coupling of two conversions that number their entries alike, when certain symbols may be
declared. -/
def Coupling.sameNumbers (before after : Settings) (drop : Bool → Decl → Bool) (strict : Prop)
    (carried : String → Prop)
    (drop_declared : ∀ {top d}, drop top d = true → d.kind.isDeclared = true)
    (drop_unwanted : ∀ {top d k}, drop top d = true → (strict → k.isIn Kind.topKinds = top) →
      Conv.isWanted before k d = false)
    (keep_wanted : ∀ {top d k}, drop top d = false → d.kind.isDeclared = true →
      (strict → k.isIn Kind.topKinds = top) →
      Conv.isWanted after k d = Conv.isWanted before k d) : Coupling where
  rename := id
  before := before
  after := after
  drop := drop
  strict := strict
  Carried := carried
  Related x y := x = y ∧ x.atlas.Identified
  Same g g' := g = g'
  drop_declared := drop_declared
  drop_unwanted := drop_unwanted
  keep_wanted := keep_wanted
  identified h := h.2
  alike := by
    rintro x _ ⟨rfl, -⟩ i
    change Option.Rel _ (x.atlas.get? i) (x.atlas.get? i)
    cases x.atlas.get? i with
    | none => exact .none
    | some e =>
      have halike := e.alike_rename id
      rw [e.rename_id] at halike
      exact .some halike
  fresh := by
    rintro x _ ⟨rfl, -⟩
    rfl
  lookup := by
    rintro x _ ⟨rfl, -⟩ s -
    exact (Option.map_id_fun ▸ rfl)
  same _ := rfl
  same_signature _ _ _ _ := rfl
  report := by
    rintro x _ ⟨rfl, hx⟩ g _ rfl
    exact ⟨rfl, hx⟩
  add := by
    rintro x _ ⟨rfl, hx⟩ e p hp hlt hb
    rw [e.rename_id]
    exact ⟨rfl, hx.add hp hlt hb⟩
  enter := by
    rintro x _ ⟨rfl, hx⟩ i e d s hb hd hl hfree - hi
    rw [e.rename_id]
    exact ⟨rfl, hx.enter hb (by rw [hd]) hfree hl hi.lt⟩
  change := by
    rintro x _ ⟨rfl, hx⟩ i f f' - hf hkeeps
    obtain rfl : f = f' := by
      funext e
      have := hf e
      rwa [Entry.rename_id, Entry.rename_id] at this
    exact ⟨rfl, hx.modify hkeeps⟩

section SameNumbers

variable {before after : Settings} {drop : Bool → Decl → Bool} {strict : Prop}
  (drop_declared : ∀ {top d}, drop top d = true → d.kind.isDeclared = true)
  (drop_unwanted : ∀ {top d k}, drop top d = true → (strict → k.isIn Kind.topKinds = top) →
    Conv.isWanted before k d = false)
  (keep_wanted : ∀ {top d k}, drop top d = false → d.kind.isDeclared = true →
    (strict → k.isIn Kind.topKinds = top) → Conv.isWanted after k d = Conv.isWanted before k d)

include drop_declared drop_unwanted keep_wanted

/-- A file and what is left of it are converted alike. -/
theorem Conv.convertFile_strip {f : Source.File} {x : Draft} (hmode : after.mode = before.mode)
    (hpatterns : after.externalPatterns = before.externalPatterns)
    (hwanted : f.isWantedIn after = f.isWantedIn before)
    (hmodule : drop true f.toModule = false) (hx : x.atlas.Identified)
    (hf : strict → f.RepeatsNone before.mode) :
    (convertFile after (f.strip drop)).run x = (convertFile before f).run x := by
  let K := Coupling.sameNumbers before after drop strict (fun _ => True) drop_declared
    drop_unwanted keep_wanted
  have hexternal : (f.strip drop).isExternalIn after = f.isExternalIn before := by
    unfold Source.File.isExternalIn Settings.coversFile
    rw [hpatterns]
    rfl
  have hstrip : (f.strip drop).isWantedIn after = f.isWantedIn after := rfl
  unfold convertFile
  rw [hstrip, hwanted, hexternal, hmode]
  split
  · have hallow : K.Allows (declsOf (f.topDecls before.mode)) :=
      ⟨fun _ _ _ _ => trivial, fun hstrict n hn m hm s hs => (hf hstrict).not_carries hn hm hs⟩
    let site : Site := ⟨Atlas.root, [], some f.name, f.isExternalIn before, before⟩
    have hcouples := topDecls_couples (K := K) (s := site) ⟨rfl, hx⟩ rfl hmodule hallow
    have hrun : (convertDecls (K.right site) ((f.strip drop).topDecls before.mode)).run x =
        (convertDecls (K.left site) (f.topDecls before.mode)).run x :=
      Prod.ext (hcouples.value.trans (List.map_id _)) hcouples.related.1.symm
    exact congrArg (fun r : List EntryId × Draft =>
      (change fun a => r.1.foldl (fun a id => a.noteFile f.name id) a).run r.2) hrun
  · rfl

/-- Files and what is left of them are converted alike. -/
theorem Draft.ofFiles_strip {files : List Source.File} (hname : after.name = before.name)
    (hmode : after.mode = before.mode)
    (hpatterns : after.externalPatterns = before.externalPatterns)
    (hwanted : ∀ f ∈ files, f.isWantedIn after = f.isWantedIn before)
    (hmodule : ∀ f : Source.File, drop true f.toModule = false)
    (hf : strict → ∀ f ∈ files, f.RepeatsNone before.mode) :
    Draft.ofFiles after (files.map (Source.File.strip drop)) = Draft.ofFiles before files := by
  have key : ∀ x : Draft, x.atlas.Identified →
      (Conv.convertFiles after (files.map (Source.File.strip drop))).run x =
        (Conv.convertFiles before files).run x := by
    induction files with
    | nil => exact fun _ _ => rfl
    | cons f files ih =>
      intro x hx
      obtain ⟨hw, hws⟩ := List.forall_mem_cons.1 hwanted
      have hfile := Conv.convertFile_strip drop_declared drop_unwanted keep_wanted hmode hpatterns
        hw (hmodule f) hx fun hstrict => hf hstrict f (List.mem_cons_self ..)
      have hrest := ih hws fun hstrict g hg => hf hstrict g (List.mem_cons_of_mem _ hg)
      change (Conv.convertFiles after (files.map (Source.File.strip drop))).run
          ((Conv.convertFile after (f.strip drop)).run x).2 =
        (Conv.convertFiles before files).run ((Conv.convertFile before f).run x).2
      rw [hfile]
      exact hrest _ (Conv.convertFile_runs hx |>.identified hx)
  have hstart : Draft.start after = Draft.start before := by rw [Draft.start, hname, Draft.start]
  rw [Draft.ofFiles, hstart, key _ (Draft.start_identified before), Draft.ofFiles]

end SameNumbers

/-! ## The settings -/

/-- Inputs that are converted to one draft, and are both empty or both not, have one outcome. -/
theorem Program.convert_congr {settings settings' : Settings} {files files' : List Source.File}
    (hempty : files.isEmpty = files'.isEmpty)
    (h : Draft.ofFiles settings files = Draft.ofFiles settings' files') :
    Program.convert settings files = Program.convert settings' files' := by
  rw [Program.convert, Program.convert, hempty, h]

/-- Leaving out private declarations while converting is converting files without them. -/
theorem Program.convert_excludePrivate (settings : Settings) (files : List Source.File) :
    Program.convert { settings with excludePrivate := true } files =
      Program.convert { settings with excludePrivate := false }
        (files.map (Source.File.strip Source.isPrivate)) := by
  refine Program.convert_congr (by simp) (Eq.symm ?_)
  refine Draft.ofFiles_strip ?_ ?_ ?_ rfl rfl rfl (fun _ _ => rfl) (fun f => ?_) False.elim
  · intro top d h
    simp_all [Source.isPrivate]
  · intro top d k h _
    simp_all [Source.isPrivate, Conv.isWanted]
  · intro top d k h hd _
    simp_all [Source.isPrivate, Conv.isWanted]
  · simp [Source.isPrivate, Source.File.toModule]

/-- Leaving out what is not exported while converting is converting files without it. -/
theorem Program.convert_excludeNotExported (settings : Settings) (files : List Source.File)
    (hf : ∀ f ∈ files, f.RepeatsNone settings.mode) :
    Program.convert { settings with excludeNotExported := true } files =
      Program.convert { settings with excludeNotExported := false }
        (files.map (Source.File.strip Source.isInternal)) := by
  refine Program.convert_congr (by simp) (Eq.symm ?_)
  refine Draft.ofFiles_strip ?_ ?_ ?_ rfl rfl rfl (fun _ _ => rfl) (fun f => ?_)
    fun _ : True => hf
  · intro top d h
    simp_all [Source.isInternal]
  · intro top d k h htop
    simp_all [Source.isInternal, Conv.isWanted, Kind.topKinds]
  · intro top d k h hd htop
    obtain rfl := htop trivial
    rw [Source.isInternal, hd, Bool.and_true] at h
    simp only [Conv.isWanted, Bool.false_and, Bool.true_and]
    rw [show Kind.project :: Kind.someModule = Kind.topKinds from rfl, h]
  · simp [Source.isInternal, Source.File.toModule]

/-- Files that the settings leave out change nothing. -/
theorem Draft.ofFiles_filter (settings : Settings) (files : List Source.File) :
    Draft.ofFiles settings (files.filter (·.isWantedIn settings)) =
      Draft.ofFiles settings files := by
  have key : ∀ x : Draft,
      (Conv.convertFiles settings (files.filter (·.isWantedIn settings))).run x =
        (Conv.convertFiles settings files).run x := by
    induction files with
    | nil => exact fun _ => rfl
    | cons f files ih =>
      intro x
      cases hf : f.isWantedIn settings with
      | true =>
        rw [List.filter_cons, if_pos hf]
        exact ih ((Conv.convertFile settings f).run x).2
      | false =>
        have hskip : Conv.convertFile settings f = pure () := by
          rw [Conv.convertFile, hf]
          rfl
        rw [List.filter_cons, if_neg (Bool.eq_false_iff.1 hf), ih]
        change _ = (Conv.convertFiles settings files).run ((Conv.convertFile settings f).run x).2
        rw [hskip]
        rfl
  exact congrArg Prod.snd (key (Draft.start settings))

/-- Files are converted alike by settings that agree on what they want. -/
theorem Draft.ofFiles_congr {before after : Settings} {files : List Source.File}
    (hname : after.name = before.name) (hmode : after.mode = before.mode)
    (hpatterns : after.externalPatterns = before.externalPatterns)
    (hprivate : after.excludePrivate = before.excludePrivate)
    (hexported : after.excludeNotExported = before.excludeNotExported)
    (hwanted : ∀ f ∈ files, f.isWantedIn after = f.isWantedIn before) :
    Draft.ofFiles after files = Draft.ofFiles before files := by
  have hstrip : Draft.ofFiles after (files.map (Source.File.strip keepAll)) =
      Draft.ofFiles before files := by
    refine Draft.ofFiles_strip ?_ ?_ ?_ hname hmode hpatterns hwanted (fun _ => rfl) False.elim
    · exact fun h => absurd h Bool.false_ne_true
    · exact fun h => absurd h Bool.false_ne_true
    · intro top d k _ _ _
      rw [Conv.isWanted, Conv.isWanted, hprivate, hexported]
  rwa [Source.File.map_strip_keepAll] at hstrip

/-- Leaving out external files while converting is converting the others, if there are any. -/
theorem Program.convert_excludeExternals (settings : Settings) (files : List Source.File)
    (hf : ∃ f ∈ files, f.isExternalIn settings = false) :
    Program.convert { settings with excludeExternals := true } files =
      Program.convert { settings with excludeExternals := false }
        (files.filter fun f => !f.isExternalIn settings) := by
  let before : Settings := { settings with excludeExternals := true }
  have hbefore : ∀ f : Source.File, f.isWantedIn before = !f.isExternalIn settings :=
    fun f => congrArg not (Bool.and_true (f.isExternalIn settings))
  have hafter : Draft.ofFiles { settings with excludeExternals := false }
      (files.filter (·.isWantedIn before)) =
        Draft.ofFiles before (files.filter (·.isWantedIn before)) := by
    refine Draft.ofFiles_congr ?_ ?_ ?_ ?_ ?_ fun f hmem => ?_
    case refine_6 =>
      rw [(List.mem_filter.1 hmem).2]
      exact congrArg not (Bool.and_false (f.isExternalIn settings))
    all_goals rfl
  simp only [← hbefore]
  refine Program.convert_congr ?_ (hafter.trans (Draft.ofFiles_filter before files)).symm
  obtain ⟨f, hmem, hexternal⟩ := hf
  have hkept : f ∈ files.filter (·.isWantedIn before) :=
    List.mem_filter.2 ⟨hmem, by rw [hbefore, hexternal, Bool.not_false]⟩
  rw [List.isEmpty_eq_false_iff.2 (List.ne_nil_of_mem hmem),
    List.isEmpty_eq_false_iff.2 (List.ne_nil_of_mem hkept)]

/-- What the settings leave out leaves no trace in the atlas, in the problems that are reported and
in what stays unresolved: private declarations at any depth, declarations that are not exported, and
external files, when there are others. -/
theorem Program.convert_filters (settings : Settings) (files : List Source.File)
    (hf : ∀ f ∈ files, f.RepeatsNone settings.mode) :
    Program.convert { settings with excludePrivate := true } files =
        Program.convert { settings with excludePrivate := false }
          (files.map (Source.File.strip Source.isPrivate)) ∧
      Program.convert { settings with excludeNotExported := true } files =
        Program.convert { settings with excludeNotExported := false }
          (files.map (Source.File.strip Source.isInternal)) ∧
      ((∃ f ∈ files, f.isExternalIn settings = false) →
        Program.convert { settings with excludeExternals := true } files =
          Program.convert { settings with excludeExternals := false }
            (files.filter fun f => !f.isExternalIn settings)) :=
  ⟨Program.convert_excludePrivate settings files,
    Program.convert_excludeNotExported settings files hf,
    Program.convert_excludeExternals settings files⟩

/-- A file with a class that has a private method and, inside the type of a property, a private
member, and with an interface that is not exported; and an external file besides. -/
theorem partly_hidden_convert_filters :
    let hidden : Decl :=
      { kind := .property, name := some "q", symbol := some "A#p.q", modifiers := ["private"] }
    let files : List Source.File :=
      [{ name := "a.ts",
         decls := [{ kind := .class, name := some "A", symbol := some "A", modifiers := ["export"],
                     children := [
                       { kind := .method, name := some "m", symbol := some "A#m",
                         modifiers := ["private"] },
                       { kind := .property, name := some "p", symbol := some "A#p",
                         type := some { form := .object, members := [hidden] } }] },
                   { kind := .interface, name := some "I", symbol := some "I" }] },
       { name := "lib.d.ts", isExternal := true,
         decls := [{ kind := .interface, name := some "L", symbol := some "L",
                     modifiers := ["declare"] }] }]
    let symbols (fs : List Source.File) := fs.map fun f => (declsOf f.decls).filterMap (·.symbol)
    (∀ f ∈ files, f.RepeatsNone .file) ∧ (∃ f ∈ files, f.isExternalIn {} = false) ∧
      symbols files = [["A", "A#m", "A#p", "A#p.q", "I"], ["L"]] ∧
      symbols (files.map (Source.File.strip Source.isPrivate)) = [["A", "A#p", "I"], ["L"]] ∧
      symbols (files.map (Source.File.strip Source.isInternal)) =
        [["A", "A#m", "A#p", "A#p.q"], ["L"]] ∧
      Program.convert { excludePrivate := true } files =
        Program.convert {} (files.map (Source.File.strip Source.isPrivate)) ∧
      Program.convert { excludeNotExported := true } files =
        Program.convert {} (files.map (Source.File.strip Source.isInternal)) ∧
      Program.convert { excludeExternals := true } files =
        Program.convert {} (files.filter fun f => !f.isExternalIn {}) := by
  intro hidden files symbols
  have hf : ∀ f ∈ files, f.RepeatsNone .file := by decide +kernel
  have hexternal : ∃ f ∈ files, f.isExternalIn {} = false := by decide +kernel
  obtain ⟨hprivate, hexported, hrest⟩ := Program.convert_filters {} files hf
  exact ⟨hf, hexternal, by decide +kernel, by decide +kernel, by decide +kernel, hprivate,
    hexported, hrest hexternal⟩

end ApiAtlas
