import ApiAtlas.Proofs.Conversion.Beside
import Mathlib.Algebra.GroupWithZero.Nat

/-!
# Files side by side

When no symbol occurs in two files, the draft of a program consists of what its files are converted
to when each is alone, one behind the other (`Draft.LaidOut`). Where a file stands only decides how
its entries are numbered.
-/

set_option autoImplicit false

namespace ApiAtlas

open Source (declsOf)

variable {settings : Settings}

/-- Whether no symbol occurs in both of two files. -/
def Source.File.Unrelated (mode : Mode) (f g : Source.File) : Prop :=
  ∀ s, f.Carries mode s → ¬g.Carries mode s

/-- Two files are unrelated in any order. -/
theorem Source.File.Unrelated.symm {mode : Mode} {f g : Source.File} (h : f.Unrelated mode g) :
    g.Unrelated mode f :=
  fun s hg hf => h s hf hg

/-- It is enough to compare the symbols of the declarations. -/
theorem Source.File.unrelated_iff {mode : Mode} {f g : Source.File} : f.Unrelated mode g ↔
    ∀ d ∈ declsOf (f.topDecls mode), ∀ e ∈ declsOf (g.topDecls mode),
      d.symbol = none ∨ d.symbol ≠ e.symbol := by
  constructor
  · intro h d hd e he
    cases hs : d.symbol with
    | none => exact .inl rfl
    | some s => exact .inr fun heq => h s ⟨d, hd, hs⟩ ⟨e, he, heq.symm⟩
  · rintro h s ⟨d, hd, hds⟩ ⟨e, he, hes⟩
    rcases h d hd e he with hnone | hne
    · cases hds.symm.trans hnone
    · exact hne (hds.trans hes.symm)

instance (f g : Source.File) (mode : Mode) : Decidable (f.Unrelated mode g) :=
  decidable_of_iff _ Source.File.unrelated_iff.symm

namespace Draft

/-- How many entries a file adds to the project. -/
def width (settings : Settings) (f : Source.File) : Nat :=
  (alone settings f).atlas.size - 1

/-- Conversion passes what a file is converted to when there are no others. -/
theorem alone_mem_states (settings : Settings) (f : Source.File) :
    alone settings f ∈ states settings [f] :=
  ofFiles_mem_states settings [f]

/-- What a file is converted to when there are no others is identified. -/
theorem alone_identified (settings : Settings) (f : Source.File) :
    (alone settings f).atlas.Identified :=
  (states_identified _ (alone_mem_states settings f)).1

/-- The project is no child. -/
theorem ne_root_of_mem_childrenOf {f : Source.File} {i c : EntryId}
    (h : c ∈ (alone settings f).atlas.childrenOf i) : c ≠ Atlas.root := by
  rintro rfl
  have hparent := (states_placed _ (alone_mem_states settings f)).parent i Atlas.root h
  exact Nat.not_lt_zero i ((alone_identified settings f).parent?_lt hparent)

/-- Files, each with the number of entries between the project and its own. -/
def offsets (settings : Settings) : Nat → List Source.File → List (Nat × Source.File)
  | _, [] => []
  | n, f :: fs => (n, f) :: offsets settings (n + width settings f) fs

/-- Files with their offsets are still the same files. -/
theorem map_snd_offsets (n : Nat) (files : List Source.File) :
    (offsets settings n files).map Prod.snd = files := by
  induction files generalizing n with
  | nil => rfl
  | cons f files ih => rw [offsets, List.map_cons, ih]

/-- The entries but the project. -/
def entries (x : Draft) : List Entry :=
  x.atlas.entries.toList.tail

/-- A draft with what files are converted to when each is alone, behind what comes before it. -/
structure LaidOut (settings : Settings) (files : List (Nat × Source.File)) (x : Draft) : Prop where
  identified : x.atlas.Identified
  name : x.atlas.nameOf Atlas.root = settings.name
  size : x.atlas.size = (files.map fun p => width settings p.2).sum + 1
  entry : ∀ p ∈ files, ∀ i e, i ≠ Atlas.root → (alone settings p.2).atlas.get? i = some e →
    x.atlas.get? (i + p.1) = some (e.rename (behind p.1))
  entries : x.entries =
    files.flatMap fun p => (alone settings p.2).entries.map (Entry.rename (behind p.1))
  children : x.atlas.childrenOf Atlas.root = files.flatMap fun p =>
    ((alone settings p.2).atlas.childrenOf Atlas.root).map (behind p.1)
  registered : ∀ p ∈ files, ∀ s, p.2.Carries settings.mode s → x.atlas.symbols.get? s =
    ((alone settings p.2).atlas.symbols.get? s).map (behind p.1)
  free : ∀ s, (∀ p ∈ files, ¬p.2.Carries settings.mode s) → x.atlas.symbols.get? s = none
  cover : ∀ j < x.atlas.size, j ≠ Atlas.root → ∃ p ∈ files, ∃ i < (alone settings p.2).atlas.size,
    i ≠ Atlas.root ∧ j = i + p.1

/-- A file more adds its width to the sum of the widths. -/
theorem sum_width_append (files : List (Nat × Source.File)) (n : Nat) (f : Source.File) :
    ((files ++ [(n, f)]).map fun p => width settings p.2).sum =
      (files.map fun p => width settings p.2).sum + width settings f := by
  rw [List.map_append, List.sum_append, List.map_singleton, List.sum_singleton]

/-- The entries but the project are numbered from one in the atlas. -/
theorem entries_getElem? (x : Draft) (i : Nat) : x.entries[i]? = x.atlas.get? (i + 1) := by
  rw [entries, List.getElem?_tail, Array.getElem?_toList]
  rfl

/-- A draft beside a base has the entries of the base and then the renumbered ones. -/
theorem Beside.entries_eq {base x y : Draft} {n : Nat} {carried : String → Prop}
    (h : Beside base n carried x y) :
    y.entries = base.entries ++ x.entries.map (Entry.rename (behind n)) := by
  have hlength : base.entries.length = n := by
    have hbase : base.atlas.entries.size = n + 1 := h.base_size
    rw [Draft.entries, List.length_tail, Array.length_toList, hbase, Nat.add_sub_cancel]
  refine List.ext_getElem? fun i => ?_
  rw [entries_getElem?]
  by_cases hi : i < n
  · rw [List.getElem?_append_left (hlength.symm ▸ hi), entries_getElem?]
    exact h.old (i + 1) (Nat.succ_ne_zero i) (h.base_size ▸ Nat.succ_lt_succ hi)
  · have hsplit : i + 1 = (i - n + 1) + n := by omega
    rw [List.getElem?_append_right (hlength.symm ▸ Nat.le_of_not_lt hi), hlength,
      List.getElem?_map, entries_getElem?, hsplit]
    exact h.entries (i - n + 1) (Nat.succ_ne_zero _)

/-- The draft that conversion starts from has no files laid out. -/
theorem laidOut_start (settings : Settings) : LaidOut settings [] (start settings) where
  identified := start_identified settings
  name := rfl
  size := rfl
  entry := nofun
  entries := rfl
  children := rfl
  registered := nofun
  free _ _ := rfl
  cover _ hj hne := absurd (Nat.lt_one_iff.1 hj) hne

/-- One more file is laid out behind the others. -/
theorem LaidOut.convertFile {files : List (Nat × Source.File)} {x : Draft} {f : Source.File}
    {n : Nat} (h : LaidOut settings files x) (hn : x.atlas.size = n + 1)
    (hf : ∀ p ∈ files, p.2.Unrelated settings.mode f) :
    LaidOut settings (files ++ [(n, f)]) ((Conv.convertFile settings f).run x).2 := by
  have hfree : ∀ s, f.Carries settings.mode s → x.atlas.symbols.get? s = none :=
    fun s hs => h.free s fun p hp hps => hf p hp s hps hs
  -- The file is converted beside what is there already, as it is alone.
  have hb := Conv.convertFile_beside h.identified h.name hn hfree
  have hgrows : x.atlas.Extends ((Conv.convertFile settings f).run x).2.atlas :=
    (Conv.convertFile_runs h.identified).grows h.identified
  constructor
  case identified => exact hb.right
  case name =>
    obtain ⟨e, he⟩ := Atlas.exists_get? h.identified.zero_lt_size
    obtain ⟨e', he', hkeep⟩ := hgrows _ e he
    rw [← h.name, Atlas.nameOf, he', Atlas.nameOf, he, Option.map_some, Option.map_some, hkeep.name]
  case size =>
    have hzero : 0 < (alone settings f).atlas.size := hb.left.zero_lt_size
    have hsum := h.size
    have hwidth : width settings f = (alone settings f).atlas.size - 1 := rfl
    rw [hb.size, sum_width_append]
    omega
  case entry =>
    intro p hp i e hi he
    rcases List.mem_append.1 hp with hp | hp
    · have hold := h.entry p hp i e hi he
      rw [← hold]
      exact hb.old _ (Nat.ne_of_gt (Nat.add_pos_left (Nat.pos_of_ne_zero hi) _))
        (Atlas.get?_lt hold)
    · obtain rfl := List.mem_singleton.1 hp
      rw [hb.entries i hi, he, Option.map_some]
  case entries => rw [hb.entries_eq, h.entries, List.flatMap_append, List.flatMap_singleton]
  case children => rw [hb.children, h.children, List.flatMap_append, List.flatMap_singleton]
  case registered =>
    intro p hp s hs
    rcases List.mem_append.1 hp with hp | hp
    · rw [← h.registered p hp s hs]
      exact (hb.rest s fun hfs => hf p hp s hs hfs).1
    · obtain rfl := List.mem_singleton.1 hp
      exact hb.declared s hs
  case free =>
    intro s hs
    rw [(hb.rest s (hs (n, f) (List.mem_append_right _ (List.mem_singleton_self _)))).1]
    exact h.free s fun p hp => hs p (List.mem_append_left _ hp)
  case cover =>
    intro j hj hne
    by_cases hlt : j < x.atlas.size
    · obtain ⟨p, hp, hi⟩ := h.cover j hlt hne
      exact ⟨p, List.mem_append_left _ hp, hi⟩
    · have hn' : n < j := Nat.lt_of_succ_le (Nat.le_trans hn.ge (Nat.le_of_not_lt hlt))
      rw [hb.size] at hj
      exact ⟨(n, f), List.mem_append_right _ (List.mem_singleton_self _), j - n,
        Nat.sub_lt_right_of_lt_add (Nat.le_of_lt hn') hj, Nat.ne_of_gt (Nat.sub_pos_of_lt hn'),
        (Nat.sub_add_cancel (Nat.le_of_lt hn')).symm⟩

/-- Converting more files that are unrelated lays them out behind those before. -/
theorem LaidOut.convertFiles {files : List (Nat × Source.File)} {x : Draft}
    {more : List Source.File} {n : Nat} (h : LaidOut settings files x)
    (hn : x.atlas.size = n + 1)
    (hmore : ∀ p ∈ files, ∀ f ∈ more, p.2.Unrelated settings.mode f)
    (hpairwise : more.Pairwise (Source.File.Unrelated settings.mode)) :
    LaidOut settings (files ++ offsets settings n more)
      ((Conv.convertFiles settings more).run x).2 := by
  induction more generalizing files x n with
  | nil => rwa [offsets, List.append_nil]
  | cons f more ih =>
    obtain ⟨hf, hpairwise⟩ := List.pairwise_cons.1 hpairwise
    have hnext := h.convertFile hn fun p hp => hmore p hp f (List.mem_cons_self ..)
    rw [offsets, List.append_cons]
    refine ih hnext ?_ (fun p hp g hg => ?_) hpairwise
    · have hsize := h.size
      rw [hnext.size, sum_width_append]
      omega
    · rcases List.mem_append.1 hp with hp | hp
      · exact hmore p hp g (List.mem_cons_of_mem _ hg)
      · obtain rfl := List.mem_singleton.1 hp
        exact hf g hg

/-- The draft of files that share no symbols. -/
theorem ofFiles_laidOut {files : List Source.File}
    (h : files.Pairwise (Source.File.Unrelated settings.mode)) :
    LaidOut settings (offsets settings 0 files) (ofFiles settings files) :=
  (laidOut_start settings).convertFiles rfl nofun h

end Draft

end ApiAtlas
