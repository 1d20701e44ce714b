import ApiAtlas.Proofs.Atlas.Chains
import ApiAtlas.Proofs.Conversion.Walk
import Mathlib.Data.Set.Function

/-!
# Identities

In every draft that conversion passes, the numbers of the entries are dense, parents are older than
what they hold, and the table of symbols is a bijection onto the declared entries. That is why a
declaration never meets a foreign owner of its symbol, and always stands where something can be
declared.
-/

set_option autoImplicit false

namespace ApiAtlas

namespace Atlas

/-- The entries that were declared, rather than written in place inside a type. -/
def named (a : Atlas) : Set EntryId :=
  {i | ∃ e, a.get? i = some e ∧ e.IsNamed}

/-- What identifies the entries of an atlas. -/
structure HasIdentity (a : Atlas) : Prop where
  /-- The entries are numbered from zero without a gap. -/
  dense : ∀ i, (a.get? i).isSome = true ↔ i < a.size
  /-- The first one is the project. -/
  project : (a.get? root).map (·.kind) = some .project
  /-- Every other one has an older parent. -/
  older : ∀ i < a.size, i ≠ root → ∃ p, a.parent? i = some p ∧ p < i
  /-- So the parents lead to the project. -/
  rooted : ∀ i < a.size, Relation.ReflTransGen a.IsParent root i
  /-- So the search for a full name ends. -/
  fullName : ∀ i < a.size, ∃ name, a.fullName i = .ok name
  /-- No symbol is in the table twice. -/
  keys : a.symbols.keys.Nodup
  /-- The table takes the symbols to the declared entries, one to one and onto. -/
  bijection : Set.BijOn a.symbols.get? {s | s ∈ a.symbols.keys} (some '' a.named)
  /-- It takes the symbol of a declared entry to that entry. -/
  own : ∀ i ∈ a.named, ∃ s, a.symbolOf i = some s ∧ a.symbols.get? s = some i

namespace Identified

variable {a : Atlas}

/-- A registered symbol leads to a named entry, which has it. -/
theorem symbolOf_of_get? (h : a.Identified) {s : String} {i : EntryId}
    (hs : a.symbols.get? s = some i) : i ∈ a.named ∧ a.symbolOf i = some s := by
  obtain ⟨e, he, hn, hsym⟩ := h.registered s i hs
  exact ⟨⟨e, he, hn⟩, (symbolOf_eq he).trans hsym⟩

/-- A named entry has a symbol, which leads to it. -/
theorem get?_of_named (h : a.Identified) {i : EntryId} (hi : i ∈ a.named) :
    ∃ s, a.symbolOf i = some s ∧ a.symbols.get? s = some i := by
  obtain ⟨e, he, hn⟩ := hi
  obtain ⟨s, hs, hreg⟩ := h.named i e he hn
  exact ⟨s, (symbolOf_eq he).trans hs, hreg⟩

/-- The table of symbols pairs the registered symbols with the named entries. -/
theorem bijOn_symbols (h : a.Identified) :
    Set.BijOn a.symbols.get? {s | s ∈ a.symbols.keys} (some '' a.named) := by
  refine ⟨?_, ?_, ?_⟩
  · intro s hs
    obtain ⟨i, hi⟩ := (Table.mem_keys_iff _ _).1 hs
    exact ⟨i, (h.symbolOf_of_get? hi).1, hi.symm⟩
  · intro s hs t _ heq
    obtain ⟨i, hi⟩ := (Table.mem_keys_iff _ _).1 hs
    have ht : a.symbols.get? t = some i := heq ▸ hi
    have hsym := (h.symbolOf_of_get? hi).2
    rw [(h.symbolOf_of_get? ht).2, Option.some.injEq] at hsym
    exact hsym.symm
  · rintro _ ⟨i, hi, rfl⟩
    obtain ⟨s, -, hs⟩ := h.get?_of_named hi
    exact ⟨s, (Table.mem_keys_iff _ _).2 ⟨i, hs⟩, hs⟩

/-- An identified atlas has identity. -/
theorem hasIdentity (h : a.Identified) : a.HasIdentity where
  dense _ := get?_isSome_iff
  project := by
    obtain ⟨e, m, he, -, hk, -⟩ := h.project
    simp [he, hk]
  older _ hi hne := h.exists_parent hi hne
  rooted _ hi := h.rooted hi
  fullName _ hi := h.fullName_ok hi
  keys := h.keys
  bijection := h.bijOn_symbols
  own _ hi := h.get?_of_named hi

end Identified

/-- An atlas that only has the project is identified. -/
theorem identified_create (name : String) : (create name).Identified := by
  have hget : ∀ i e, (create name).get? i = some e → i = root := by
    intro i e he
    exact Nat.lt_one_iff.1 (get?_lt he)
  constructor
  case project => exact ⟨_, {}, rfl, rfl, rfl, rfl⟩
  case older => exact fun i e he hi => absurd (hget i e he) hi
  case named =>
    intro i e he hn
    obtain rfl := hget i e he
    obtain rfl : _ = e := Option.some.inj he
    exact absurd hn.1 Bool.false_ne_true
  case registered => exact nofun
  case children =>
    intro p c hc
    by_cases hp : p = root
    · subst hp
      simp [childrenOf, create, get?, root, Entry.members?] at hc
    · rw [childrenOf, get?_eq_none (Nat.one_le_iff_ne_zero.2 hp)] at hc
      cases hc
  case keys => exact List.nodup_nil

end Atlas

/-- The draft that conversion starts from is identified. -/
theorem Draft.start_identified (settings : Settings) : (start settings).atlas.Identified :=
  Atlas.identified_create settings.name

/-- Only routine reports are ever added. -/
theorem Edit.routine {i : EntryId} {x y : Draft} (h : Edit i x y)
    (hx : ∀ g ∈ x.diagnostics, g.IsRoutine) : ∀ g ∈ y.diagnostics, g.IsRoutine := by
  cases h with
  | report g hg =>
    intro g' hg'
    rcases Array.mem_push.1 hg' with h | rfl
    · exact hx g' h
    · exact hg
  | add | enter | change | files => exact hx

/-- Every draft that conversion passes is identified. What holds of the draft that conversion starts
with and is kept by every edit holds of all these drafts. -/
theorem states_always {settings : Settings} {files : List Source.File} {I : Draft → Prop}
    (hstart : I (Draft.start settings))
    (hstep : ∀ i x y, Edit i x y → x.atlas.Identified → I x → I y) :
    ∀ y ∈ Draft.states settings files, y.atlas.Identified ∧ I y := by
  have hruns : (Conv.convertFiles settings files).Runs (Draft.start settings) (fun _ => True)
      fun _ _ => True := Conv.convertFiles_runs (Draft.start_identified settings)
  refine hruns.always (Draft.start_identified settings) hstart ?_
  intro i x y _ hx hI he
  exact hstep i x y he hx hI

/-- Every draft that conversion passes is identified, and only routine problems are reported. -/
theorem states_identified {settings : Settings} {files : List Source.File} :
    ∀ y ∈ Draft.states settings files,
      y.atlas.Identified ∧ ∀ g ∈ y.diagnostics, g.IsRoutine := by
  have hstart : ∀ g ∈ (Draft.start settings).diagnostics, g.IsRoutine := by simp [Draft.start]
  refine states_always hstart ?_
  intro i x y he _ hroutine
  exact he.routine hroutine

/-- The draft that conversion ends with is one that it passes. -/
theorem ofFiles_mem_states (settings : Settings) (files : List Source.File) :
    Draft.ofFiles settings files ∈ Draft.states settings files :=
  Conv.run_mem_passed _ _

/-- In every draft that conversion passes the entries have their identities, and neither a foreign
owner of a symbol nor a wrong place of a declaration has been reported. -/
theorem states_haveIdentity (settings : Settings) (files : List Source.File) (y : Draft)
    (hy : y ∈ Draft.states settings files) :
    y.atlas.HasIdentity ∧ ∀ g ∈ y.diagnostics, ¬ g.BlamesOwner ∧ ¬ g.BlamesPlace := by
  obtain ⟨hid, hroutine⟩ := states_identified y hy
  exact ⟨hid.hasIdentity, fun g hg => ⟨(hroutine g hg).owner, (hroutine g hg).place⟩⟩

/-- The identities at the end of a file in which a namespace holds a second declaration of its own
symbol, as an interface. -/
theorem nested_redeclaration_haveIdentity :
    let file : Source.File :=
      { name := "a.ts",
        decls := [{ kind := .namespace, name := some "A", symbol := some "A",
                    children := [{ kind := .interface, name := some "A", symbol := some "A" }] }] }
    (Draft.ofFiles {} [file]).atlas.HasIdentity ∧
      ∀ g ∈ (Draft.ofFiles {} [file]).diagnostics, ¬ g.BlamesOwner ∧ ¬ g.BlamesPlace :=
  states_haveIdentity {} _ _ (ofFiles_mem_states _ _)

end ApiAtlas
