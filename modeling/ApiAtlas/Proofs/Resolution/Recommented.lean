import ApiAtlas.Proofs.Atlas.Lookup
import ApiAtlas.Resolution.Comments

/-!
# Other comments

Inheriting documentation leaves all of an atlas as it is but the comments. What is looked up by
name, and where a declaration takes its documentation from as long as its own comment is the same,
does not depend on comments.
-/

set_option autoImplicit false

namespace ApiAtlas

/-- When a sequence of two computations succeeds, so does the first one. -/
theorem Except.exists_of_bind_eq_ok {α β ε : Type} {x : Except ε α} {f : α → Except ε β} {r : β}
    (h : x >>= f = .ok r) : ∃ v, x = .ok v ∧ f v = .ok r := by
  cases x with
  | error e => cases h
  | ok v => exact ⟨v, rfl, h⟩

namespace Atlas

/-- The same atlas, save for the comments. -/
structure Recommented (a b : Atlas) : Prop where
  symbols : b.symbols = a.symbols
  files : b.files = a.files
  resolved : b.resolved = a.resolved
  entries : ∀ i, ∃ c, b.get? i = (a.get? i).map fun e => { e with comment := c }

/-- Atlases with the same entries and tables are the same. -/
theorem ext_get? {a b : Atlas} (hget : ∀ i, b.get? i = a.get? i) (hsymbols : b.symbols = a.symbols)
    (hfiles : b.files = a.files) (hresolved : b.resolved = a.resolved) : b = a := by
  obtain ⟨entries, symbols, files, resolved⟩ := a
  obtain ⟨entries', symbols', files', resolved'⟩ := b
  obtain rfl : symbols' = symbols := hsymbols
  obtain rfl : files' = files := hfiles
  obtain rfl : resolved' = resolved := hresolved
  have hentries : entries' = entries := Array.ext_getElem? hget
  rw [hentries]

namespace Recommented

variable {a b c : Atlas} {i : EntryId}

/-- An atlas is the same as itself, save for the comments. -/
theorem refl (a : Atlas) : a.Recommented a := by
  refine ⟨rfl, rfl, rfl, fun i => ?_⟩
  cases h : a.get? i with
  | none => exact ⟨none, rfl⟩
  | some e => exact ⟨e.comment, rfl⟩

/-- Atlases that are the same as a third one save for the comments are so among each other. -/
theorem trans (h : a.Recommented b) (h' : b.Recommented c) : a.Recommented c := by
  refine ⟨h'.symbols.trans h.symbols, h'.files.trans h.files, h'.resolved.trans h.resolved,
    fun i => ?_⟩
  obtain ⟨p, hp⟩ := h.entries i
  obtain ⟨q, hq⟩ := h'.entries i
  refine ⟨q, ?_⟩
  rw [hq, hp, Option.map_map]
  rfl

/-- If an atlas is the same as another one save for the comments, so is the other one. -/
theorem symm (h : a.Recommented b) : b.Recommented a := by
  refine ⟨h.symbols.symm, h.files.symm, h.resolved.symm, fun i => ?_⟩
  obtain ⟨p, hp⟩ := h.entries i
  rw [hp]
  cases he : a.get? i with
  | none => exact ⟨none, rfl⟩
  | some e => exact ⟨e.comment, rfl⟩

/-- What is read off an entry without its comment is the same when comments change. -/
theorem bind_eq {β : Type} (h : a.Recommented b) (f : Entry → Option β)
    (hf : ∀ e p, f { e with comment := p } = f e) : (b.get? i).bind f = (a.get? i).bind f := by
  obtain ⟨p, hp⟩ := h.entries i
  rw [hp]
  cases a.get? i with
  | none => rfl
  | some e => exact hf e p

/-- The number of entries is the same when comments change. -/
theorem size_eq (h : a.Recommented b) : b.size = a.size := by
  have hlt : ∀ i, i < b.size ↔ i < a.size := by
    intro i
    obtain ⟨p, hp⟩ := h.entries i
    rw [← get?_isSome_iff, ← get?_isSome_iff, hp, Option.isSome_map]
  exact Nat.le_antisymm (Nat.le_of_not_lt fun hh => Nat.lt_irrefl _ ((hlt _).1 hh))
    (Nat.le_of_not_lt fun hh => Nat.lt_irrefl _ ((hlt _).2 hh))

/-- With the same comment, an entry is the same. -/
theorem get?_eq (h : a.Recommented b) (hc : b.commentOf i = a.commentOf i) :
    b.get? i = a.get? i := by
  obtain ⟨p, hp⟩ := h.entries i
  rw [commentOf, commentOf, hp] at hc
  rw [hp]
  cases he : a.get? i with
  | none => rfl
  | some e =>
    rw [he] at hc
    obtain rfl : p = e.comment := hc
    rfl

/-- Details are the same when comments change. -/
theorem details?_eq (h : a.Recommented b) : b.details? i = a.details? i :=
  h.bind_eq _ fun _ _ => rfl

/-- Parents are the same when comments change. -/
theorem parent?_eq (h : a.Recommented b) : b.parent? i = a.parent? i :=
  h.bind_eq _ fun _ _ => rfl

/-- What is a declaration is one when comments change. -/
theorem isDeclaration_eq (h : a.Recommented b) : b.isDeclaration i = a.isDeclaration i := by
  rw [isDeclaration, h.details?_eq, isDeclaration]

/-! ## Looking up names -/

/-- Children are found under the same names when comments change. -/
theorem child?_eq (h : a.Recommented b) (names : List String) (i : EntryId) :
    b.child? i names = a.child? i names := by
  have hmembers : ∀ i, (b.get? i).bind (·.members?) = (a.get? i).bind (·.members?) :=
    fun i => h.bind_eq _ fun _ _ => rfl
  induction names generalizing i with
  | nil => rfl
  | cons name names ih => simp only [child?, hmembers, ih]

/-- The search through what an entry stands in finds the same when comments change. -/
theorem searchOutward_eq (h : a.Recommented b) (names : List String) (steps : Nat)
    (i : Option EntryId) : b.searchOutward names steps i = a.searchOutward names steps i := by
  have hmembers : ∀ i, (b.get? i).bind (·.members?) = (a.get? i).bind (·.members?) :=
    fun i => h.bind_eq _ fun _ _ => rfl
  induction steps generalizing i with
  | zero => rfl
  | succ steps ih =>
    cases i with
    | none => rfl
    | some i => simp only [searchOutward, hmembers, h.child?_eq, h.parent?_eq, ih]

/-- The first base is the same when comments change. -/
theorem firstBase?_eq (h : a.Recommented b) (d : Details) : b.firstBase? d = a.firstBase? d := by
  simp only [firstBase?, h.isDeclaration_eq]

/-- The search through first bases finds the same when comments change. -/
theorem searchBases_eq (h : a.Recommented b) (names : List String) (steps : Nat) (i : EntryId) :
    b.searchBases names steps i = a.searchBases names steps i := by
  induction steps generalizing i with
  | zero => rfl
  | succ steps ih =>
    simp only [searchBases, h.details?_eq, h.size_eq, h.searchOutward_eq, h.child?_eq,
      h.firstBase?_eq, h.parent?_eq, ih]

/-- A named source is the same when comments change. -/
theorem namedSource_eq (h : a.Recommented b) (i : EntryId) (text : String) :
    b.namedSource i text = a.namedSource i text := by
  have hdecl : b.isDeclaration = a.isDeclaration := funext fun _ => h.isDeclaration_eq
  simp only [namedSource, search, find?, h.parent?_eq, hdecl, h.searchBases_eq, h.searchOutward_eq,
    h.child?_eq, h.size_eq]

/-- A linked source is the same when comments change. -/
theorem linkedSource?_eq (h : a.Recommented b) (l : Links) :
    b.linkedSource? l = a.linkedSource? l := by
  have hdecl : b.isDeclaration = a.isDeclaration := funext fun _ => h.isDeclaration_eq
  simp only [linkedSource?, hdecl]

/-- The source of a declaration only depends on its own comment. -/
theorem commentSource_eq (h : a.Recommented b) (links : Array Links)
    (hc : b.commentOf i = a.commentOf i) : b.commentSource links i = a.commentSource links i := by
  simp only [commentSource, hc, h.namedSource_eq, h.linkedSource?_eq]

end Recommented

end Atlas

end ApiAtlas
