import ApiAtlas.Atlas.Children
import Mathlib.Data.List.Induction
import Mathlib.Tactic.Common

/-!
# Looking into a changed atlas

What each operation on an atlas does to its entries, to the number of them, and to the table of
symbols. Everything later rests on these equations; no proof unfolds an operation again.
-/

set_option autoImplicit false

namespace ApiAtlas

/-- Without repetitions, no element is left twice. -/
theorem List.nodup_eraseDups {α : Type} [BEq α] [LawfulBEq α] (l : List α) :
    l.eraseDups.Nodup := by
  induction l using List.reverseRecOn with
  | nil => exact List.nodup_nil
  | append_singleton l x ih =>
    rw [List.eraseDups_append]
    by_cases hx : x ∈ l
    · simpa [List.removeAll, hx] using ih
    · refine List.nodup_append.2 ⟨ih, by simp [List.removeAll, hx, List.eraseDups_cons], ?_⟩
      simp only [List.removeAll, List.mem_eraseDups]
      rintro a ha b hb rfl
      simp at hb
      exact hx (hb.1 ▸ ha)

namespace Table

variable {κ ν : Type} [DecidableEq κ]

/-- A key is among the placed rows if it is the new one or was there. -/
theorem mem_map_fst_place {k k' : κ} (v : ν) (rows : List (κ × ν)) :
    k' ∈ (place k v rows).map Prod.fst ↔ k' = k ∨ k' ∈ rows.map Prod.fst := by
  induction rows with
  | nil => simp [place]
  | cons row rows ih =>
    obtain ⟨k₁, v₁⟩ := row
    by_cases h : k₁ = k
    · subst h
      simp [place]
    · simp only [place, h, if_false, List.map_cons, List.mem_cons, ih]
      tauto

/-- Placing a row keeps the keys distinct. -/
theorem nodup_map_fst_place (k : κ) (v : ν) (rows : List (κ × ν))
    (h : (rows.map Prod.fst).Nodup) : ((place k v rows).map Prod.fst).Nodup := by
  induction rows with
  | nil => simp [place]
  | cons row rows ih =>
    obtain ⟨k₁, v₁⟩ := row
    rw [List.map_cons, List.nodup_cons] at h
    by_cases hk : k₁ = k
    · simpa [place, hk] using h
    · simp only [place, hk, if_false, List.map_cons, List.nodup_cons]
      refine ⟨?_, ih h.2⟩
      rw [mem_map_fst_place]
      rintro (rfl | hmem)
      · exact hk rfl
      · exact h.1 hmem

/-- A key is looked up successfully exactly if some row has it. -/
theorem isSome_lookup_iff (k : κ) (rows : List (κ × ν)) :
    (lookup k rows).isSome ↔ k ∈ rows.map Prod.fst := by
  induction rows with
  | nil => simp [lookup]
  | cons row rows ih =>
    obtain ⟨k₁, v₁⟩ := row
    by_cases h : k₁ = k
    · simp [lookup, h]
    · simp only [lookup, h, if_false, ih, List.map_cons, List.mem_cons]
      constructor
      · exact Or.inr
      · rintro (rfl | hmem)
        · exact absurd rfl h
        · exact hmem

/-- Putting a value never doubles a key. -/
theorem nodup_keys_put (t : Table κ ν) (k : κ) (v : ν) (h : t.keys.Nodup) :
    (t.put k v).keys.Nodup :=
  nodup_map_fst_place k v t.rows h

/-- The keys are what has a value. -/
theorem mem_keys_iff (t : Table κ ν) (k : κ) : k ∈ t.keys ↔ ∃ v, t.get? k = some v := by
  rw [← Option.isSome_iff_exists]
  exact (isSome_lookup_iff k t.rows).symm

end Table

namespace Entry

/-- The symbol of an entry that is a declaration with one. -/
def symbol? (e : Entry) : Option String :=
  e.details?.bind (·.symbol)

/-- Whether an entry was declared, rather than written in place inside a type. -/
def IsNamed (e : Entry) : Prop :=
  e.isDeclaration = true ∧ e.kind ≠ .typeLiteral

/-- A change of the members of an entry changes them, if it has any. -/
theorem members?_mapMembers (f : Members → Members) (e : Entry) :
    (e.mapMembers f).members? = e.members?.map f := by
  obtain ⟨name, kind, flags, comment, parent, body⟩ := e
  cases body <;> rfl

end Entry

namespace Atlas

variable {a : Atlas} {i j : EntryId} {e : Entry}

/-- The symbol of the declaration with a number. -/
def symbolOf (a : Atlas) (id : EntryId) : Option String :=
  (a.get? id).bind Entry.symbol?

/-- An entry that is there has a number below the size. -/
theorem get?_lt (h : a.get? i = some e) : i < a.size :=
  (Array.getElem?_eq_some_iff.1 h).1

/-- There is an entry for each number below the size. -/
theorem exists_get? (h : i < a.size) : ∃ e, a.get? i = some e :=
  ⟨a.entries[i], Array.getElem?_eq_getElem h⟩

/-- There is no entry for a number beyond the size. -/
theorem get?_eq_none (h : a.size ≤ i) : a.get? i = none :=
  Array.getElem?_eq_none h

/-- Entries are there exactly for the numbers below the size. -/
theorem get?_isSome_iff : (a.get? i).isSome ↔ i < a.size := by
  unfold get? size
  simp

/-- What has details is a declaration. -/
theorem isDeclaration_of_details? {d : Details} (h : a.details? i = some d) :
    a.isDeclaration i = true := by
  rw [isDeclaration, h, Option.isSome_some]

/-- A declaration has a number below the size. -/
theorem lt_of_isDeclaration (h : a.isDeclaration i = true) : i < a.size := by
  obtain ⟨d, hd⟩ := Option.isSome_iff_exists.1 h
  obtain ⟨e, he, -⟩ := Option.bind_eq_some_iff.1 hd
  exact get?_lt he

/-- There is a declaration at a number if the entry there is one. -/
theorem isDeclaration_eq (h : a.get? i = some e) : a.isDeclaration i = e.isDeclaration := by
  rw [isDeclaration, details?, h, Option.bind_some, Entry.isDeclaration]

/-- What is read at a number is a declaration if there is one. -/
theorem isDeclaration_getD (a : Atlas) (i : EntryId) :
    ((a.get? i).getD default).isDeclaration = a.isDeclaration i := by
  cases he : a.get? i with
  | none =>
    rw [isDeclaration, details?, he]
    rfl
  | some e => rw [isDeclaration_eq he, Option.getD_some]

/-- The symbol at a number is that of the entry there. -/
theorem symbolOf_eq (h : a.get? i = some e) : a.symbolOf i = e.symbol? := by
  simp [symbolOf, h]

/-- The parent at a number is that of the entry there. -/
theorem parent?_eq (h : a.get? i = some e) : a.parent? i = e.parent := by
  simp [parent?, h]

/-- The name at a number is that of the entry there. -/
theorem nameOf_eq (h : a.get? i = some e) : a.nameOf i = e.name := by
  simp [nameOf, h]

/-- What has a parent has a number below the size. -/
theorem parent?_lt {p : EntryId} (h : a.parent? i = some p) : i < a.size := by
  by_contra hi
  simp [parent?, get?_eq_none (Nat.le_of_not_lt hi)] at h

/-! ## Adding -/

/-- A new entry adds one to the size. -/
@[simp]
theorem size_add (a : Atlas) (e : Entry) : (a.add e).1.size = a.size + 1 := by
  simp [add, size]

/-- A new entry gets the size as its number. -/
@[simp]
theorem add_snd (a : Atlas) (e : Entry) : (a.add e).2 = a.size := rfl

/-- A new entry leaves the symbols. -/
@[simp]
theorem symbols_add (a : Atlas) (e : Entry) : (a.add e).1.symbols = a.symbols := rfl

/-- The new entry is found at its number, and all others where they were. -/
theorem get?_add (a : Atlas) (e : Entry) (i : EntryId) :
    (a.add e).1.get? i = if i = a.size then some e else a.get? i :=
  Array.getElem?_push

/-- The new entry is found at its number. -/
@[simp]
theorem get?_add_self (a : Atlas) (e : Entry) : (a.add e).1.get? a.size = some e := by
  simp [get?_add]

/-- The entries that were there are found where they were. -/
theorem get?_add_of_lt (e : Entry) (h : i < a.size) : (a.add e).1.get? i = a.get? i := by
  rw [get?_add, if_neg (Nat.ne_of_lt h)]

/-! ## Changing one entry -/

/-- Changing an entry leaves the size. -/
@[simp]
theorem size_modify (a : Atlas) (i : EntryId) (f : Entry → Entry) :
    (a.modify i f).size = a.size := by
  simp [modify, size]

/-- Changing an entry leaves the symbols. -/
@[simp]
theorem symbols_modify (a : Atlas) (i : EntryId) (f : Entry → Entry) :
    (a.modify i f).symbols = a.symbols := rfl

/-- The changed entry is found changed, and all others as they were. -/
theorem get?_modify (a : Atlas) (i j : EntryId) (f : Entry → Entry) :
    (a.modify i f).get? j = if i = j then (a.get? j).map f else a.get? j :=
  Array.getElem?_modify

/-- The changed entry is found changed. -/
theorem get?_modify_self (f : Entry → Entry) (h : a.get? i = some e) :
    (a.modify i f).get? i = some (f e) := by
  simp [get?_modify, h]

/-- Entries with other numbers are found as they were. -/
theorem get?_modify_of_ne (f : Entry → Entry) (h : j ≠ i) :
    (a.modify i f).get? j = a.get? j := by
  rw [get?_modify, if_neg h.symm]

/-- What a change of one entry does not touch is found as before. -/
theorem bind_get?_modify {β : Type} {f : Entry → Entry} {g : Entry → Option β}
    (hg : ∀ e, a.get? i = some e → g (f e) = g e) (j : EntryId) :
    ((a.modify i f).get? j).bind g = (a.get? j).bind g := by
  rw [get?_modify]
  split
  · next hij =>
    subst hij
    cases he : a.get? i with
    | none => rfl
    | some e => exact hg e he
  · rfl

/-! ## Symbols -/

/-- Registering a symbol leaves the entries. -/
@[simp]
theorem get?_register (a : Atlas) (s : Option String) (i j : EntryId) :
    (a.register s i).get? j = a.get? j := by
  cases s <;> rfl

/-- Registering a symbol leaves the size. -/
@[simp]
theorem size_register (a : Atlas) (s : Option String) (i : EntryId) :
    (a.register s i).size = a.size := by
  cases s <;> rfl

/-- What a symbol leads to is what it is registered for. -/
theorem lookup_eq_some_iff {symbol : Option String} :
    a.lookup symbol = some i ↔ ∃ s, symbol = some s ∧ a.symbols.get? s = some i := by
  cases symbol <;> simp [lookup]

/-! ## Entering a declaration -/

variable {scope : EntryId} {symbol : Option String}

/-- Attaching a child leaves the size. -/
@[simp]
theorem size_attach (a : Atlas) (p c : EntryId) (name : String) :
    (a.attach p c name).size = a.size := by
  unfold attach
  split <;> simp

/-- Attaching a child leaves the symbols. -/
@[simp]
theorem symbols_attach (a : Atlas) (p c : EntryId) (name : String) :
    (a.attach p c name).symbols = a.symbols := by
  unfold attach
  split <;> simp

/-- Entering an entry adds one to the size. -/
@[simp]
theorem size_enter (a : Atlas) (scope : EntryId) (e : Entry) (symbol : Option String) :
    (a.enter scope e symbol).1.size = a.size + 1 := by
  simp [enter]

/-- Entering an entry registers its symbol for it. -/
theorem symbols_enter (a : Atlas) (scope : EntryId) (e : Entry) (s : String) :
    (a.enter scope e (some s)).1.symbols = a.symbols.put s a.size := by
  simp [enter, register]

/-- The children at a number are those of the entry there. -/
theorem childrenOf_eq (h : a.get? i = some e) :
    a.childrenOf i = (e.members?.map (·.ids)).getD [] := by
  rw [childrenOf, h, Option.bind_some]

/-- A new entry leaves the children of those that were there. -/
theorem childrenOf_add_of_lt (e : Entry) (h : i < a.size) :
    (a.add e).1.childrenOf i = a.childrenOf i := by
  simp [childrenOf, get?_add_of_lt e h]

/-- A new entry without members leaves all lists of children. -/
theorem childrenOf_add (hm : ∀ m, e.members? = some m → m = {}) (p : EntryId) :
    (a.add e).1.childrenOf p = a.childrenOf p := by
  by_cases hp : p = a.size
  · subst hp
    rw [childrenOf_eq (get?_add_self a e), childrenOf, get?_eq_none (Nat.le_refl _)]
    cases hmem : e.members? with
    | none => rfl
    | some m =>
      rw [hm m hmem]
      rfl
  · rw [childrenOf, get?_add, if_neg hp, childrenOf]

/-- A change that leaves the members of an entry leaves all lists of children. -/
theorem childrenOf_modify {f : Entry → Entry}
    (hf : ∀ e, a.get? i = some e → (f e).members? = e.members?) (p : EntryId) :
    (a.modify i f).childrenOf p = a.childrenOf p := by
  rw [childrenOf, bind_get?_modify hf, childrenOf]

/-- A new entry is in no list of children yet, so that attaching it records it. -/
theorem get?_enter (e : Entry) (symbol : Option String) (hs : scope < a.size)
    (h : a.size ∉ a.childrenOf scope) (i : EntryId) :
    (a.enter scope e symbol).1.get? i =
      if i = a.size then some { e with parent := some scope }
      else if i = scope then (a.get? i).map (·.mapMembers fun m => m.insert e.name a.size)
      else a.get? i := by
  have hc : ((a.add e).1.childrenOf scope).contains a.size = false := by
    rw [childrenOf_add_of_lt e hs]
    simpa using h
  change (((a.add e).1.attach scope a.size e.name).register symbol a.size).get? i = _
  rw [get?_register, attach, if_neg (by rw [hc]; exact Bool.false_ne_true), get?_modify,
    get?_modify, get?_add]
  by_cases hi : i = a.size
  · subst hi
    simp [Nat.ne_of_lt hs]
  · by_cases his : i = scope
    · subst his
      simp [hi, Ne.symm hi]
    · simp [hi, Ne.symm hi, his, Ne.symm his]

/-- A declaration that is entered has no children yet, and its scope gets it under its name. -/
theorem members?_enter {d : Details} (symbol : Option String) (hb : e.body = .declaration {} d)
    (hs : scope < a.size) (h : a.size ∉ a.childrenOf scope) (p : EntryId) :
    ((a.enter scope e symbol).1.get? p).bind (·.members?) =
      if p = a.size then some {}
      else if p = scope then
        ((a.get? p).bind (·.members?)).map fun m => m.insert e.name a.size
      else (a.get? p).bind (·.members?) := by
  rw [get?_enter e symbol hs h]
  split
  · rw [Option.bind_some, Entry.members?, hb]
  · split
    · rw [Option.bind_map, Option.map_bind]
      exact congrArg _ (funext fun e₀ => e₀.members?_mapMembers _)
    · rfl

/-- Among the children of any entry, only the entered declaration is new. -/
theorem mem_childrenOf_enter {d : Details} (hb : e.body = .declaration {} d)
    (hs : scope < a.size) (h : a.size ∉ a.childrenOf scope) {p c : EntryId}
    (hc : c ∈ (a.enter scope e symbol).1.childrenOf p) : c ∈ a.childrenOf p ∨ c = a.size := by
  rw [childrenOf, members?_enter symbol hb hs h] at hc
  split at hc
  · cases hc
  · split at hc
    · rw [childrenOf]
      cases hm : (a.get? p).bind (·.members?) with
      | none => simp [hm] at hc
      | some m => simpa [hm, Members.insert] using hc
    · exact .inl hc

end Atlas

end ApiAtlas
