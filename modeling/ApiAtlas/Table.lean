/-!
# Tables

A finite map that remembers in which order its keys were first given. Putting a value under a key
that is there keeps the key's place. The lemmas say what each operation does to look-ups and to
the list of keys.
-/

set_option autoImplicit false

namespace ApiAtlas

/-- A finite map with its keys in the order in which they were first put. -/
structure Table (κ ν : Type) where
  rows : List (κ × ν)
  deriving Repr, Inhabited

namespace Table

variable {κ ν : Type} [DecidableEq κ]

/-- The table without keys. -/
def empty : Table κ ν := ⟨[]⟩

/-- The value under a key in some rows. -/
def lookup (k : κ) : List (κ × ν) → Option ν
  | [] => none
  | (k', v) :: rows => if k' = k then some v else lookup k rows

/-- The rows with a value put under a key. -/
def place (k : κ) (v : ν) : List (κ × ν) → List (κ × ν)
  | [] => [(k, v)]
  | (k', v') :: rows => if k' = k then (k', v) :: rows else (k', v') :: place k v rows

/-- The value under a key. -/
def get? (t : Table κ ν) (k : κ) : Option ν :=
  lookup k t.rows

/-- The table with a value put under a key. -/
def put (t : Table κ ν) (k : κ) (v : ν) : Table κ ν :=
  ⟨place k v t.rows⟩

/-- The keys in order. -/
def keys (t : Table κ ν) : List κ :=
  t.rows.map Prod.fst

/-- A row that has been placed is found. -/
theorem lookup_place_self (k : κ) (v : ν) (rows : List (κ × ν)) :
    lookup k (place k v rows) = some v := by
  induction rows with
  | nil => simp [place, lookup]
  | cons row rows ih =>
    obtain ⟨k', v'⟩ := row
    by_cases h : k' = k <;> simp [place, lookup, h, ih]

/-- Placing a row leaves what is found under other keys. -/
theorem lookup_place_of_ne {k k' : κ} (v : ν) (rows : List (κ × ν)) (h : k' ≠ k) :
    lookup k' (place k v rows) = lookup k' rows := by
  induction rows with
  | nil => simp [place, lookup, h.symm]
  | cons row rows ih =>
    obtain ⟨k₁, v₁⟩ := row
    by_cases hk : k₁ = k
    · simp [place, lookup, hk, h.symm]
    · by_cases hk' : k₁ = k'
      · subst hk'
        simp [place, lookup, hk]
      · simp [place, lookup, hk, hk', ih]

/-- What has been put into a table is found. -/
@[simp]
theorem get?_put_self (t : Table κ ν) (k : κ) (v : ν) : (t.put k v).get? k = some v :=
  lookup_place_self k v t.rows

/-- Putting something into a table leaves what is found under other keys. -/
theorem get?_put_of_ne {k k' : κ} (t : Table κ ν) (v : ν) (h : k' ≠ k) :
    (t.put k v).get? k' = t.get? k' :=
  lookup_place_of_ne v t.rows h

end Table

end ApiAtlas
