import ApiAtlas.Proofs.Source.Standing
import ApiAtlas.Proofs.Source.Stripped

/-!
# Owners

Every declaration that stands in a program has an owner: the declaration around it, known by its
symbol, or the program itself. Declarations of one symbol are one entity when they have the same
owner, are copied from the same member and are of one sort (`SymbolsDistinct`).
-/

set_option autoImplicit false

namespace ApiAtlas.Source

mutual

/-- The declarations that stand below a declaration, each with the symbol of its owner. -/
def Decl.ownedInside : Decl → List (Option String × Decl)
  | ⟨_, _, symbol, children, _, _, _, _, _, _, _, _, _, _, _, _⟩ => ownedBy symbol children

/-- Some declarations of one owner and all that stand below them, each with the symbol of its
owner. -/
def ownedBy (owner : Option String) : List Decl → List (Option String × Decl)
  | [] => []
  | d :: ds => (owner, d) :: (d.ownedInside ++ ownedBy owner ds)

end

/-- The declarations that stand in a program, each with the symbol of its owner; those at the top
have none. -/
def owned (ds : List Decl) : List (Option String × Decl) :=
  ownedBy none ds

/-- Whether a declaration is a class or an interface. -/
def Decl.isClass (d : Decl) : Bool :=
  d.kind = .class || d.kind = .interface

/-- Whether two declarations can be declarations of one entity. -/
structure SameEntity (p q : Option String × Decl) : Prop where
  owner : q.1 = p.1
  origin : q.2.origin = p.2.origin
  isClass : q.2.isClass = p.2.isClass
  opensTop : q.2.kind.opensTop = p.2.kind.opensTop

/-- Distinct entities carry distinct symbols: the declarations of one symbol that stand in a program
are of one entity, and no declaration inside a written type carries their symbol. -/
structure SymbolsDistinct (ds : List Decl) : Prop where
  same : ∀ p ∈ owned ds, ∀ q ∈ owned ds, ∀ s, p.2.symbol = some s → q.2.symbol = some s →
    SameEntity p q
  apart : ∀ d ∈ standing ds, ∀ m ∈ d.written, ∀ e ∈ standing ds, ∀ s, m.symbol = some s →
    e.symbol ≠ some s

variable {ds : List Decl} {owner : Option String} {d : Decl} {p : Option String × Decl}

/-- What stands below a declaration, with owners, is what its children own, where it owns these. -/
theorem Decl.ownedInside_eq (d : Decl) : d.ownedInside = ownedBy d.symbol d.children := by
  cases d
  rw [ownedInside]

/-- Without their owners, these are the declarations that stand there. -/
theorem map_snd_ownedBy (owner : Option String) (ds : List Decl) :
    (ownedBy owner ds).map Prod.snd = standing ds := by
  induction ds using decls_induction generalizing owner with
  | nil => rfl
  | cons d ds ihchildren ih =>
    simp [ownedBy, standing, Decl.inner_eq, Decl.ownedInside_eq, ihchildren, ih]

/-- What is owned in a program stands in it. -/
theorem mem_standing_of_mem_owned (h : p ∈ owned ds) : p.2 ∈ standing ds := by
  rw [← map_snd_ownedBy none ds]
  exact List.mem_map_of_mem h

/-- What stands in a program has an owner, or stands at the top. -/
theorem exists_owner (h : d ∈ standing ds) : ∃ owner, (owner, d) ∈ owned ds := by
  rw [← map_snd_ownedBy none ds] at h
  obtain ⟨⟨owner, _⟩, hp, rfl⟩ := List.mem_map.1 h
  exact ⟨owner, hp⟩

/-- Some declarations of an owner are among what they own. -/
theorem mem_ownedBy (h : d ∈ ds) : (owner, d) ∈ ownedBy owner ds := by
  induction ds with
  | nil => cases h
  | cons e ds ih =>
    rw [ownedBy]
    obtain rfl | h := List.mem_cons.1 h
    · exact List.mem_cons_self
    · exact List.mem_cons_of_mem _ (List.mem_append_right _ (ih h))

/-- The members of a declaration are owned by it. -/
theorem mem_ownedBy_children (h : p ∈ ownedBy owner ds) (hd : d ∈ p.2.children) :
    (p.2.symbol, d) ∈ ownedBy owner ds := by
  induction ds using decls_induction generalizing owner with
  | nil => simp [ownedBy] at h
  | cons e ds ihchildren ih =>
    rw [ownedBy, Decl.ownedInside_eq] at h ⊢
    rcases List.mem_cons.1 h with rfl | h
    · exact List.mem_cons_of_mem _ (List.mem_append_left _ (mem_ownedBy hd))
    · rcases List.mem_append.1 h with h | h
      · exact List.mem_cons_of_mem _ (List.mem_append_left _ (ihchildren h))
      · exact List.mem_cons_of_mem _ (List.mem_append_right _ (ih h))

/-- The declarations at the top have no owner. -/
theorem mem_owned (h : d ∈ ds) : (none, d) ∈ owned ds :=
  mem_ownedBy h

/-- The children of what is owned in a program are owned by it. -/
theorem mem_owned_children (h : p ∈ owned ds) (hd : d ∈ p.2.children) :
    (p.2.symbol, d) ∈ owned ds :=
  mem_ownedBy_children h hd

/-! ## Deciding -/

/-- Two declarations can be of one entity if they agree on owner, origin, being a class, and opening
the top. -/
theorem sameEntity_iff {p q : Option String × Decl} : SameEntity p q ↔
    q.1 = p.1 ∧ q.2.origin = p.2.origin ∧ q.2.isClass = p.2.isClass ∧
      q.2.kind.opensTop = p.2.kind.opensTop :=
  ⟨fun h => ⟨h.owner, h.origin, h.isClass, h.opensTop⟩,
    fun ⟨howner, horigin, hclass, htop⟩ => ⟨howner, horigin, hclass, htop⟩⟩

instance (p q : Option String × Decl) : Decidable (SameEntity p q) :=
  decidable_of_iff _ sameEntity_iff.symm

/-- Symbols are distinct if standing declarations of one symbol are of one entity, and no
declaration inside a written type has a symbol of a standing one. -/
theorem symbolsDistinct_iff : SymbolsDistinct ds ↔
    (∀ p ∈ owned ds, ∀ q ∈ owned ds, p.2.symbol.isSome → p.2.symbol = q.2.symbol →
      SameEntity p q) ∧
    ∀ d ∈ standing ds, ∀ m ∈ d.written, ∀ e ∈ standing ds, m.symbol.isSome →
      e.symbol ≠ m.symbol := by
  constructor
  · rintro ⟨hsame, hapart⟩
    refine ⟨fun p hp q hq hsome heq => ?_, fun d hd m hm e he hsome heq => ?_⟩
    · obtain ⟨s, hs⟩ := Option.isSome_iff_exists.1 hsome
      exact hsame p hp q hq s hs (heq.symm.trans hs)
    · obtain ⟨s, hs⟩ := Option.isSome_iff_exists.1 hsome
      exact hapart d hd m hm e he s hs (heq.trans hs)
  · rintro ⟨hsame, hapart⟩
    refine ⟨fun p hp q hq s hs hs' => ?_, fun d hd m hm e he s hs hs' => ?_⟩
    · exact hsame p hp q hq (hs ▸ rfl) (hs.trans hs'.symm)
    · exact hapart d hd m hm e he (hs ▸ rfl) (hs'.trans hs.symm)

instance (ds : List Decl) : Decidable (SymbolsDistinct ds) :=
  decidable_of_iff _ symbolsDistinct_iff.symm

end ApiAtlas.Source
