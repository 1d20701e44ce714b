import ApiAtlas.Proofs.Source.Nesting
import ApiAtlas.Source.Inheritance

/-!
# Where declarations stand

The declarations that stand in a program are those at the top, their children, the children of
these, and so on; what is written inside types is not among them. `standing` lists them in order,
and `placed` does so together with their addresses.
-/

set_option autoImplicit false

namespace ApiAtlas.Source

/-- What holds of no declarations, and of some when it holds of the children of the first and of
the others, holds of all lists of declarations. -/
@[elab_as_elim]
theorem decls_induction {P : List Decl → Prop} (nil : P [])
    (cons : ∀ d ds, P d.children → P ds → P (d :: ds)) (ds : List Decl) : P ds := by
  have hlist : ∀ ds : List Decl, (∀ d ∈ ds, P d.children) → P ds := by
    intro ds h
    induction ds with
    | nil => exact nil
    | cons d ds ih =>
      exact cons d ds (h d List.mem_cons_self) (ih fun e he => h e (List.mem_cons_of_mem d he))
  have hsteps : Steps (fun _ => True) (fun _ => True) fun d => P d.children := by
    constructor
    case type => exact fun _ _ _ _ => trivial
    case signature => exact fun _ _ => trivial
    case decl => exact fun d hchildren _ _ _ _ _ => hlist d.children hchildren
  exact hlist ds fun d _ => hsteps.of_decl d

mutual

/-- The declarations that stand below a declaration. -/
def Decl.inner : Decl → List Decl
  | ⟨_, _, _, children, _, _, _, _, _, _, _, _, _, _, _, _⟩ => standing children

/-- Some declarations and all that stand below them, in order. -/
def standing : List Decl → List Decl
  | [] => []
  | d :: ds => d :: (d.inner ++ standing ds)

end

mutual

/-- The declarations that stand below a declaration, with their addresses below it. -/
def Decl.placedInside : Decl → List (Address × Decl)
  | ⟨_, _, _, children, _, _, _, _, _, _, _, _, _, _, _, _⟩ => placedFrom 0 children

/-- Some declarations and all that stand below them, with their addresses; `i` is the position of
the first. -/
def placedFrom (i : Nat) : List Decl → List (Address × Decl)
  | [] => []
  | d :: ds => ([i], d) :: (d.placedInside.map fun c => (i :: c.1, c.2)) ++ placedFrom (i + 1) ds

end

/-- The declarations that stand in a program, with their addresses, in order. -/
def placed (ds : List Decl) : List (Address × Decl) :=
  placedFrom 0 ds

/-- What stands below a declaration is what stands among its children. -/
theorem Decl.inner_eq (d : Decl) : d.inner = standing d.children := by
  cases d
  rw [inner]

/-- The places below a declaration are those among its children. -/
theorem Decl.placedInside_eq (d : Decl) : d.placedInside = placed d.children := by
  cases d
  rw [placedInside, placed]

/-- A first declaration is at its position, what stands below it is at the addresses there, and the
others are at the positions that follow. -/
theorem placedFrom_cons (i : Nat) (d : Decl) (ds : List Decl) :
    placedFrom i (d :: ds) =
      ([i], d) :: ((placed d.children).map fun c => (i :: c.1, c.2)) ++ placedFrom (i + 1) ds := by
  rw [placedFrom, Decl.placedInside_eq]

/-- What stands among some declarations is one of them or stands among the children of one. -/
theorem mem_standing {m : Decl} {ds : List Decl} :
    m ∈ standing ds ↔ ∃ d ∈ ds, m = d ∨ m ∈ standing d.children := by
  induction ds with
  | nil => simp [standing]
  | cons d ds ih => simp [standing, ih, or_assoc, Decl.inner_eq]

/-- Some declarations stand among themselves. -/
theorem subset_standing (ds : List Decl) : ds ⊆ standing ds :=
  fun d hd => mem_standing.2 ⟨d, hd, Or.inl rfl⟩

/-- What stands below something that stands in a program stands there itself. -/
theorem standing_children_subset {d : Decl} {ds : List Decl} (h : d ∈ standing ds) :
    standing d.children ⊆ standing ds := by
  induction ds using decls_induction with
  | nil => simp [standing] at h
  | cons e ds ihchildren ih =>
    intro m hm
    obtain ⟨f, hf, hd⟩ := mem_standing.1 h
    obtain rfl | hf := List.mem_cons.1 hf
    · refine mem_standing.2 ⟨f, List.mem_cons_self, Or.inr ?_⟩
      obtain rfl | hd := hd
      · exact hm
      · exact ihchildren hd hm
    · obtain ⟨g, hg, hm⟩ := mem_standing.1 (ih (mem_standing.2 ⟨f, hf, hd⟩) hm)
      exact mem_standing.2 ⟨g, List.mem_cons_of_mem e hg, hm⟩

/-- Placed declarations are those that stand there, in order. -/
theorem map_snd_placedFrom (i : Nat) (ds : List Decl) :
    (placedFrom i ds).map Prod.snd = standing ds := by
  induction ds using decls_induction generalizing i with
  | nil => rfl
  | cons d ds ihchildren ih =>
    simp [placedFrom_cons, standing, Decl.inner_eq, ih, ← ihchildren 0, placed, Function.comp_def]

/-- Declarations of a second list are placed behind those of the first one. -/
theorem placedFrom_append (i : Nat) (ds es : List Decl) :
    placedFrom i (ds ++ es) = placedFrom i ds ++ placedFrom (i + ds.length) es := by
  induction ds generalizing i with
  | nil => rfl
  | cons d ds ih =>
    simp [placedFrom_cons, ih, Nat.add_comm 1, Nat.add_assoc]

/-- The position of the first declaration is where addresses start. -/
theorem declAt?_of_mem_placedFrom {i : Nat} {ds : List Decl} {c : Address × Decl}
    (h : c ∈ placedFrom i ds) :
    ∃ j q, c.1 = (i + j) :: q ∧ declAt? (j :: q) ds = some c.2 := by
  induction ds using decls_induction generalizing i c with
  | nil => simp [placedFrom] at h
  | cons d ds ihchildren ih =>
    rw [placedFrom_cons, List.mem_append, List.mem_cons] at h
    rcases h with (rfl | h) | h
    · exact ⟨0, [], rfl, rfl⟩
    · obtain ⟨b, hb, rfl⟩ := List.mem_map.1 h
      obtain ⟨j, q, hj, hq⟩ := ihchildren hb
      exact ⟨0, b.1, rfl, by rw [hj, Nat.zero_add]; exact hq⟩
    · obtain ⟨j, q, hj, hq⟩ := ih h
      refine ⟨j + 1, q, by rw [hj]; congr 1; omega, ?_⟩
      cases q with
      | nil => exact hq
      | cons k q => exact hq

/-- An address among the places leads to the declaration that is listed with it. -/
theorem declAt?_of_mem_placed {ds : List Decl} {c : Address × Decl} (h : c ∈ placed ds) :
    declAt? c.1 ds = some c.2 := by
  obtain ⟨j, q, hj, hq⟩ := declAt?_of_mem_placedFrom h
  rw [hj, Nat.zero_add]
  exact hq

/-- What stands in a program is placed somewhere, and the other way round. -/
theorem exists_mem_placed_iff {ds : List Decl} {P : Decl → Prop} :
    (∃ c ∈ placed ds, P c.2) ↔ ∃ d ∈ standing ds, P d := by
  rw [← map_snd_placedFrom 0]
  constructor
  · rintro ⟨c, hc, hP⟩
    exact ⟨c.2, List.mem_map_of_mem hc, hP⟩
  · rintro ⟨d, hd, hP⟩
    obtain ⟨c, hc, rfl⟩ := List.mem_map.1 hd
    exact ⟨c, hc, hP⟩

/-- What is placed in a program stands in it. -/
theorem mem_standing_of_mem_placed {ds : List Decl} {c : Address × Decl} (h : c ∈ placed ds) :
    c.2 ∈ standing ds := by
  rw [← map_snd_placedFrom 0]
  exact List.mem_map_of_mem h

/-- An address leads to a declaration that stands in the program. -/
theorem mem_standing_of_declAt? {p : Address} {ds : List Decl} {d : Decl}
    (h : declAt? p ds = some d) : d ∈ standing ds := by
  induction p generalizing ds with
  | nil => cases h
  | cons i p ih =>
    cases p with
    | nil => exact mem_standing.2 ⟨d, List.mem_of_getElem? h, Or.inl rfl⟩
    | cons j p =>
      obtain ⟨e, he, hd⟩ := Option.bind_eq_some_iff.1 h
      exact mem_standing.2 ⟨e, List.mem_of_getElem? he, Or.inr (ih hd)⟩

/-- The address of a declaration below the one at an address continues that address. -/
theorem declAt?_append {p q : Address} {ds : List Decl} (hp : p ≠ []) (hq : q ≠ []) :
    declAt? (p ++ q) ds = (declAt? p ds).bind fun d => declAt? q d.children := by
  induction p generalizing ds with
  | nil => exact absurd rfl hp
  | cons i p ih =>
    cases p with
    | nil =>
      obtain ⟨j, q, rfl⟩ := List.exists_cons_of_ne_nil hq
      rfl
    | cons j p =>
      change ((ds[i]?).bind fun d => declAt? (j :: p ++ q) d.children) =
        ((ds[i]?).bind fun d => declAt? (j :: p) d.children).bind _
      cases ds[i]? with
      | none => rfl
      | some d => exact ih (List.cons_ne_nil j p)

/-- An address that leads somewhere leads there still when there are more declarations. -/
theorem declAt?_append_right {p : Address} {ds : List Decl} {d : Decl} (es : List Decl)
    (h : declAt? p ds = some d) : declAt? p (ds ++ es) = some d := by
  have hold : ∀ i e, ds[i]? = some e → (ds ++ es)[i]? = some e := fun i e he => by
    rw [List.getElem?_append_left (List.getElem?_eq_some_iff.1 he).1, he]
  match p, h with
  | [i], h => exact hold i d h
  | i :: j :: p, h =>
    obtain ⟨e, he, hd⟩ := Option.bind_eq_some_iff.1 h
    exact Option.bind_eq_some_iff.2 ⟨e, hold i e he, hd⟩

end ApiAtlas.Source
