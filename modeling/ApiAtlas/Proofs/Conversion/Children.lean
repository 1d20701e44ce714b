import ApiAtlas.Proofs.Conversion.Identity

/-!
# Children while converting

A container lists exactly the declarations that stand in it, in its list of children as well as by
name (`Atlas.Placed`). Every edit keeps it so, since an entry never moves.
-/

set_option autoImplicit false

namespace ApiAtlas

namespace Atlas

variable {a : Atlas} {i : EntryId}

/-- An entry that is entered comes last among the children of its container. -/
theorem Identified.childrenOf_enter (h : a.Identified) {e : Entry} {d : Details} {s : String}
    (hb : e.body = .declaration {} d) (hi : a.Hosts i) (p : EntryId) :
    (a.enter i e (some s)).1.childrenOf p =
      if p = i then a.childrenOf i ++ [a.size] else a.childrenOf p := by
  have hmembers := members?_enter (some s) hb hi.lt (h.size_notMem_childrenOf i) p
  rw [childrenOf, hmembers]
  by_cases hp : p = a.size
  · have hnone := get?_eq_none (Nat.le_of_eq hp.symm)
    rw [if_pos hp, if_neg (hp ▸ Nat.ne_of_gt hi.lt), childrenOf, hnone]
    rfl
  · rw [if_neg hp]
    split
    · next hpi =>
      subst hpi
      obtain ⟨e₀, he₀, hm, -⟩ := hi
      obtain ⟨m, hm⟩ := Option.isSome_iff_exists.1 hm
      rw [childrenOf, he₀, Option.bind_some, hm]
      rfl
    · rfl

end Atlas

/-- Whether the names in an index lead to children only. -/
def Members.Indexed (m : Members) : Prop :=
  ∀ name, ∀ c ∈ (m.byName.get? name).getD [], c ∈ m.ids

/-- The names of an empty index lead to children only. -/
theorem Members.indexed_empty : Members.Indexed {} := by
  intro name c hc
  cases hc

/-- The names of an index lead to children only after a child is inserted. -/
theorem Members.Indexed.insert {m : Members} (h : m.Indexed) (name : String) (i : EntryId) :
    (m.insert name i).Indexed := by
  intro name' c hc
  rw [Members.insert] at hc ⊢
  by_cases hname : name' = name
  · subst hname
    rw [Table.get?_put_self, Option.getD_some] at hc
    rcases List.mem_append.1 hc with hc | hc
    · exact List.mem_append_left _ (h name' c hc)
    · exact List.mem_append_right _ hc
  · rw [Table.get?_put_of_ne _ _ hname] at hc
    exact List.mem_append_left _ (h name' c hc)

/-- The children of an entry are the declared entries that belong to it, and its index leads to
children only. -/
structure Atlas.Placed (a : Atlas) : Prop where
  parent : ∀ p c, c ∈ a.childrenOf p → a.parent? c = some p
  listed : ∀ c e p, a.get? c = some e → e.IsNamed → e.parent = some p → c ∈ a.childrenOf p
  indexed : ∀ p e m, a.get? p = some e → e.members? = some m → m.Indexed

namespace Atlas.Placed

variable {a b : Atlas} {i p c : EntryId} {e : Entry} {m : Members}

/-- A child stands in its container still, since entries keep their parents. -/
theorem parent_of_extends (hp : a.Placed) (ha : a.Identified) (hab : a.Extends b)
    (hc : c ∈ a.childrenOf p) : b.parent? c = some p :=
  (hab.parent?_eq (ha.children p c hc)).trans (hp.parent p c hc)

/-- An entry from before was listed where it stands now, since it was declared and stood there. -/
theorem listed_of_extends (hp : a.Placed) (hab : a.Extends b) (hc : c < a.size)
    (he : b.get? c = some e) (hn : e.IsNamed) (hep : e.parent = some p) : c ∈ a.childrenOf p := by
  obtain ⟨e₀, he₀⟩ := exists_get? hc
  obtain ⟨e₁, he₁, hkeep⟩ := hab c e₀ he₀
  obtain rfl : e₁ = e := Option.some.inj (he₁.symm.trans he)
  exact hp.listed c e₀ p he₀ (hkeep.isNamed_iff.1 hn) (hkeep.parent.symm.trans hep)

/-- The members of a container are indexed. -/
theorem indexed_members (hp : a.Placed) (hm : (a.get? p).bind (·.members?) = some m) :
    m.Indexed := by
  obtain ⟨e, he, hm⟩ := Option.bind_eq_some_iff.1 hm
  exact hp.indexed p e m he hm

/-- Containers and children stay in step when no list of children changes and no declared entry is
new. -/
theorem of_same_children (hp : a.Placed) (ha : a.Identified) (hab : a.Extends b)
    (hchildren : ∀ p, b.childrenOf p = a.childrenOf p)
    (hold : ∀ c e, b.get? c = some e → e.IsNamed → c < a.size)
    (hmembers : ∀ p m, (b.get? p).bind (·.members?) = some m →
      m = {} ∨ (a.get? p).bind (·.members?) = some m) : b.Placed := by
  constructor
  case parent => exact fun q c hc => hp.parent_of_extends ha hab (hchildren q ▸ hc)
  case listed =>
    intro c e q he hn hep
    rw [hchildren]
    exact hp.listed_of_extends hab (hold c e he hn) he hn hep
  case indexed =>
    intro q e m he hm
    rcases hmembers q m (Option.bind_eq_some_iff.2 ⟨e, he, hm⟩) with rfl | hm
    · exact Members.indexed_empty
    · exact hp.indexed_members hm

/-- Entering a declaration in a container lists it there, under its name. -/
theorem enter (hp : a.Placed) (ha : a.Identified) {d : Details} {s : String}
    (hb : e.body = .declaration {} d) (hi : a.Hosts i) : (a.enter i e (some s)).1.Placed := by
  have hab := extends_enter ha e s hi.lt
  have hchildren := ha.childrenOf_enter (s := s) hb hi
  have hnew : (a.enter i e (some s)).1.get? a.size = some { e with parent := some i } := by
    rw [get?_enter e (some s) hi.lt (ha.size_notMem_childrenOf i), if_pos rfl]
  constructor
  case parent =>
    intro q c hc
    rw [hchildren] at hc
    split at hc
    · next hqi =>
      subst hqi
      rcases List.mem_append.1 hc with hc | hc
      · exact hp.parent_of_extends ha hab hc
      · exact List.mem_singleton.1 hc ▸ parent?_eq hnew
    · exact hp.parent_of_extends ha hab hc
  case listed =>
    intro c e' q he hn heq
    rw [hchildren]
    by_cases hc : c = a.size
    · subst hc
      obtain rfl := Option.some.inj (hnew.symm.trans he)
      obtain rfl := Option.some.inj heq
      rw [if_pos rfl]
      exact List.mem_append_right _ (List.mem_singleton_self _)
    · have hle := get?_lt he
      rw [size_enter] at hle
      have hlt : c < a.size := Nat.lt_of_le_of_ne (Nat.le_of_lt_succ hle) hc
      have hold := hp.listed_of_extends hab hlt he hn heq
      split
      · next hqi => exact List.mem_append_left _ (hqi ▸ hold)
      · exact hold
  case indexed =>
    intro q e' m he hm
    have hmembers := members?_enter (some s) hb hi.lt (ha.size_notMem_childrenOf i) q
    rw [he, Option.bind_some, hm] at hmembers
    split at hmembers
    · exact Option.some.inj hmembers ▸ Members.indexed_empty
    · split at hmembers
      · obtain ⟨m₀, hm₀, rfl⟩ := Option.map_eq_some_iff.1 hmembers.symm
        exact (hp.indexed_members hm₀).insert _ _
      · exact hp.indexed_members hmembers.symm

end Atlas.Placed

variable {x y : Draft} {i : EntryId}

/-- An edit keeps children and their index in step. -/
theorem Edit.placed (h : Edit i x y) (hx : x.atlas.Identified) (hp : x.atlas.Placed) :
    y.atlas.Placed := by
  have hgrows := h.grows hx
  cases h with
  | report g hg => exact hp
  | files t => exact ⟨hp.parent, hp.listed, hp.indexed⟩
  | enter e d s hb hd hs hk hi => exact hp.enter hx hb hi
  | add e p hpar hlt hb =>
    refine hp.of_same_children hx hgrows (Atlas.childrenOf_add fun m => hb.members)
      (fun c e' he hn => ?_) fun q m hm => ?_
    · rw [Atlas.get?_add] at he
      split at he
      · exact absurd hn (Option.some.inj he ▸ hb).not_named
      · exact Atlas.get?_lt he
    · rw [Atlas.get?_add] at hm
      split at hm
      · exact .inl (hb.members hm)
      · exact .inr hm
  | change f hf =>
    have hsame : ∀ e, x.atlas.get? i = some e → (f e).members? = e.members? :=
      fun e he => (hf e he).members?
    refine hp.of_same_children hx hgrows (Atlas.childrenOf_modify hsame) (fun c e he _ => ?_)
      fun q m hm => .inr ?_
    · simpa using Atlas.get?_lt he
    · rwa [Atlas.bind_get?_modify hsame] at hm

/-- In an atlas that only has the project, children and their index are in step. -/
theorem Atlas.placed_create (name : String) : (Atlas.create name).Placed := by
  have hroot : ∀ j e, (create name).get? j = some e → e.members? = some {} ∧ e.parent = none := by
    intro j e he
    obtain rfl : j = root := Nat.lt_one_iff.1 (get?_lt he)
    obtain rfl := Option.some.inj he
    exact ⟨rfl, rfl⟩
  have hchildren : ∀ p, (create name).childrenOf p = [] := by
    intro p
    cases he : (create name).get? p with
    | none => rw [childrenOf, he]; rfl
    | some e =>
      rw [childrenOf_eq he, (hroot p e he).1]
      rfl
  refine ⟨fun p c hc => ?_, fun c e p he _ hp => ?_, fun p e m he hm => ?_⟩
  · rw [hchildren] at hc
    cases hc
  · rw [(hroot c e he).2] at hp
    cases hp
  · obtain rfl := Option.some.inj ((hroot p e he).1.symm.trans hm)
    exact Members.indexed_empty

/-- In every draft that conversion passes, children and their index are in step. -/
theorem states_placed {settings : Settings} {files : List Source.File} :
    ∀ y ∈ Draft.states settings files, y.atlas.Placed := by
  have hstart : (Draft.start settings).atlas.Placed := Atlas.placed_create settings.name
  have hstep : ∀ i x y, Edit i x y → x.atlas.Identified → x.atlas.Placed → y.atlas.Placed :=
    fun i x y he hx hplaced => he.placed hx hplaced
  exact fun y hy => (states_always hstart hstep y hy).2

end ApiAtlas
