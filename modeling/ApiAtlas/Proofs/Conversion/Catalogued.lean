import ApiAtlas.Proofs.Conversion.Amendment
import ApiAtlas.Proofs.Conversion.Children

/-!
# Children by name

The index of a container lists, under each name, the children of that name in the order of the
children (`Atlas.Catalogued`). Every edit keeps it so, since no entry is renamed. So the child that
is found for a name is the first one that has it (`Atlas.Catalogued.child?_eq_find?`).
-/

set_option autoImplicit false

namespace ApiAtlas

/-- Whether the index of some children lists under each name the children that have it, in their
order. -/
def Members.Catalogues (m : Members) (nameOf : EntryId → String) : Prop :=
  ∀ name, (m.byName.get? name).getD [] = m.ids.filter (nameOf · = name)

namespace Members

variable {m : Members} {nameOf nameOf' : EntryId → String}

/-- Without children an index is right for any names. -/
theorem catalogues_empty (nameOf : EntryId → String) : Catalogues {} nameOf :=
  fun _ => rfl

/-- An index is still right after a child is inserted under its name. -/
theorem Catalogues.insert (h : m.Catalogues nameOf) (i : EntryId) :
    (m.insert (nameOf i) i).Catalogues nameOf := by
  intro name
  rw [Members.insert, List.filter_append]
  by_cases hname : name = nameOf i
  · subst hname
    rw [Table.get?_put_self, Option.getD_some, h, List.filter_singleton, decide_eq_true rfl]
    rfl
  · rw [Table.get?_put_of_ne _ _ hname, h, List.filter_singleton,
      decide_eq_false (Ne.symm hname)]
    exact (List.append_nil _).symm

/-- Only the names of the children matter. -/
theorem Catalogues.congr (h : m.Catalogues nameOf) (hsame : ∀ c ∈ m.ids, nameOf' c = nameOf c) :
    m.Catalogues nameOf' := by
  intro name
  rw [h name]
  exact List.filter_congr fun c hc => by rw [hsame c hc]

/-- The first child that an index lists under a name is the first of the children that has it. -/
theorem Catalogues.first?_eq_find? (h : m.Catalogues nameOf) (name : String) :
    m.first? name = m.ids.find? (nameOf · = name) := by
  rw [first?, h name, List.head?_filter]

end Members

namespace Atlas

/-- Whether all containers list their children by name. -/
def Catalogued (a : Atlas) : Prop :=
  ∀ p m, (a.get? p).bind (·.members?) = some m → m.Catalogues a.nameOf

/-- The child that is found for a name is the first one that has it. -/
theorem Catalogued.child?_eq_find? {a : Atlas} (h : a.Catalogued) (p : EntryId) (name : String) :
    a.child? p [name] = (a.childrenOf p).find? (a.nameOf · = name) := by
  rw [child?, childrenOf]
  cases hm : (a.get? p).bind (·.members?) with
  | none => rfl
  | some m =>
    have hfirst := (h p m hm).first?_eq_find? name
    simp only [Option.bind_some, hfirst, Option.map_some, Option.getD_some]
    cases m.ids.find? (a.nameOf · = name) <;> rfl

/-- An atlas that only has the project lists its children by name. -/
theorem catalogued_create (name : String) : (create name).Catalogued := by
  intro p m hm
  obtain ⟨e, he, hm⟩ := Option.bind_eq_some_iff.1 hm
  obtain rfl : p = root := Nat.lt_one_iff.1 (get?_lt he)
  obtain rfl := Option.some.inj he
  obtain rfl := Option.some.inj hm
  exact Members.catalogues_empty _

end Atlas

variable {x y : Draft} {i : EntryId}

/-- An edit keeps containers catalogued: children are put last under their names. -/
theorem Edit.catalogued (h : Edit i x y) (hx : x.atlas.Identified) (hc : x.atlas.Catalogued) :
    y.atlas.Catalogued := by
  have hgrows := h.grows hx
  -- An index from before is right still, since its children keep their names.
  have kept : ∀ p m, (x.atlas.get? p).bind (·.members?) = some m → m.Catalogues y.atlas.nameOf := by
    intro p m hm
    refine (hc p m hm).congr fun c hmem => hgrows.nameOf_eq (hx.children p c ?_)
    rw [Atlas.childrenOf, hm]
    exact hmem
  intro p m hm
  cases h with
  | report g hg => exact kept p m hm
  | files t => exact kept p m hm
  | add e q hpar hlt hb =>
    rw [Atlas.get?_add] at hm
    split at hm
    · exact hb.members hm ▸ Members.catalogues_empty _
    · exact kept p m hm
  | change f hf =>
    rw [Atlas.bind_get?_modify fun e he => (hf e he).members?] at hm
    exact kept p m hm
  | enter e d s hb hd hs hk hi =>
    have hnew := hx.size_notMem_childrenOf i
    have hname : (x.atlas.enter i e (some s)).1.nameOf x.atlas.size = e.name := by
      rw [Atlas.nameOf, Atlas.get?_enter e (some s) hi.lt hnew, if_pos rfl]
      rfl
    rw [Atlas.members?_enter (some s) hb hi.lt hnew] at hm
    split at hm
    · exact Option.some.inj hm ▸ Members.catalogues_empty _
    · split at hm
      · obtain ⟨m₀, hm₀, rfl⟩ := Option.map_eq_some_iff.1 hm
        have hold := kept p m₀ hm₀
        rw [← hname]
        exact hold.insert _
      · exact kept p m hm

/-- In every draft that conversion passes, containers list their children by name. -/
theorem states_catalogued {settings : Settings} {files : List Source.File} :
    ∀ y ∈ Draft.states settings files, y.atlas.Catalogued := by
  have hstart : (Draft.start settings).atlas.Catalogued := Atlas.catalogued_create settings.name
  have hstep : ∀ i x y, Edit i x y → x.atlas.Identified → x.atlas.Catalogued →
      y.atlas.Catalogued := fun i x y he hx hcatalogued => he.catalogued hx hcatalogued
  exact fun y hy => (states_always hstart hstep y hy).2

end ApiAtlas
