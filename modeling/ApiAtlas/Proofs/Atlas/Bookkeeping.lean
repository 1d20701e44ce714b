import ApiAtlas.Proofs.Conversion.Catalogued
import ApiAtlas.Proofs.Resolution.Recommented
import Mathlib.Data.List.Nodup

/-!
# Bookkeeping of containers

The children of a container, its index by name and the parents of its children are three records
that every call that adds or takes away a child changes one after the other
(`Stepwise.addChild`, `Stepwise.removeChild`). All that can be wrong with a call is found out before
the first change (`Call.perform_eq`), and after the last one the records agree again
(`Atlas.InStep`). So they agree after every sequence of calls (`Atlas.InStep.after`), and a path of
names leads from container to container by the first child of each name
(`Atlas.Catalogued.child?_eq_foldlM`).
-/

set_option autoImplicit false

namespace ApiAtlas

/-! ## The records of a container -/

namespace Members

variable {m : Members} {a b : Atlas} {p c : EntryId} {nameOf : EntryId → String}

/-- Whether what a container records of its children agrees with the atlas: it is their parent,
it has each of them once, and its index lists them by name in their order. -/
structure InStep (m : Members) (a : Atlas) (p : EntryId) : Prop where
  parent : ∀ c ∈ m.ids, a.parent? c = some p
  nodup : m.ids.Nodup
  catalogues : m.Catalogues a.nameOf

/-- Taking a child away from the index changes what is listed under its name only. -/
theorem getD_byName_erase (m : Members) (name key : String) (c : EntryId) :
    ((m.erase name c).byName.get? key).getD [] =
      if key = name then ((m.byName.get? name).getD []).erase c
      else (m.byName.get? key).getD [] := by
  unfold erase
  cases hget : m.byName.get? name with
  | none =>
    by_cases hkey : key = name
    · simp [hkey, hget]
    · simp [hkey]
  | some bucket =>
    by_cases hkey : key = name
    · simp [hkey, Table.get?_put_self]
    · simp [hkey, Table.get?_put_of_ne]

/-- An index without a child indexes the members without it. -/
theorem Catalogues.erase (h : m.Catalogues nameOf) (c : EntryId) :
    (m.erase (nameOf c) c).Catalogues nameOf := by
  intro key
  rw [getD_byName_erase, Members.erase, ← List.erase_filter]
  split
  next hkey => rw [hkey, h (nameOf c)]
  next hkey =>
    have hother : c ∉ m.ids.filter fun x => nameOf x = key := by
      simpa using fun _ => Ne.symm hkey
    rw [h key, List.erase_of_not_mem hother]

/-- A new child that gets its container as parent keeps the members in step. -/
theorem InStep.insert (h : m.InStep a p) (hc : c ∉ m.ids)
    (hparent : ∀ x, b.parent? x = if x = c then some p else a.parent? x)
    (hname : b.nameOf = a.nameOf) : (m.insert (a.nameOf c) c).InStep b p where
  parent x hx := by
    rw [hparent]
    split
    next => rfl
    next hne =>
      have hx : x ∈ m.ids := by simpa [Members.insert, hne] using hx
      exact h.parent x hx
  nodup := by
    rw [Members.insert, List.nodup_append]
    refine ⟨h.nodup, by simp, ?_⟩
    rintro x hx y hy rfl
    exact hc (List.mem_singleton.1 hy ▸ hx)
  catalogues := hname ▸ h.catalogues.insert c

/-- A child that loses its parent and leaves the members keeps them in step. -/
theorem InStep.erase (h : m.InStep a p)
    (hparent : ∀ x, b.parent? x = if x = c then none else a.parent? x)
    (hname : b.nameOf = a.nameOf) : (m.erase (a.nameOf c) c).InStep b p where
  parent x hx := by
    obtain ⟨hne, hx⟩ := h.nodup.mem_erase_iff.1 hx
    rw [hparent, if_neg hne]
    exact h.parent x hx
  nodup := h.nodup.erase c
  catalogues := hname ▸ h.catalogues.erase c

/-- No members are in step with any atlas. -/
theorem inStep_empty (a : Atlas) (p : EntryId) : InStep {} a p where
  parent c hc := by cases hc
  nodup := List.nodup_nil
  catalogues := catalogues_empty _

/-- A container keeps its records if its children keep their parent and their names. -/
theorem InStep.congr (h : m.InStep a p) (hparent : ∀ x ∈ m.ids, b.parent? x = a.parent? x)
    (hname : ∀ x ∈ m.ids, b.nameOf x = a.nameOf x) : m.InStep b p where
  parent x hx := (hparent x hx).trans (h.parent x hx)
  nodup := h.nodup
  catalogues := h.catalogues.congr hname

end Members

namespace Atlas

variable {a b : Atlas} {i p c : EntryId} {m : Members} {parent : Option EntryId}
  {f : Members → Members}

/-- The children of an entry that can hold some, in order and by name. -/
def membersOf (a : Atlas) (i : EntryId) : Option Members :=
  (a.get? i).bind (·.members?)

/-- Whether the records of all containers agree with the atlas. -/
def InStep (a : Atlas) : Prop :=
  ∀ p m, a.membersOf p = some m → m.InStep a p

/-- The children of a container are the numbers of its members. -/
theorem childrenOf_of_membersOf (h : a.membersOf p = some m) : a.childrenOf p = m.ids := by
  rw [membersOf] at h
  rw [childrenOf, h]
  rfl

/-- A child is a number among the members of a container. -/
theorem mem_childrenOf_iff :
    c ∈ a.childrenOf p ↔ ∃ m, a.membersOf p = some m ∧ c ∈ m.ids := by
  rw [childrenOf, membersOf]
  cases (a.get? p).bind (·.members?) <;> simp

/-- In an atlas in step, a child has the container that lists it as parent. -/
theorem InStep.parent?_of_mem (h : a.InStep) (hc : c ∈ a.childrenOf p) : a.parent? c = some p := by
  obtain ⟨m, hm, hc⟩ := mem_childrenOf_iff.1 hc
  exact (h p m hm).parent c hc

/-- In an atlas in step, no child is listed twice. -/
theorem InStep.nodup_childrenOf (h : a.InStep) (p : EntryId) : (a.childrenOf p).Nodup := by
  cases hm : a.membersOf p with
  | none =>
    rw [childrenOf]
    rw [membersOf] at hm
    rw [hm]
    exact List.nodup_nil
  | some m => exact childrenOf_of_membersOf hm ▸ (h p m hm).nodup

/-- In an atlas in step, containers list their children by name. -/
theorem InStep.catalogued (h : a.InStep) : a.Catalogued := fun p m hm => (h p m hm).catalogues

/-- An atlas that only has the project is in step. -/
theorem inStep_create (name : String) : (create name).InStep := by
  intro p m hm
  obtain ⟨e, he, hm⟩ := Option.bind_eq_some_iff.1 hm
  obtain rfl : p = root := Nat.lt_one_iff.1 (get?_lt he)
  obtain rfl := Option.some.inj he
  obtain rfl := Option.some.inj hm
  exact Members.inStep_empty _ _

/-! ## What a call changes -/

/-- An entry without members is added in step. -/
theorem InStep.add {e : Entry} (h : a.InStep) (he : ∀ m, e.members? = some m → m = {}) :
    (a.add e).1.InStep := by
  intro p m hm
  rw [membersOf, get?_add] at hm
  split at hm
  next =>
    rw [he m hm]
    exact Members.inStep_empty _ _
  next =>
    have hold : ∀ c ∈ m.ids, (a.add e).1.get? c = a.get? c := fun c hc =>
      get?_add_of_lt e (parent?_lt ((h p m hm).parent c hc))
    refine (h p m hm).congr (fun c hc => ?_) fun c hc => ?_
    · rw [parent?, hold c hc, parent?]
    · rw [nameOf, hold c hc, nameOf]

/-- Whether one atlas is another one in which a container holds other children and an entry has
another parent. -/
structure Relinks (a : Atlas) (p : EntryId) (f : Members → Members) (c : EntryId)
    (parent : Option EntryId) (b : Atlas) : Prop where
  membersOf : ∀ i, b.membersOf i = if i = p then (a.membersOf i).map f else a.membersOf i
  parent? : ∀ i, b.parent? i = if i = c then parent else a.parent? i
  nameOf : b.nameOf = a.nameOf

/-- Members that a change of an entry does not touch stay as they are. -/
theorem membersOf_modify {change : Entry → Entry}
    (hmembers : ∀ e, (change e).members? = e.members?) (i j : EntryId) :
    (a.modify i change).membersOf j = a.membersOf j :=
  bind_get?_modify (fun e _ => hmembers e) j

/-- Parents that a change of an entry does not touch stay as they are. -/
theorem parent?_modify {change : Entry → Entry} (hparent : ∀ e, (change e).parent = e.parent)
    (i j : EntryId) : (a.modify i change).parent? j = a.parent? j :=
  bind_get?_modify (fun e _ => hparent e) j

/-- Names that a change of an entry does not touch stay as they are. -/
theorem nameOf_modify {change : Entry → Entry} (hname : ∀ e, (change e).name = e.name)
    (i : EntryId) : (a.modify i change).nameOf = a.nameOf := by
  funext j
  have hsome : ∀ e, (some ∘ Entry.name) (change e) = (some ∘ Entry.name) e := fun e => by
    simp [hname]
  rw [nameOf, nameOf, Option.map_eq_bind, Option.map_eq_bind]
  exact congrArg (·.getD "") (bind_get?_modify (fun e _ => hsome e) j)

/-- A change of the members of one container leaves those of all others. -/
theorem membersOf_modify_mapMembers (p : EntryId) (f : Members → Members) (i : EntryId) :
    (a.modify p (·.mapMembers f)).membersOf i =
      if i = p then (a.membersOf i).map f else a.membersOf i := by
  rw [membersOf, get?_modify]
  by_cases hi : i = p
  · subst hi
    simp [membersOf, Option.bind_map, Option.map_bind, Entry.members?_mapMembers]
  · rw [if_neg (Ne.symm hi), if_neg hi, membersOf]

/-- A change of the parent of one entry leaves those of all others. -/
theorem parent?_modify_parent (hc : c < a.size) (parent : Option EntryId) (i : EntryId) :
    (a.modify c fun e => { e with parent := parent }).parent? i =
      if i = c then parent else a.parent? i := by
  rw [parent?, get?_modify]
  by_cases hi : i = c
  · subst hi
    obtain ⟨e, he⟩ := exists_get? hc
    simp [he]
  · rw [if_neg (Ne.symm hi), if_neg hi, parent?]

/-- A change of its members leaves the name of an entry. -/
theorem name_mapMembers (f : Members → Members) (e : Entry) : (e.mapMembers f).name = e.name := by
  obtain ⟨_, _, _, _, _, body⟩ := e
  cases body <;> rfl

/-- A change of its members leaves the parent of an entry. -/
theorem parent_mapMembers (f : Members → Members) (e : Entry) :
    (e.mapMembers f).parent = e.parent := by
  obtain ⟨_, _, _, _, _, body⟩ := e
  cases body <;> rfl

/-- The parent is changed first when a child is added. -/
theorem relinks_parent_members (hc : c < a.size) (p : EntryId) (f : Members → Members)
    (parent : Option EntryId) : a.Relinks p f c parent
      ((a.modify c fun e => { e with parent := parent }).modify p (·.mapMembers f)) where
  membersOf i := by
    rw [membersOf_modify_mapMembers, membersOf_modify]
    exact fun _ => rfl
  parent? i := by
    rw [parent?_modify (parent_mapMembers f), parent?_modify_parent hc]
  nameOf := by
    rw [nameOf_modify (name_mapMembers f), nameOf_modify]
    exact fun _ => rfl

/-- The parent is changed last when a child is taken away. -/
theorem relinks_members_parent (hc : c < a.size) (p : EntryId) (f : Members → Members)
    (parent : Option EntryId) : a.Relinks p f c parent
      ((a.modify p (·.mapMembers f)).modify c fun e => { e with parent := parent }) where
  membersOf i := by
    rw [membersOf_modify, membersOf_modify_mapMembers]
    exact fun _ => rfl
  parent? i := by
    rw [parent?_modify_parent (by rwa [size_modify]), parent?_modify (parent_mapMembers f)]
  nameOf := by
    rw [nameOf_modify, nameOf_modify (name_mapMembers f)]
    exact fun _ => rfl

/-- Relinking changes the children of one container only. -/
theorem Relinks.childrenOf (h : a.Relinks p f c parent b) (hm : a.membersOf p = some m)
    (q : EntryId) : b.childrenOf q = if q = p then (f m).ids else a.childrenOf q := by
  have hq := h.membersOf q
  by_cases hqp : q = p
  · rw [if_pos hqp, hqp, hm] at hq
    rw [if_pos hqp]
    exact childrenOf_of_membersOf (hqp ▸ hq)
  · rw [if_neg hqp] at hq
    rw [if_neg hqp]
    exact congrArg (fun found : Option Members => (found.map (·.ids)).getD []) hq

/-- A child put last in a container that is its parent now. -/
theorem InStep.insert (h : a.InStep) (hb : a.Relinks p (·.insert (a.nameOf c) c) c (some p) b)
    (hnew : c ∉ a.childrenOf p) (hfree : ∀ q, a.parent? c = some q → q = p) : b.InStep := by
  intro q m hm
  rw [hb.membersOf] at hm
  split at hm
  next hq =>
    subst hq
    obtain ⟨m, hm', rfl⟩ := Option.map_eq_some_iff.1 hm
    rw [childrenOf_of_membersOf hm'] at hnew
    exact (h q m hm').insert hnew hb.parent? hb.nameOf
  next hq =>
    refine (h q m hm).congr (fun x hx => ?_) fun x _ => congrFun hb.nameOf x
    rw [hb.parent?, if_neg]
    rintro rfl
    exact hq (hfree q ((h q m hm).parent x hx))

/-- A child taken away from the container that was its parent. -/
theorem InStep.erase (h : a.InStep) (hb : a.Relinks p (·.erase (a.nameOf c) c) c none b)
    (hold : c ∈ a.childrenOf p) : b.InStep := by
  intro q m hm
  rw [hb.membersOf] at hm
  split at hm
  next hq =>
    subst hq
    obtain ⟨m, hm', rfl⟩ := Option.map_eq_some_iff.1 hm
    exact (h q m hm').erase hb.parent? hb.nameOf
  next hq =>
    refine (h q m hm).congr (fun x hx => ?_) fun x _ => congrFun hb.nameOf x
    rw [hb.parent?, if_neg]
    rintro rfl
    exact hq (Option.some.inj (((h q m hm).parent x hx).symm.trans (h.parent?_of_mem hold)))

/-- An entry is fetched exactly if it is there. -/
theorem fetch_eq_ok {e : Entry} : a.fetch i = .ok e ↔ a.get? i = some e := by
  rw [fetch]
  cases a.get? i <;> simp

/-- Members are fetched exactly from an entry that has some. -/
theorem fetchMembers_eq_ok : a.fetchMembers p = .ok m ↔ a.membersOf p = some m := by
  unfold fetchMembers fetch membersOf
  cases a.get? p with
  | none => simp [bind, Except.bind]
  | some e => cases hm : e.members? <;> simp [bind, Except.bind, hm]

/-- What is added to a container is an entry that has no other parent. -/
theorem addChild_eq_ok (h : a.addChild p c = .ok b) : ∃ m e, a.membersOf p = some m ∧
    a.get? c = some e ∧ (∀ q, e.parent = some q → q = p) ∧ b = a.attach p c e.name := by
  obtain ⟨m, hm, h⟩ := Except.exists_of_bind_eq_ok h
  obtain ⟨e, he, h⟩ := Except.exists_of_bind_eq_ok h
  refine ⟨m, e, fetchMembers_eq_ok.1 hm, fetch_eq_ok.1 he, ?_⟩
  split at h
  next other hparent =>
    split at h
    next => cases h
    next hother =>
      cases h
      exact ⟨fun q hq => Option.some.inj (hq.symm.trans hparent) ▸ not_not.1 hother, rfl⟩
  next hparent =>
    cases h
    exact ⟨fun q hq => (by cases hparent.symm.trans hq), rfl⟩

/-- What is taken away from a container is one of its children; else nothing happens. -/
theorem removeChild_eq_ok (h : a.removeChild p c = .ok b) :
    (∃ m e, a.membersOf p = some m ∧ a.get? c = some e ∧ c ∈ m.ids ∧
      b = (a.modify p (·.mapMembers fun m => m.erase e.name c)).modify c
        fun e => { e with parent := none }) ∨
    c ∉ a.childrenOf p ∧ b = a := by
  obtain ⟨m, hm, h⟩ := Except.exists_of_bind_eq_ok h
  obtain ⟨e, he, h⟩ := Except.exists_of_bind_eq_ok h
  rw [fetchMembers_eq_ok] at hm
  split at h
  next hc =>
    cases h
    exact .inl ⟨m, e, hm, fetch_eq_ok.1 he, List.contains_iff_mem.1 hc, rfl⟩
  next hc =>
    cases h
    refine .inr ⟨fun hmem => hc (List.contains_iff_mem.2 ?_), rfl⟩
    rwa [childrenOf_of_membersOf hm] at hmem

/-- A child that is added stands last in the container, unless it was there before. -/
theorem childrenOf_addChild (h : a.addChild p c = .ok b) (q : EntryId) : b.childrenOf q =
    if q = p ∧ c ∉ a.childrenOf p then a.childrenOf p ++ [c] else a.childrenOf q := by
  obtain ⟨m, e, hm, he, -, rfl⟩ := addChild_eq_ok h
  rw [attach]
  split
  next hold =>
    have hold : c ∈ a.childrenOf p := List.contains_iff_mem.1 hold
    rw [if_neg fun hnew => hnew.2 hold]
  next hnew =>
    have hnew : c ∉ a.childrenOf p := fun hold => hnew (List.contains_iff_mem.2 hold)
    rw [(relinks_parent_members (get?_lt he) p _ _).childrenOf hm, childrenOf_of_membersOf hm]
    simp only [childrenOf_of_membersOf hm ▸ hnew, not_false_eq_true, and_true]
    rfl

/-- A child that is taken away is gone from the container, and only from there. -/
theorem childrenOf_removeChild (h : a.removeChild p c = .ok b) (q : EntryId) : b.childrenOf q =
    if q = p then (a.childrenOf p).erase c else a.childrenOf q := by
  obtain ⟨m, e, hm, he, -, rfl⟩ | ⟨hnot, rfl⟩ := removeChild_eq_ok h
  · rw [(relinks_members_parent (get?_lt he) p _ _).childrenOf hm, childrenOf_of_membersOf hm]
    rfl
  · rw [List.erase_of_not_mem hnot]
    split
    next hq => rw [hq]
    next => rfl

/-- Adding a child keeps an atlas in step. -/
theorem InStep.addChild (h : a.InStep) (hb : a.addChild p c = .ok b) : b.InStep := by
  obtain ⟨m, e, -, he, hfree, rfl⟩ := addChild_eq_ok hb
  rw [attach]
  split
  next => exact h
  next hnew =>
    have hname : a.nameOf c = e.name := nameOf_eq he
    have hnew : c ∉ a.childrenOf p := fun hold => hnew (List.contains_iff_mem.2 hold)
    refine h.insert (hname ▸ relinks_parent_members (get?_lt he) p _ _) hnew fun q hq => ?_
    exact hfree q (parent?_eq he ▸ hq)

/-- Taking a child away keeps an atlas in step. -/
theorem InStep.removeChild (h : a.InStep) (hb : a.removeChild p c = .ok b) : b.InStep := by
  obtain ⟨m, e, hm, he, hold, rfl⟩ | ⟨-, rfl⟩ := removeChild_eq_ok hb
  · have hname : a.nameOf c = e.name := nameOf_eq he
    rw [← childrenOf_of_membersOf hm] at hold
    exact h.erase (hname ▸ relinks_members_parent (get?_lt he) p _ _) hold
  · exact h

/-! ## Calls, one change at a time -/

/-- Two changes of one entry are one change. -/
theorem modify_modify (a : Atlas) (i : EntryId) (f g : Entry → Entry) :
    (a.modify i f).modify i g = a.modify i (g ∘ f) := by
  have hentries : (a.entries.modify i f).modify i g = a.entries.modify i (g ∘ f) := by
    refine Array.ext_getElem? fun j => ?_
    simp only [Array.getElem?_modify]
    split <;> simp
  rw [modify, modify, modify, hentries]

/-- Two changes of members are one change. -/
theorem mapMembers_mapMembers (f g : Members → Members) :
    (Entry.mapMembers g ∘ Entry.mapMembers f) = Entry.mapMembers (g ∘ f) := by
  funext e
  obtain ⟨_, _, _, _, _, body⟩ := e
  cases body <;> rfl

end Atlas

/-- What is done to an atlas one change after the other. A misuse does not take back what was
changed before it. -/
abbrev Stepwise := ExceptT Misuse (StateM Atlas)

namespace Stepwise

/-- What an atlas gives for something that is done to it, and the atlas after it. -/
def on {α : Type} (s : Stepwise α) (a : Atlas) : Except Misuse α × Atlas :=
  s.run.run a

/-- Something that is found out about the atlas. -/
def ask {α : Type} (f : Atlas → Except Misuse α) : Stepwise α := do
  match f (← get) with
  | .ok v => pure v
  | .error m => throw m

/-- A change of one entry. -/
def change (i : EntryId) (f : Entry → Entry) : Stepwise PUnit := do
  set ((← get).modify i f)

/-- A child recorded in a container that it may be a child of, unless it is one. -/
def attach (p c : EntryId) (name : String) : Stepwise PUnit := do
  if ((← get).childrenOf p).contains c then return
  change c fun e => { e with parent := some p }
  change p (·.mapMembers fun m => { m with ids := m.ids ++ [c] })
  change p (·.mapMembers fun m =>
    { m with byName := m.byName.put name ((m.byName.get? name).getD [] ++ [c]) })

/-- A child added to a container. -/
def addChild (p c : EntryId) : Stepwise PUnit := do
  let _ ← ask (·.fetchMembers p)
  let e ← ask (·.fetch c)
  match e.parent with
  | some other => if other ≠ p then throw (.ownedElsewhere e.text other) else attach p c e.name
  | none => attach p c e.name

/-- A child of a container that is not recorded in it any more. -/
def detach (p c : EntryId) (name : String) : Stepwise PUnit := do
  change p (·.mapMembers fun m => { m with ids := m.ids.erase c })
  change p (·.mapMembers fun m =>
    { m with
      byName := match m.byName.get? name with
        | some bucket => m.byName.put name (bucket.erase c)
        | none => m.byName })
  change c fun e => { e with parent := none }

/-- A child taken away from a container. -/
def removeChild (p c : EntryId) : Stepwise PUnit := do
  let m ← ask (·.fetchMembers p)
  let e ← ask (·.fetch c)
  if m.ids.contains c then detach p c e.name

variable {α β : Type}

/-- A step that only yields a value leaves the atlas. -/
@[simp]
theorem on_pure (v : α) (a : Atlas) : on (pure v) a = (.ok v, a) := rfl

/-- A step that fails leaves the atlas. -/
@[simp]
theorem on_throw (m : Misuse) (a : Atlas) : on (throw m : Stepwise α) a = (.error m, a) := rfl

/-- A step that reads the atlas yields it and leaves it. -/
@[simp]
theorem on_get (a : Atlas) : on get a = (.ok a, a) := rfl

/-- A step that changes an entry does so and yields nothing. -/
@[simp]
theorem on_change (i : EntryId) (f : Entry → Entry) (a : Atlas) :
    on (change i f) a = (.ok (), a.modify i f) := rfl

/-- The second of two steps starts where the first one ended, unless that failed. -/
@[simp]
theorem on_bind (s : Stepwise α) (k : α → Stepwise β) (a : Atlas) : on (s >>= k) a =
    match on s a with
    | (.ok v, b) => on (k v) b
    | (.error m, b) => (.error m, b) := by
  rw [on, on, ExceptT.run_bind, StateT.run_bind]
  generalize StateT.run (ExceptT.run s) a = made
  obtain ⟨made | made, b⟩ := made <;> rfl

/-- A step that asks the atlas leaves it, also when it fails. -/
@[simp]
theorem on_ask (f : Atlas → Except Misuse α) (a : Atlas) : on (ask f) a = (f a, a) := by
  rw [ask, on_bind, on_get]
  cases h : f a <;> simp [h]

/-- Attaching step by step comes to attaching at once. -/
theorem on_attach (p c : EntryId) (name : String) (a : Atlas) :
    on (attach p c name) a = (.ok (), a.attach p c name) := by
  simp only [attach, Atlas.attach, on_bind, on_get]
  by_cases hc : (a.childrenOf p).contains c = true
  · simp only [hc, if_true, on_pure]
  · simp only [hc, Bool.false_eq_true, if_false, on_bind, on_change, Atlas.modify_modify,
      Atlas.mapMembers_mapMembers]
    rfl

/-- A child is added as the atlas says, or nothing is changed. -/
theorem on_addChild (p c : EntryId) (a : Atlas) : on (addChild p c) a =
    match a.addChild p c with
    | .ok b => (.ok (), b)
    | .error m => (.error m, a) := by
  rw [addChild, Atlas.addChild, on_bind, on_ask]
  cases a.fetchMembers p with
  | error m => rfl
  | ok m =>
    simp only [on_bind, on_ask]
    cases a.fetch c with
    | error m => rfl
    | ok e =>
      simp only [bind, Except.bind]
      cases e.parent with
      | none => exact on_attach p c e.name a
      | some other =>
        by_cases hother : other = p
        · simp only [hother, ne_eq, not_true_eq_false, if_false]
          exact on_attach p c e.name a
        · simp only [ne_eq, hother, not_false_eq_true, if_true]
          rfl

/-- Detaching step by step comes to two changes of entries. -/
theorem on_detach (p c : EntryId) (name : String) (a : Atlas) : on (detach p c name) a =
    (.ok (), (a.modify p (·.mapMembers fun m => m.erase name c)).modify c
      fun e => { e with parent := none }) := by
  simp only [detach, on_bind, on_change, Atlas.modify_modify, Atlas.mapMembers_mapMembers]
  rfl

/-- A child is taken away as the atlas says, or nothing is changed. -/
theorem on_removeChild (p c : EntryId) (a : Atlas) : on (removeChild p c) a =
    match a.removeChild p c with
    | .ok b => (.ok (), b)
    | .error m => (.error m, a) := by
  rw [removeChild, Atlas.removeChild, on_bind, on_ask]
  cases a.fetchMembers p with
  | error m => rfl
  | ok m =>
    simp only [on_bind, on_ask]
    cases a.fetch c with
    | error m => rfl
    | ok e =>
      conv_rhs => simp only [bind, Except.bind]
      by_cases hc : m.ids.contains c = true
      · simp only [hc, if_true]
        exact on_detach p c e.name a
      · simp only [hc, Bool.false_eq_true, if_false]
        rfl

end Stepwise

/-! ## Sequences of calls -/

/-- A call on an atlas: a new entry, which has no children yet, an entry that is there already, a
child for a container, or a child of a container that is taken away. -/
inductive Call where
  | add (e : Entry) (childless : ∀ m, e.members? = some m → m = {})
  | addAgain (i : EntryId)
  | addChild (p c : EntryId)
  | removeChild (p c : EntryId)

namespace Call

/-- The atlas that a call makes of an atlas. -/
def run : Call → Atlas → Except Misuse Atlas
  | .add e _, a => .ok (a.add e).1
  | .addAgain i, a => do .error (.addedTwice (← a.fetch i).name i)
  | .addChild p c, a => a.addChild p c
  | .removeChild p c, a => a.removeChild p c

/-- A call one change after the other. -/
def perform : Call → Stepwise PUnit
  | .add e _ => do set ((← get).add e).1
  | .addAgain i => do throw (.addedTwice (← Stepwise.ask (·.fetch i)).name i)
  | .addChild p c => Stepwise.addChild p c
  | .removeChild p c => Stepwise.removeChild p c

/-- Nothing is changed before it is known that the call is no misuse. -/
theorem perform_eq (call : Call) (a : Atlas) : call.perform.on a =
    match call.run a with
    | .ok b => (.ok (), b)
    | .error m => (.error m, a) := by
  cases call with
  | add e _ => rfl
  | addAgain i =>
    simp only [perform, run, Stepwise.on_bind, Stepwise.on_ask]
    cases a.fetch i <;> rfl
  | addChild p c => exact Stepwise.on_addChild p c a
  | removeChild p c => exact Stepwise.on_removeChild p c a

end Call

namespace Atlas

variable {a : Atlas}

/-- The atlas after some calls, each done as far as it goes. -/
def after (a : Atlas) (calls : List Call) : Atlas :=
  calls.foldl (fun a call => (call.perform.on a).2) a

/-- A call that is performed step by step keeps an atlas in step, also when it fails. -/
theorem InStep.perform (h : a.InStep) (call : Call) : (call.perform.on a).2.InStep := by
  rw [call.perform_eq]
  cases hrun : call.run a with
  | error m => exact h
  | ok b =>
    cases call with
    | add e he =>
      cases hrun
      exact h.add he
    | addAgain i =>
      rw [Call.run] at hrun
      cases hfetch : a.fetch i <;> simp [hfetch, bind, Except.bind] at hrun
    | addChild p c => exact h.addChild hrun
    | removeChild p c => exact h.removeChild hrun

/-- Any sequence of calls keeps an atlas in step. -/
theorem InStep.after (h : a.InStep) (calls : List Call) : (a.after calls).InStep := by
  induction calls generalizing a with
  | nil => exact h
  | cons call calls ih => exact ih (h.perform call)

/-- A path of names leads from container to container by the first child of each name. -/
theorem Catalogued.child?_eq_foldlM (h : a.Catalogued) {names : List String} (hne : names ≠ [])
    (p : EntryId) : a.child? p names =
      names.foldlM (fun q name => (a.childrenOf q).find? (a.nameOf · = name)) p := by
  induction names generalizing p with
  | nil => exact absurd rfl hne
  | cons name names ih =>
    have hcons : a.child? p (name :: names) =
        (a.child? p [name]).bind fun q => if names.isEmpty then some q else a.child? q names := by
      rw [child?, child?]
      cases ((a.get? p).bind (·.members?)).bind (·.first? name) <;> rfl
    rw [hcons, h.child?_eq_find?, List.foldlM_cons]
    refine congrArg _ (funext fun q => ?_)
    cases names with
    | nil => rfl
    | cons next names => exact ih (List.cons_ne_nil _ _) q

/-- After any calls on an atlas that began empty, each child of a container has it as its parent,
is there once, and is in no other container; under each name a container lists the children of that
name in their order; a further call either makes what it is for or, if it is a misuse, changes
nothing; and a path of names leads from container to container by the first child of each name. -/
theorem books_after_calls (name : String) (calls : List Call) :
    let a := (create name).after calls
    (∀ p, ∀ c ∈ a.childrenOf p, a.parent? c = some p ∧ (a.childrenOf p).count c = 1 ∧
      ∀ q, c ∈ a.childrenOf q → q = p) ∧
    (∀ p m, a.membersOf p = some m → ∀ key,
      (m.byName.get? key).getD [] = m.ids.filter fun c => a.nameOf c = key) ∧
    (∀ call : Call, (∀ b, call.run a = .ok b → call.perform.on a = (.ok (), b)) ∧
      ∀ m, call.run a = .error m → call.perform.on a = (.error m, a)) ∧
    ∀ p, a.child? p [] = none ∧ ∀ names, names ≠ [] → a.child? p names =
      names.foldlM (fun q key => (a.childrenOf q).find? fun c => a.nameOf c = key) p := by
  intro a
  have hbooks : a.InStep := (inStep_create name).after calls
  refine ⟨fun p c hc => ⟨hbooks.parent?_of_mem hc, ?_, fun q hq => ?_⟩,
    fun p m hm => hbooks.catalogued p m hm, fun call => ⟨fun b hb => ?_, fun m hm => ?_⟩,
    fun p => ⟨rfl, fun names hne => hbooks.catalogued.child?_eq_foldlM hne p⟩⟩
  · exact List.count_eq_one_of_mem (hbooks.nodup_childrenOf p) hc
  · exact Option.some.inj ((hbooks.parent?_of_mem hq).symm.trans (hbooks.parent?_of_mem hc))
  · rw [call.perform_eq, hb]
  · rw [call.perform_eq, hm]

end Atlas

end ApiAtlas
