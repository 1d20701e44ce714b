import ApiAtlas.Source.Reading.Basic

/-!
# Readings that go alike

A file is read twice, and the second reading binds names that the first one only notes. `Alike`
compares two readings of one text: they fail alike, or they take the same notes, whatever either of
them binds names to. It also says what the first of the two yields, as far as the names that it
met are among some mentions. A reading that binds nothing is `Steady`.
-/

set_option autoImplicit false

namespace ApiAtlas.Source

/-- The same page with names bound otherwise. -/
def Page.rebind (bind : List String → String → String) (page : Page) : Page :=
  { page with bind := bind }

/-- The same place with names bound otherwise. -/
def Place.rebind (bind : List String → String → String) (p : Place) : Place :=
  { p with page := p.page.rebind bind }

/-- Whether a reference means what a page binds its name to, under a name and scopes that are among
the mentions. -/
def Page.Binds (page : Page) (mentions : List (List String × String)) (scopes : List String)
    (t : TypeExpr) : Prop :=
  ∃ name, t.name = some name ∧ t.symbol = some (page.bind scopes name) ∧ (scopes, name) ∈ mentions

namespace Reading

variable {α β : Type}

/-- A reading that keeps the mentions in the notes and yields what is required. -/
def Steady (m : Reading α) (P : α → Prop) : Prop :=
  ∀ n a k, m.run n = .ok (a, k) → n.mentions ⊆ k.mentions ∧ P a

/-- Two readings that fail alike or else take the same notes, which keep the mentions; the first of
them yields what is required if the names that it met are among the given mentions. -/
def Alike (mentions : List (List String × String)) (m m' : Reading α) (P : α → Prop) : Prop :=
  ∀ n, (∃ fault, m.run n = .error fault ∧ m'.run n = .error fault) ∨
    ∃ a a' k, m.run n = .ok (a, k) ∧ m'.run n = .ok (a', k) ∧ n.mentions ⊆ k.mentions ∧
      (k.mentions ⊆ mentions → P a)

/-- Two readings that are both missing, or both there and go alike. -/
def Alike? (mentions : List (List String × String)) (r r' : Option (Reading α)) (P : α → Prop) :
    Prop :=
  (r = none ∧ r' = none) ∨ ∃ m m', r = some m ∧ r' = some m' ∧ Alike mentions m m' P

variable {mentions : List (List String × String)} {m m' : Reading α} {P P' : α → Prop}
  {f f' : α → Reading β} {Q : β → Prop}

/-! ## Steady readings -/

namespace Steady

/-- Yielding a value keeps the mentions. -/
theorem pure {a : α} (h : P a) : Steady (Pure.pure a) P := by
  intro n b k hrun
  cases hrun
  exact ⟨List.Subset.refl _, h⟩

/-- A failure keeps the mentions. -/
theorem throw (fault : Text.Utf8.Fault) : Steady (throw fault : Reading α) P := by
  intro n a k hrun
  cases hrun

/-- Two readings in turn keep the mentions when each of them does. -/
theorem bind (hm : Steady m P) (hf : ∀ a, P a → Steady (f a) Q) : Steady (m >>= f) Q := by
  intro n b k hrun
  rw [StateT.run_bind] at hrun
  cases hfirst : m.run n with
  | error fault =>
    rw [hfirst] at hrun
    cases hrun
  | ok first =>
    rw [hfirst] at hrun
    obtain ⟨hmentions, ha⟩ := hm n first.1 first.2 hfirst
    obtain ⟨hmore, hb⟩ := hf first.1 ha first.2 b k hrun
    exact ⟨List.Subset.trans hmentions hmore, hb⟩

/-- A steady reading is steady with less required of what it yields. -/
theorem mono (h : Steady m P) (hP : ∀ a, P a → P' a) : Steady m P' := fun n a k hrun =>
  ⟨(h n a k hrun).1, hP a (h n a k hrun).2⟩

/-- A change of the notes that keeps the mentions is steady. -/
theorem modify {g : Notes → Notes} (hg : ∀ n, n.mentions ⊆ (g n).mentions) :
    Steady (modify g : Reading Unit) fun _ => True := by
  intro n a k hrun
  cases hrun
  exact ⟨hg n, trivial⟩

/-- Readings of a list keep the mentions when each of them does. -/
theorem forM {ts : List α} {f : α → Reading Unit} (h : ∀ t, Steady (f t) fun _ => True) :
    Steady (ts.forM f) fun _ => True := by
  induction ts with
  | nil => exact .pure trivial
  | cons t ts ih => exact .bind (h t) fun _ _ => ih

end Steady

/-! ## Rules -/

namespace Alike

/-- Yielding two values goes alike if the first one is as required. -/
theorem pure {a a' : α} (h : P a) : Alike mentions (Pure.pure a) (Pure.pure a') P := fun n =>
  .inr ⟨a, a', n, rfl, rfl, List.Subset.refl _, fun _ => h⟩

/-- What is read second may depend on what was read first, but not on what names were bound to. -/
theorem bind (hm : Alike mentions m m' P)
    (hf : ∀ a a', Alike mentions (f a) (f' a') fun b => P a → Q b) :
    Alike mentions (m >>= f) (m' >>= f') Q := by
  intro n
  rw [StateT.run_bind, StateT.run_bind]
  rcases hm n with ⟨fault, herror, herror'⟩ | ⟨a, a', k, hok, hok', hmentions, ha⟩
  · exact .inl ⟨fault, by rw [herror]; rfl, by rw [herror']; rfl⟩
  rw [hok, hok']
  rcases hf a a' k with hfault | ⟨b, b', l, hok, hok', hmore, hb⟩
  · exact .inl hfault
  · refine .inr ⟨b, b', l, hok, hok', List.Subset.trans hmentions hmore, fun hl => ?_⟩
    exact hb hl (ha (List.Subset.trans hmore hl))

/-- What is known of the values that are read may be weakened. -/
theorem mono (h : Alike mentions m m' P) (hP : ∀ a, P a → P' a) : Alike mentions m m' P' := by
  intro n
  refine (h n).imp_right ?_
  rintro ⟨a, a', k, hok, hok', hmentions, ha⟩
  exact ⟨a, a', k, hok, hok', hmentions, fun hk => hP a (ha hk)⟩

/-- A steady reading goes alike with itself. -/
theorem of_steady (h : Steady m P) : Alike mentions m m P := by
  intro n
  cases hrun : m.run n with
  | error fault => exact .inl ⟨fault, rfl, rfl⟩
  | ok r =>
    obtain ⟨hmentions, hr⟩ := h n r.1 r.2 hrun
    exact .inr ⟨r.1, r.1, r.2, rfl, rfl, hmentions, fun _ => hr⟩

/-- After a steady reading both readings go on with the same value. -/
theorem steady_bind (hm : Steady m P) (hf : ∀ a, P a → Alike mentions (f a) (f' a) Q) :
    Alike mentions (m >>= f) (m >>= f') Q := by
  intro n
  rw [StateT.run_bind, StateT.run_bind]
  cases hrun : m.run n with
  | error fault => exact .inl ⟨fault, rfl, rfl⟩
  | ok first =>
    obtain ⟨hmentions, ha⟩ := hm n first.1 first.2 hrun
    refine (hf first.1 ha first.2).imp_right ?_
    rintro ⟨b, b', k, hok, hok', hmore, hb⟩
    exact ⟨b, b', k, hok, hok', List.Subset.trans hmentions hmore, hb⟩

/-- Readings that go alike still do when their results are mapped. -/
theorem map {g : α → β} (h : Alike mentions m m' P) (hg : ∀ a, P a → Q (g a)) :
    Alike mentions (g <$> m) (g <$> m') Q := by
  rw [map_eq_pure_bind, map_eq_pure_bind]
  exact .bind h fun a a' => .pure (hg a)

/-- One reading and then those of a list. -/
theorem cons {k k' : Reading (List α)} (h : Alike mentions m m' P)
    (h' : Alike mentions k k' fun as => ∀ a ∈ as, P a) :
    Alike mentions (do return (← m) :: (← k)) (do return (← m') :: (← k')) fun as =>
      ∀ a ∈ as, P a := by
  refine .bind h fun a a' => .bind h' fun as as' => .pure ?_
  intro has ha
  exact List.forall_mem_cons.2 ⟨ha, has⟩

/-- Readings of two lists one after the other. -/
theorem append {k k' l l' : Reading (List α)} (h : Alike mentions k k' fun as => ∀ a ∈ as, P a)
    (h' : Alike mentions l l' fun as => ∀ a ∈ as, P a) :
    Alike mentions (do return (← k) ++ (← l)) (do return (← k') ++ (← l')) fun as =>
      ∀ a ∈ as, P a := by
  refine .bind h fun as as' => .bind h' fun more more' => .pure ?_
  intro hmore has
  exact List.forall_mem_append.2 ⟨has, hmore⟩

/-- Readings of a list go alike when each of them does. -/
theorem mapM {ι : Type} {ts : List ι} {f f' : ι → Reading α}
    (h : ∀ t, Alike mentions (f t) (f' t) P) :
    Alike mentions (ts.mapM f) (ts.mapM f') fun as => ∀ a ∈ as, P a := by
  induction ts with
  | nil => exact .pure (List.forall_mem_nil _)
  | cons t ts ih =>
    rw [List.mapM_cons, List.mapM_cons]
    exact .cons (h t) ih

/-- A name that is noted and bound. -/
theorem reference (p : Place) (bind : List String → String → String) (name : String) :
    Alike mentions (reference p name) (reference (p.rebind bind) name) fun t =>
      t = .ofReference name (some (p.page.bind p.scopes name)) ∧ (p.scopes, name) ∈ mentions := by
  intro n
  refine .inr ⟨_, _, { n with mentions := n.mentions ++ [(p.scopes, name)] }, rfl, rfl, ?_, ?_⟩
  · exact List.subset_append_left _ _
  · intro h
    exact ⟨rfl, h (List.mem_append_right _ (List.mem_singleton_self _))⟩

end Alike

/-- Missing readings go alike. -/
theorem Alike?.none : Alike? mentions Option.none Option.none P :=
  .inl ⟨rfl, rfl⟩

/-- Readings that are there and go alike do so as readings that may be missing. -/
theorem Alike?.some (h : Alike mentions m m' P) :
    Alike? mentions (Option.some m) (Option.some m') P :=
  .inr ⟨m, m', rfl, rfl, h⟩

/-- A reading that may be missing, with another one in its place. -/
theorem Alike?.getD {r r' : Option (Reading α)} (h : Alike? mentions r r' P)
    (hm : Alike mentions m m' P) : Alike mentions (r.getD m) (r'.getD m') P := by
  rcases h with ⟨rfl, rfl⟩ | ⟨k, k', rfl, rfl, h⟩
  · exact hm
  · exact h

/-- One of two readings goes alike when both do. -/
theorem Alike?.or {r r' s s' : Option (Reading α)} (h : Alike? mentions r r' P)
    (h' : Alike? mentions s s' P) : Alike? mentions (r.or s) (r'.or s') P := by
  rcases h with ⟨rfl, rfl⟩ | ⟨k, k', rfl, rfl, h⟩
  · exact h'
  · exact .some h

end Reading

end ApiAtlas.Source
