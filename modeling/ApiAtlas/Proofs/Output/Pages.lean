import ApiAtlas.Output.SearchIndex
import ApiAtlas.Proofs.Output.Paths

/-!
# Pages

The search index has one row for each declaration that has a page of its own (`Atlas.IsPage`). It
looks at the declarations by age and upward for inline declarations around them; an outline goes
downward from the project. If nothing is external, both tell about the same entries, under the same
names and kinds.
-/

set_option autoImplicit false

namespace ApiAtlas

/-- The full name and the kind in a row. -/
def SearchRow.title (row : SearchRow) : String × String :=
  (row.fullName, row.kind.text)

namespace Atlas

/-- Whether an entry is an inline declaration or stands in one. -/
def InLiteral (a : Atlas) (i : EntryId) : Prop :=
  ∃ j e, Relation.ReflTransGen a.IsParent j i ∧ a.get? j = some e ∧ e.kind = .typeLiteral

/-- Whether an entry is a declaration with a page of its own. -/
structure IsPage (a : Atlas) (i : EntryId) : Prop where
  shown : ∃ e, a.get? i = some e ∧ e.isDeclaration = true ∧ e.flags.has .isExternal = false
  standing : ¬ a.InLiteral i

/-- Whether a row tells about an entry. -/
structure Tells (a : Atlas) (i : EntryId) (row : SearchRow) : Prop where
  entry : ∃ e, a.get? i = some e ∧ row.kind = e.kind ∧ row.name = e.name ∧
    a.parentName? e = .ok row.parent
  fullName : a.fullName i = .ok row.fullName

/-- Whether rows tell about some entries, which are the pages of an atlas by age, and are numbered
from zero. -/
structure ListsPages (a : Atlas) (pages : List EntryId) (rows : List SearchRow) : Prop where
  numbered : rows.map (·.id) = List.range rows.length
  byAge : pages.Pairwise (· < ·)
  mem_iff : ∀ i, i ∈ pages ↔ a.IsPage i
  tells : List.Forall₂ a.Tells pages rows

variable {a : Atlas} {i : EntryId} {e : Entry}

/-! ## Looking upward -/

/-- An entry stands in an inline declaration if it is one or its parent stands in one. -/
theorem inLiteral_iff (he : a.get? i = some e) :
    a.InLiteral i ↔ e.kind = .typeLiteral ∨ ∃ p, e.parent = some p ∧ a.InLiteral p := by
  constructor
  · rintro ⟨j, e', hji, he', hk⟩
    rcases hji.cases_tail with rfl | ⟨p, hjp, hpi⟩
    · exact .inl (Option.some.inj (he'.symm.trans he) ▸ hk)
    · exact .inr ⟨p, (parent?_eq he).symm.trans hpi, j, e', hjp, he', hk⟩
  · rintro (hk | ⟨p, hp, j, e', hjp, he', hk⟩)
    · exact ⟨i, e, .refl, he, hk⟩
    · exact ⟨j, e', hjp.tail ((parent?_eq he).trans hp), he', hk⟩

namespace Identified

variable (h : a.Identified)
include h

/-- Looking upward ends, and finds out whether an entry stands in an inline declaration. -/
theorem insideLiteral_ok {steps : Nat} (hi : i < a.size) (hsteps : i < steps) :
    ∃ b, a.insideLiteral steps i = .ok b ∧ (b = true ↔ a.InLiteral i) := by
  induction steps generalizing i with
  | zero => exact absurd hsteps (Nat.not_lt_zero i)
  | succ steps ih =>
    obtain ⟨e, he⟩ := exists_get? hi
    rw [insideLiteral, he]
    dsimp only
    rw [inLiteral_iff he]
    split
    · next hk => exact ⟨true, rfl, iff_of_true rfl (.inl hk)⟩
    · next hk =>
      cases hp : e.parent with
      | none => exact ⟨false, rfl, by simp [hk]⟩
      | some p =>
        have hlt := h.parent?_lt ((parent?_eq he).trans hp)
        obtain ⟨b, hb, hiff⟩ := ih (Nat.lt_trans hlt hi)
          (Nat.lt_of_lt_of_le hlt (Nat.le_of_lt_succ hsteps))
        exact ⟨b, hb, by simp [hk, hiff]⟩

/-- Whether a declaration has a page can be told, and is told rightly. -/
theorem hasPage_ok (he : a.get? i = some e) (hd : e.isDeclaration = true) :
    ∃ b, a.hasPage i e = .ok b ∧ (b = true ↔ a.IsPage i) := by
  have shown : (∃ e, a.get? i = some e ∧ e.isDeclaration = true ∧
      e.flags.has .isExternal = false) ↔ e.flags.has .isExternal = false := by
    simp [he, hd]
  rw [hasPage]
  split
  · next hext =>
    refine ⟨false, rfl, iff_of_false Bool.false_ne_true fun hpage => ?_⟩
    exact Bool.false_ne_true ((shown.1 hpage.shown).symm.trans hext)
  · next hext =>
    obtain ⟨b, hb, hiff⟩ := h.insideLiteral_ok (get?_lt he) (Nat.lt_succ_of_lt (get?_lt he))
    refine ⟨!b, by rw [hb]; rfl, ?_⟩
    rw [Bool.not_eq_true', ← Bool.not_eq_true, hiff]
    exact ⟨fun hno => ⟨shown.2 (Bool.eq_false_iff.2 hext), hno⟩, (·.standing)⟩

/-- The name of what a declaration stands in can be told. -/
theorem parentName?_ok (he : a.get? i = some e) : ∃ name, a.parentName? e = .ok name := by
  unfold parentName?
  cases hp : e.parent with
  | none => exact ⟨none, rfl⟩
  | some p =>
    have hlt := h.parent?_lt ((parent?_eq he).trans hp)
    obtain ⟨q, hq⟩ := exists_get? (Nat.lt_trans hlt (get?_lt he))
    dsimp only
    rw [hq]
    dsimp only
    split
    · exact ⟨none, rfl⟩
    · obtain ⟨name, hname⟩ := h.fullName_ok (get?_lt hq)
      exact ⟨some name, by rw [hname]; rfl⟩

/-- A row is added for a page and for nothing else. -/
theorem addRow_ok (rows : List SearchRow) (hd : a.isDeclaration i = true) :
    (a.IsPage i ∧ ∃ row, a.addRow rows i = .ok (rows ++ [row]) ∧ row.id = rows.length ∧
      a.Tells i row) ∨ (¬ a.IsPage i ∧ a.addRow rows i = .ok rows) := by
  obtain ⟨e, he⟩ := exists_get? (lt_of_isDeclaration hd)
  have hdecl : e.isDeclaration = true := by rwa [isDeclaration_eq he] at hd
  obtain ⟨b, hb, hiff⟩ := h.hasPage_ok he hdecl
  obtain ⟨name, hname⟩ := h.fullName_ok (get?_lt he)
  obtain ⟨above, habove⟩ := h.parentName?_ok he
  have hrow : a.addRow rows i =
      if b then .ok (rows ++ [⟨rows.length, e.kind, e.name, name, above⟩]) else .ok rows := by
    simp only [addRow, fetch, he, hb, hname, habove, bind, Except.bind]
  rw [hrow]
  cases b with
  | true => exact .inl ⟨hiff.1 rfl, _, rfl, rfl, ⟨e, he, rfl, rfl, habove⟩, hname⟩
  | false => exact .inr ⟨fun hpage => Bool.false_ne_true (hiff.2 hpage), rfl⟩

/-- The rows that are added for some declarations. -/
theorem foldlM_addRow {ids : List EntryId} (hids : ∀ i ∈ ids, a.isDeclaration i = true)
    (rows : List SearchRow) :
    ∃ pages more, ids.foldlM a.addRow rows = .ok (rows ++ more) ∧
      more.map (·.id) = List.range' rows.length more.length ∧ pages.Sublist ids ∧
      (∀ i, i ∈ pages ↔ i ∈ ids ∧ a.IsPage i) ∧ List.Forall₂ a.Tells pages more := by
  induction ids generalizing rows with
  | nil => exact ⟨[], [], by rw [List.append_nil]; rfl, rfl, .slnil, by simp, .nil⟩
  | cons i ids ih =>
    obtain ⟨hd, hids⟩ := List.forall_mem_cons.1 hids
    rcases h.addRow_ok rows hd with ⟨hpage, row, hrow, hid, htells⟩ | ⟨hno, hrow⟩
    · obtain ⟨pages, more, hfold, hnumbers, hsub, hmem, hall⟩ := ih hids (rows ++ [row])
      refine ⟨i :: pages, row :: more, ?_, ?_, hsub.cons_cons i, fun j => ?_, .cons htells hall⟩
      · rw [List.foldlM_cons, hrow]
        exact hfold.trans (by rw [List.append_assoc]; rfl)
      · rw [List.map_cons, hnumbers, hid, List.length_append, List.length_cons]
        rfl
      · rw [List.mem_cons, List.mem_cons, hmem, or_and_right]
        refine or_congr_left (iff_self_and.2 ?_)
        rintro rfl
        exact hpage
    · obtain ⟨pages, more, hfold, hnumbers, hsub, hmem, hall⟩ := ih hids rows
      refine ⟨pages, more, ?_, hnumbers, hsub.cons i, fun j => ?_, hall⟩
      · rw [List.foldlM_cons, hrow]
        exact hfold
      · rw [hmem, List.mem_cons, or_and_right]
        refine (or_iff_right ?_).symm
        rintro ⟨rfl, hpage⟩
        exact hno hpage

/-- The search index lists the pages. -/
theorem searchIndex_ok : ∃ pages rows, a.searchIndex = .ok rows ∧ a.ListsPages pages rows := by
  have hdecls : ∀ i ∈ a.declarations, a.isDeclaration i = true := fun i hi =>
    (List.mem_filter.1 hi).2
  obtain ⟨pages, rows, hfold, hnumbers, hsub, hmem, hall⟩ := h.foldlM_addRow hdecls []
  refine ⟨pages, rows, hfold, ⟨?_, ?_, fun i => ?_, hall⟩⟩
  · rw [hnumbers, List.length_nil, List.range_eq_range']
  · exact (List.pairwise_lt_range.sublist List.filter_sublist).sublist hsub
  · rw [hmem, and_iff_right_iff_imp]
    rintro ⟨⟨e, he, hd, -⟩, -⟩
    refine List.mem_filter.2 ⟨List.mem_range.2 (get?_lt he), ?_⟩
    rwa [isDeclaration_eq he]

end Identified

/-! ## Looking downward -/

/-- An entry with a child has members. -/
theorem isSome_members_of_child {c : EntryId} (he : a.get? i = some e)
    (hc : c ∈ a.childrenOf i) : e.members?.isSome = true := by
  rw [childrenOf_eq he] at hc
  cases hm : e.members? with
  | none => simp [hm] at hc
  | some m => rfl

namespace Charted

variable (h : a.Charted)
include h

/-- What is reached from the project by way of children are the declarations that stand in no
inline one. -/
theorem reaches_iff : i ≠ root ∧ Reaches a.childrenOf root i ↔
    a.isDeclaration i = true ∧ ¬ a.InLiteral i := by
  obtain ⟨e₀, m₀, he₀, hb₀, hk₀, hp₀⟩ := h.identified.project
  constructor
  · rintro ⟨hne, hreach⟩
    have outside : ¬ a.InLiteral i := by
      clear hne
      induction hreach with
      | refl => simp [inLiteral_iff he₀, hk₀, hp₀]
      | @tail p c _ hc ih =>
        obtain ⟨e, he, hn⟩ := h.lists.named p c hc
        have hp := (parent?_eq he).symm.trans (h.placed.parent p c hc)
        simp [inLiteral_iff he, hn.2, hp, ih]
    rcases hreach.cases_tail with heq | ⟨p, -, hc⟩
    · exact absurd heq hne
    · obtain ⟨e, he, hn⟩ := h.lists.named p i hc
      exact ⟨(isDeclaration_eq he).trans hn.1, outside⟩
  · rintro ⟨hd, hout⟩
    induction i using Nat.strongRecOn with
    | ind i ih =>
      obtain ⟨e, he⟩ := exists_get? (lt_of_isDeclaration hd)
      have hn : e.IsNamed := ⟨(isDeclaration_eq he).symm.trans hd, fun hk =>
        hout ((inLiteral_iff he).2 (.inl hk))⟩
      have hne : i ≠ root := by
        rintro rfl
        rw [isDeclaration_eq he₀, Entry.isDeclaration, Entry.details?, hb₀] at hd
        cases hd
      refine ⟨hne, ?_⟩
      obtain ⟨p, hp, hlt⟩ := h.identified.exists_parent (get?_lt he) hne
      have hep : e.parent = some p := (parent?_eq he).symm.trans hp
      have hc : i ∈ a.childrenOf p := h.placed.listed i e p he hn hep
      by_cases hroot : p = root
      · exact .single (hroot ▸ hc)
      · obtain ⟨q, hq⟩ := exists_get? (Nat.lt_trans hlt (get?_lt he))
        have hq' := h.legible.container p q hq hroot (isSome_members_of_child hq hc)
        exact (ih p hlt ((isDeclaration_eq hq).trans hq') fun hlit =>
          hout ((inLiteral_iff he).2 (.inr ⟨p, hep, hlit⟩))).2.tail hc

/-- What an outline walks over are the declarations that stand in no inline one. -/
theorem mem_tail_preorder : i ∈ (preorder a.childrenOf (a.size + 1) root).tail ↔
    a.isDeclaration i = true ∧ ¬ a.InLiteral i := by
  have hnodup := h.branches.nodup_preorder h.identified (a.size + 1) root
  rw [← h.reaches_iff]
  rw [preorder_eq_cons] at hnodup
  have hroot := (List.nodup_cons.1 hnodup).1
  constructor
  · intro hi
    have hmem : i ∈ preorder a.childrenOf (a.size + 1) root := by
      rw [preorder_eq_cons]
      exact List.mem_cons_of_mem _ hi
    exact ⟨fun heq => hroot (heq ▸ hi), reaches_of_mem_preorder hmem⟩
  · rintro ⟨hne, hreach⟩
    have hlt : i < a.size := by
      rcases hreach.cases_tail with heq | ⟨p, -, hc⟩
      · exact absurd heq hne
      · exact h.identified.children p i hc
    have hdepth : i ≤ root + (a.size + 1) :=
      Nat.le_trans (Nat.le_of_lt hlt) (Nat.le_trans (Nat.le_succ _) (Nat.le_add_left ..))
    have hmem := h.branches.mem_preorder h.identified hreach hdepth
    rw [preorder_eq_cons] at hmem
    exact (List.mem_cons.1 hmem).resolve_left hne

end Charted

/-- The row that tells about an entry has its title. -/
theorem Tells.title {row : SearchRow} (h : a.Tells i row) : row.title = a.title i := by
  obtain ⟨⟨e, he, hkind, -⟩, hname⟩ := h
  rw [Atlas.title, hname, he, SearchRow.title, hkind]
  rfl

/-- Rows that tell about pages have their full names and kinds. -/
theorem titles_eq {pages : List EntryId} {rows : List SearchRow}
    (h : List.Forall₂ a.Tells pages rows) : rows.map SearchRow.title = pages.map a.title := by
  induction h with
  | nil => rfl
  | cons htells _ ih => rw [List.map_cons, List.map_cons, htells.title, ih]

/-- If nothing is external, search index and outline have the same titles. -/
theorem Charted.perm_titles (h : a.Charted) {pages : List EntryId} {rows : List SearchRow}
    (hpages : a.ListsPages pages rows)
    (hext : ∀ i e, a.get? i = some e → e.isDeclaration = true →
      e.flags.has .isExternal = false) :
    (rows.map SearchRow.title).Perm
      ((a.rowsAt (a.size + 1) "" root).map OutlineRow.title) := by
  have hperm : pages.Perm (preorder a.childrenOf (a.size + 1) root).tail := by
    refine (List.perm_ext_iff_of_nodup (hpages.byAge.imp Nat.ne_of_lt) ?_).2 fun i => ?_
    · exact (h.branches.nodup_preorder h.identified _ root).sublist (List.tail_sublist _)
    · rw [h.mem_tail_preorder, hpages.mem_iff]
      constructor
      · rintro ⟨⟨e, he, hd, -⟩, hout⟩
        exact ⟨(isDeclaration_eq he).trans hd, hout⟩
      · rintro ⟨hd, hout⟩
        obtain ⟨e, he⟩ := exists_get? (lt_of_isDeclaration hd)
        rw [isDeclaration_eq he] at hd
        exact ⟨⟨e, he, hd, hext i e he hd⟩, hout⟩
  rw [h.titles_rowsAt _ .project, titles_eq hpages.tells]
  exact hperm.map _

end Atlas

/-- The search index of a converted program has one row for each declaration that is neither
external nor stands in an inline declaration, by age and numbered from zero; if no declaration is
external, its full names and kinds are the paths and kinds of the outline. -/
theorem convert_searchIndex {settings : Settings} {files : List Source.File} {d : Draft}
    {r : Resolved} (h : Program.convert settings files = .ok (d, r)) :
    ∃ pages rows, r.atlas.searchIndex = .ok rows ∧ r.atlas.ListsPages pages rows ∧
      ((∀ i e, r.atlas.get? i = some e → e.isDeclaration = true →
          e.flags.has .isExternal = false) →
        ∃ outlined, r.atlas.outline = .ok outlined ∧
          (rows.map SearchRow.title).Perm (outlined.map OutlineRow.title)) := by
  have hcharted := Atlas.convert_charted h
  obtain ⟨pages, rows, hrows, hpages⟩ := hcharted.identified.searchIndex_ok
  exact ⟨pages, rows, hrows, hpages, fun hext =>
    ⟨_, hcharted.identified.outline_eq hcharted.placed.parent, hcharted.perm_titles hpages hext⟩⟩

/-- The search index and the outline of a class with a method and a property, whose inline type has
members without pages. -/
theorem inline_members_searchIndex :
    let file : Source.File :=
      { name := "a.ts",
        decls :=
          [{ kind := .class, name := some "A", symbol := some "A",
             children :=
               [{ kind := .property, name := some "p", symbol := some "A.p",
                  type := some
                    { form := .object,
                      members :=
                        [{ kind := .property, name := some "q", symbol := some "A.p.q" }] } },
                { kind := .method, name := some "m", symbol := some "A.m" }] }] }
    ∃ d r, Program.convert {} [file] = .ok (d, r) ∧
      (∀ i e, r.atlas.get? i = some e → e.isDeclaration = true →
        e.flags.has .isExternal = false) ∧
      ∃ pages rows outlined, r.atlas.searchIndex = .ok rows ∧ rows.length = 3 ∧
        r.atlas.ListsPages pages rows ∧ r.atlas.outline = .ok outlined ∧
        (rows.map SearchRow.title).Perm (outlined.map OutlineRow.title) := by
  intro file
  have hmade : (Program.convert {} [file]).toOption.map (fun made =>
      (made.2.atlas.entries.toList.all fun e => !(e.flags.has .isExternal),
        made.2.atlas.searchIndex.toOption.map (·.length))) = some (true, some 3) := by
    decide +kernel
  cases hconvert : Program.convert {} [file] with
  | error e =>
    rw [hconvert] at hmade
    cases hmade
  | ok made =>
    obtain ⟨d, r⟩ := made
    rw [hconvert] at hmade
    obtain ⟨hall, hlength⟩ := Prod.mk.inj (Option.some.inj hmade)
    have hext : ∀ i e, r.atlas.get? i = some e → e.isDeclaration = true →
        e.flags.has .isExternal = false := by
      intro i e he _
      have hmem : e ∈ r.atlas.entries.toList :=
        Array.mem_toList_iff.2 (Array.mem_of_getElem? he)
      simpa using List.all_eq_true.1 hall e hmem
    obtain ⟨pages, rows, hrows, hpages, hagree⟩ := convert_searchIndex hconvert
    obtain ⟨outlined, houtlined, hperm⟩ := hagree hext
    rw [hrows] at hlength
    exact ⟨d, r, rfl, hext, pages, rows, outlined, hrows, Option.some.inj hlength, hpages,
      houtlined, hperm⟩

end ApiAtlas
