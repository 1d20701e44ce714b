import ApiAtlas.Proofs.Inheritance.Heritage

/-!
# Copies of members

Inheritance does nothing to a program but give copies of inheritable members to declarations, also
where classes extend each other in a circle. What every gift keeps therefore holds of the program
with inherited members (`Inheriting.run_induction`). In particular the program without its copies
is the one that was written (`uncopied_inheritMembers`).
-/

set_option autoImplicit false

namespace ApiAtlas.Source

/-- The declaration with more members at its end. -/
def Decl.gain (more : List Decl) (d : Decl) : Decl :=
  { d with children := d.children ++ more }

/-- Whether a declaration is the copy of an inheritable member of a program with a property. -/
def CopiedFrom (I : List Decl → Prop) (c : Decl) : Prop :=
  ∃ ds, I ds ∧ ∃ m ∈ standing ds, m.isInheritable = true ∧ ∃ D, c = m.inheritedBy D

mutual

/-- The declaration without the copies below it. -/
def Decl.uncopied : Decl → Decl
  | ⟨kind, name, symbol, children, modifiers, type, signature, typeParameters, bases, interfaces,
      comment, defaultValue, origin, file, line, form⟩ =>
    ⟨kind, name, symbol, uncopied children, modifiers, type, signature, typeParameters, bases,
      interfaces, comment, defaultValue, origin, file, line, form⟩

/-- Some declarations without those that are copies, at any depth. -/
def uncopied : List Decl → List Decl
  | [] => []
  | d :: ds => if d.origin.isSome then uncopied ds else d.uncopied :: uncopied ds

end

/-- The file without the members that were copied. -/
def File.uncopied (f : File) : File :=
  { f with decls := Source.uncopied f.decls }

variable {I : List Decl → Prop} {H : Decl → Prop} {ds more : List Decl} {m d : Decl}

/-- The members that the table finds stand in the program. -/
theorem mem_standing_of_mem_membersOf {classes : ClassTable} {D : String}
    (h : m ∈ classes.membersOf ds D) : m ∈ standing ds := by
  obtain ⟨d, hd, hm⟩ := List.mem_flatMap.1 h
  obtain ⟨a, -, ha⟩ := List.mem_filterMap.1 hd
  exact standing_children_subset (mem_standing_of_declAt? ha) (subset_standing _ hm)

namespace Inheriting

/-- What gifts of copies keep is kept when a class is completed. -/
theorem complete_induction
    (give : ∀ ds p more, I ds → (∀ c ∈ more, CopiedFrom I c) → I (changeAt (Decl.gain more) p ds))
    (classes : ClassTable) (idle : List String) (s : Inheriting) (D : String) (hs : I s.decls) :
    I (complete classes idle s D).decls := by
  induction hn : idle.length using Nat.strongRecOn generalizing idle s D with
  | ind n ih =>
    by_cases hidle : D ∈ idle
    case neg =>
      rw [complete, dif_neg hidle]
      exact hs
    by_cases hdone : D ∈ s.done
    case pos =>
      rw [complete, dif_pos hidle, if_pos (List.contains_iff_mem.2 hdone)]
      exact hs
    have hlength : (idle.erase D).length < n := by
      have hpositive := List.length_pos_of_mem hidle
      rw [List.length_erase_of_mem hidle, ← hn]
      omega
    rw [complete_eq hidle hdone]
    -- While the bases are gone through, everything that is to be given is a copy.
    have hthrough : ∀ (bases : List String)
        (state : Inheriting × List (Option String × Bool) × List Decl),
        I state.1.decls → (∀ c ∈ state.2.2, CopiedFrom I c) →
        I (bases.foldl (baseStep classes (complete classes (idle.erase D)) D) state).1.decls ∧
          ∀ c ∈ (bases.foldl (baseStep classes (complete classes (idle.erase D)) D) state).2.2,
            CopiedFrom I c := by
      intro bases
      induction bases with
      | nil => exact fun state hdecls hcopies => ⟨hdecls, hcopies⟩
      | cons b bases ihbases =>
        intro state hdecls hcopies
        have hbase := ih _ hlength (idle.erase D) state.1 b hdecls rfl
        refine ihbases _ hbase (List.forall_mem_append.2 ⟨hcopies, fun c hc => ?_⟩)
        obtain ⟨m, hm, rfl⟩ := List.mem_map.1 hc
        obtain ⟨hmember, hkept⟩ := List.mem_filter.1 hm
        exact ⟨_, hbase, m, mem_standing_of_mem_membersOf hmember,
          (Bool.and_eq_true _ _ ▸ hkept).1, D, rfl⟩
    obtain ⟨hdecls, hcopies⟩ := hthrough (classes.basesOf s.decls D)
      (s, (classes.membersOf s.decls D).map Decl.key, []) hs (List.forall_mem_nil _)
    exact give _ _ _ hdecls hcopies

/-- What gifts of copies keep holds of the program with inherited members. -/
theorem run_induction
    (give : ∀ ds p more, I ds → (∀ c ∈ more, CopiedFrom I c) → I (changeAt (Decl.gain more) p ds))
    (hds : I ds) : I (run ds).decls := by
  have hkeys : ∀ (keys : List String) (s : Inheriting), I s.decls →
      I (keys.foldl (complete (ClassTable.ofDecls ds) (ClassTable.ofDecls ds).keys) s).decls := by
    intro keys
    induction keys with
    | nil => exact fun s hs => hs
    | cons D keys ih => exact fun s hs => ih _ (complete_induction give _ _ s D hs)
  exact hkeys _ { decls := ds } hds

end Inheriting

/-! ## What holds of every declaration -/

/-- Something holds of all that stands in a program just when it holds of each declaration and of
all that stands among its children. -/
theorem forall_mem_standing_iff :
    (∀ e ∈ standing ds, H e) ↔ ∀ d ∈ ds, H d ∧ ∀ e ∈ standing d.children, H e := by
  constructor
  · exact fun h d hd => ⟨h d (subset_standing ds hd), fun e he =>
      h e (standing_children_subset (subset_standing ds hd) he)⟩
  · intro h e he
    obtain ⟨d, hd, hstands⟩ := mem_standing.1 he
    rcases hstands with rfl | hstands
    · exact (h e hd).1
    · exact (h d hd).2 e hstands

/-- A declaration of a modified list was in it, or is the result of the change. -/
theorem mem_modify {f : Decl → Decl} {i : Nat} (h : d ∈ ds.modify i f) :
    d ∈ ds ∨ ∃ e ∈ ds, d = f e := by
  obtain ⟨j, hj⟩ := List.mem_iff_getElem?.1 h
  rw [List.getElem?_modify] at hj
  split at hj
  · obtain ⟨e, he, rfl⟩ := Option.map_eq_some_iff.1 hj
    exact .inr ⟨e, List.mem_of_getElem? he, rfl⟩
  · exact .inl (List.mem_of_getElem? (Option.map_id'.symm.trans hj))

/-- What holds of all declarations, whatever children they have, holds of all of them after some
that it holds of were added. -/
theorem forall_standing_changeAt (hchildren : ∀ d cs, H d → H { d with children := cs })
    (hds : ∀ e ∈ standing ds, H e) (hmore : ∀ e ∈ standing more, H e) (p : Address) :
    ∀ e ∈ standing (changeAt (Decl.gain more) p ds), H e := by
  induction p generalizing ds with
  | nil => exact hds
  | cons i p ih =>
    have hold := forall_mem_standing_iff.1 hds
    cases p with
    | nil =>
      refine forall_mem_standing_iff.2 fun d hd => ?_
      rcases mem_modify hd with hd | ⟨e, he, rfl⟩
      · exact hold d hd
      · refine ⟨hchildren e _ (hold e he).1, ?_⟩
        change ∀ c ∈ standing (e.children ++ more), H c
        rw [standing_append, List.forall_mem_append]
        exact ⟨(hold e he).2, hmore⟩
    | cons j p =>
      refine forall_mem_standing_iff.2 fun d hd => ?_
      rcases mem_modify hd with hd | ⟨e, he, rfl⟩
      · exact hold d hd
      · exact ⟨hchildren e _ (hold e he).1, ih (hold e he).2⟩

/-- What holds of every declaration of a program, whatever children it has, and of the copies of
what it holds of, holds of every declaration of the program with inherited members; and so does what
is kept when copies of such declarations are given. -/
theorem Inheriting.run_induction_standing (hchildren : ∀ d cs, H d → H { d with children := cs })
    (hcopy : ∀ D d, H d → d.isInheritable = true → H (d.inheritedBy D))
    (give : ∀ ds p more, I ds →
      (∀ c ∈ more, ∃ D d, H d ∧ d.isInheritable = true ∧ c = d.inheritedBy D) →
      I (changeAt (Decl.gain more) p ds))
    (hH : ∀ d ∈ standing ds, H d) (hI : I ds) :
    (∀ d ∈ standing (run ds).decls, H d) ∧ I (run ds).decls := by
  refine run_induction (I := fun ds => (∀ d ∈ standing ds, H d) ∧ I ds) ?_ ⟨hH, hI⟩
  rintro ds p more ⟨hds, hI⟩ hmore
  refine ⟨forall_standing_changeAt hchildren hds (forall_mem_standing_iff.2 fun c hc => ?_) p,
    give ds p more hI fun c hc => ?_⟩
  · obtain ⟨ds', ⟨hds', -⟩, m, hm, hinheritable, D, rfl⟩ := hmore c hc
    refine ⟨hcopy D m (hds' m hm) hinheritable, fun e he => ?_⟩
    rw [Decl.inheritedBy_children] at he
    exact hds' e (standing_children_subset hm he)
  · obtain ⟨ds', ⟨hds', -⟩, m, hm, hinheritable, D, rfl⟩ := hmore c hc
    exact ⟨D, m, hds' m hm, hinheritable, rfl⟩

/-! ## Programs without their copies -/

/-- Taking copies away from a declaration changes its children only. -/
theorem Decl.uncopied_eq (d : Decl) :
    d.uncopied = { d with children := Source.uncopied d.children } := by
  cases d
  rw [uncopied]

/-- Copies are taken away from two lists one after the other. -/
theorem uncopied_append (ds es : List Decl) : uncopied (ds ++ es) = uncopied ds ++ uncopied es := by
  induction ds with
  | nil => rfl
  | cons d ds ih =>
    rw [List.cons_append, uncopied, uncopied, ih]
    split <;> rfl

/-- Where there are no copies, nothing is left out. -/
theorem uncopied_eq_self (h : ∀ d ∈ standing ds, d.origin = none) : uncopied ds = ds := by
  induction ds using decls_induction with
  | nil => rfl
  | cons d ds ihchildren ih =>
    rw [standing, Decl.inner_eq, List.forall_mem_cons, List.forall_mem_append] at h
    obtain ⟨hd, hchildren, hds⟩ := h
    rw [uncopied, hd, ih hds, Decl.uncopied_eq, ihchildren hchildren]
    cases d
    rfl

/-- Nothing is left of copies when copies are taken away. -/
theorem uncopied_eq_nil (h : ∀ d ∈ ds, d.origin.isSome) : uncopied ds = [] := by
  induction ds with
  | nil => rfl
  | cons d ds ih =>
    obtain ⟨hd, hds⟩ := List.forall_mem_cons.1 h
    rw [uncopied, if_pos hd, ih hds]

/-- Taking copies away leaves the number of declarations if none of them is a copy. -/
theorem length_uncopied (h : ∀ d ∈ ds, d.origin = none) : (uncopied ds).length = ds.length := by
  induction ds with
  | nil => rfl
  | cons d ds ih =>
    obtain ⟨hd, hds⟩ := List.forall_mem_cons.1 h
    rw [uncopied, hd]
    simp [ih hds]

/-- A change that is not seen when copies are taken away leaves what is then left of the list. -/
theorem uncopied_modify {f : Decl → Decl}
    (hf : ∀ d, (f d).origin = d.origin ∧ (f d).uncopied = d.uncopied) (i : Nat) (ds : List Decl) :
    uncopied (ds.modify i f) = uncopied ds := by
  induction ds generalizing i with
  | nil => rw [List.modify_nil]
  | cons d ds ih =>
    cases i with
    | zero => rw [List.modify_zero_cons, uncopied, uncopied, (hf d).1, (hf d).2]
    | succ i => rw [List.modify_succ_cons, uncopied, uncopied, ih]

/-- Copies that are added are left out again. -/
theorem uncopied_changeAt (hmore : ∀ c ∈ more, c.origin.isSome) (p : Address) (ds : List Decl) :
    uncopied (changeAt (Decl.gain more) p ds) = uncopied ds := by
  induction p generalizing ds with
  | nil => rfl
  | cons i p ih =>
    cases p with
    | nil =>
      refine uncopied_modify (f := Decl.gain more) (fun d => ⟨rfl, ?_⟩) i ds
      rw [Decl.uncopied_eq, Decl.uncopied_eq, Decl.gain]
      dsimp only
      rw [uncopied_append, uncopied_eq_nil hmore, List.append_nil]
    | cons j p =>
      refine uncopied_modify (f := fun d => { d with
        children := changeAt (Decl.gain more) (j :: p) d.children }) (fun d => ⟨rfl, ?_⟩) i ds
      rw [Decl.uncopied_eq, Decl.uncopied_eq]
      dsimp only
      rw [ih]

/-- What is at the top stays there, and what it is copied from does not change. -/
theorem origin_of_mem_changeAt {f : Decl → Decl} (hf : ∀ d, (f d).origin = d.origin)
    (hds : ∀ d ∈ ds, d.origin = none) (p : Address) : ∀ d ∈ changeAt f p ds, d.origin = none := by
  match p with
  | [] => exact hds
  | [i] =>
    intro d hd
    rcases mem_modify hd with hd | ⟨e, he, rfl⟩
    · exact hds d hd
    · rw [hf, hds e he]
  | i :: j :: p =>
    intro d hd
    rcases mem_modify hd with hd | ⟨e, he, rfl⟩
    · exact hds d hd
    · exact hds e he

/-- A change at an address leaves the number of declarations. -/
@[simp]
theorem length_changeAt (f : Decl → Decl) (p : Address) (ds : List Decl) :
    (changeAt f p ds).length = ds.length := by
  match p with
  | [] => rfl
  | [i] => exact List.length_modify ..
  | i :: j :: p => exact List.length_modify ..

/-- A program that is dealt out to files is without copies what the files were. -/
theorem map_uncopied_dealOut (files : List File) (ds : List Decl)
    (hlength : ds.length = (files.flatMap (·.decls)).length) (htop : ∀ d ∈ ds, d.origin = none)
    (hds : uncopied ds = files.flatMap (·.decls)) :
    (dealOut files ds).map File.uncopied = files := by
  induction files generalizing ds with
  | nil => rfl
  | cons f files ih =>
    rw [List.flatMap_cons, List.length_append] at hlength
    have hsplit := hds
    rw [← List.take_append_drop f.decls.length ds, uncopied_append, List.flatMap_cons] at hsplit
    have hfirst : (uncopied (ds.take f.decls.length)).length = f.decls.length := by
      rw [length_uncopied fun d hd => htop d (List.mem_of_mem_take hd), List.length_take]
      omega
    obtain ⟨hfile, hfiles⟩ := List.append_inj hsplit hfirst
    rw [dealOut, List.map_cons, File.uncopied, hfile]
    congr 1
    refine ih _ ?_ (fun d hd => htop d (List.mem_of_mem_drop hd)) hfiles
    rw [List.length_drop]
    omega

/-- Whether a program is another one with more members, all of which are copies. -/
structure AddsCopies (before after : List Decl) : Prop where
  length : after.length = before.length
  top : ∀ d ∈ after, d.origin = none
  uncopied : Source.uncopied after = before

/-- A declaration that gains copies leaves a program with more copies. -/
theorem AddsCopies.gain {before after : List Decl} (h : AddsCopies before after)
    (hmore : ∀ c ∈ more, c.origin.isSome) (p : Address) :
    AddsCopies before (changeAt (Decl.gain more) p after) where
  length := by rw [length_changeAt, h.length]
  top := origin_of_mem_changeAt (f := Decl.gain more) (fun _ => rfl) h.top p
  uncopied := (uncopied_changeAt hmore p after).trans h.uncopied

/-- Inheritance adds copies only, also when classes extend each other in a circle. -/
theorem addsCopies_run (hwritten : ∀ d ∈ standing ds, d.origin = none)
    (hsymbol : ∀ d ∈ standing ds, d.isInheritable = true → d.symbol.isSome) :
    AddsCopies ds (Inheriting.run ds).decls := by
  have hstart : AddsCopies ds ds :=
    ⟨rfl, fun d hd => hwritten d (subset_standing ds hd), uncopied_eq_self hwritten⟩
  refine (Inheriting.run_induction_standing (H := fun d => d.isInheritable = true → d.symbol.isSome)
    ?_ ?_ ?_ hsymbol hstart).2
  · intro d more hd
    exact hd
  · intro D m _ _ _
    rfl
  · intro ds' p more hds' hmore
    refine hds'.gain (fun c hc => ?_) p
    obtain ⟨D, m, hm, hinheritable, rfl⟩ := hmore c hc
    exact hm hinheritable

/-- Without its copies, a program with inherited members is the program that was written. -/
theorem uncopied_inheritMembers {files : List File}
    (hwritten : ∀ d ∈ standing (files.flatMap (·.decls)), d.origin = none)
    (hsymbol : ∀ d ∈ standing (files.flatMap (·.decls)), d.isInheritable = true → d.symbol.isSome) :
    (inheritMembers files).1.map File.uncopied = files := by
  have hrun := addsCopies_run hwritten hsymbol
  exact map_uncopied_dealOut files _ hrun.length hrun.top hrun.uncopied

/-- Everything that stands in the files with inherited members stands in the program. -/
theorem flatMap_decls_inheritMembers (files : List File) :
    (inheritMembers files).1.flatMap (·.decls) =
      (Inheriting.run (files.flatMap (·.decls))).decls := by
  refine (dealOut_spec files _ ?_).1
  refine Inheriting.run_induction (I := fun ds =>
    ds.length = (files.flatMap (·.decls)).length) ?_ rfl
  intro ds p more hds _
  rw [length_changeAt, hds]

end ApiAtlas.Source
