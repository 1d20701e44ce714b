import ApiAtlas.Proofs.Inheritance.Classes
import Mathlib.Algebra.GroupWithZero.Nat
import Mathlib.Data.List.Perm.Subperm
import Mathlib.Logic.Relation

/-!
# Completing classes

Of several bases, the first that has an inheritable member of some name hands down all its members
of that name; names that the class declares itself are left out. `handedDown` says this of all
bases at once. Going through the bases one by one, with a list of the names that are taken, gives
the same members (`handedDown_concat`).

A program while members are copied is `Sound` when it is the program that it was before, grown by
what the complete classes are to gain: copies of what their bases, with their present members, hand
down. Completing a class keeps a program sound (`complete_sound`), provided that no class extends
itself in some steps. Members that a complete class has gained never change, so that the members
which a class was given are those that its bases have in the end (`run_spec`).
-/

set_option autoImplicit false

/-! ## Members that bases hand down -/

namespace ApiAtlas.Source

variable {own : List (Option String × Bool)} {members members' : String → List Decl}
  {bases : List String} {b : String} {k : Option String × Bool}

/-- Whether some of the members are inheritable and redeclared under a key. -/
def provides (members : List Decl) (k : Option String × Bool) : Bool :=
  members.any fun m => m.isInheritable && m.key == k

/-- The first base with an inheritable member of some key. -/
def provider? (members : String → List Decl) (bases : List String) (k : Option String × Bool) :
    Option String :=
  bases.find? fun b => provides (members b) k

/-- The members that bases hand down to a class with members of the keys `own`, base by base. -/
def handedDown (own : List (Option String × Bool)) (members : String → List Decl)
    (bases : List String) : List Decl :=
  bases.flatMap fun b => (members b).filter fun m =>
    m.isInheritable && !own.contains m.key && provider? members bases m.key == some b

/-- Some members provide a key just when one of them is inheritable and has it. -/
theorem provides_iff {ms : List Decl} :
    provides ms k = true ↔ ∃ m ∈ ms, m.isInheritable = true ∧ m.key = k := by
  simp [provides]

/-- There is a base that provides a key just when one of the bases does. -/
theorem isSome_provider?_iff :
    (provider? members bases k).isSome ↔ ∃ b ∈ bases, provides (members b) k = true :=
  List.find?_isSome

/-- The base that provides a key is a base, and does provide it. -/
theorem provider?_eq_some (h : provider? members bases k = some b) :
    b ∈ bases ∧ provides (members b) k = true :=
  ⟨List.mem_of_find?_eq_some h, List.find?_some (p := fun b => provides (members b) k) h⟩

/-- A base that comes last provides what none before it does. -/
theorem provider?_concat (hb : b ∉ bases) (hprovides : provides (members b) k = true) :
    provider? members (bases ++ [b]) k = some b ↔
      ¬∃ b' ∈ bases, provides (members b') k = true := by
  rw [← isSome_provider?_iff, provider?, List.find?_append, List.find?_singleton, if_pos hprovides]
  change (provider? members bases k).or (some b) = some b ↔ _
  cases h : provider? members bases k with
  | none => simp
  | some b' =>
    have hne : b' ≠ b := fun heq => hb (heq ▸ (provider?_eq_some h).1)
    simp [hne]

/-- Handed down are just the inheritable members whose keys are not taken and whose base is the
first that provides their key. -/
theorem mem_handedDown {m : Decl} :
    m ∈ handedDown own members bases ↔ ∃ b ∈ bases, m ∈ members b ∧ m.isInheritable = true ∧
      m.key ∉ own ∧ provider? members bases m.key = some b := by
  simp [handedDown, and_assoc]

/-- The keys that are handed down are those that some base provides and the class does not have. -/
theorem mem_map_key_handedDown :
    k ∈ (handedDown own members bases).map Decl.key ↔
      k ∉ own ∧ ∃ b ∈ bases, provides (members b) k = true := by
  constructor
  · intro hk
    obtain ⟨m, hm, rfl⟩ := List.mem_map.1 hk
    obtain ⟨b, hb, hmb, hinheritable, hown, -⟩ := mem_handedDown.1 hm
    exact ⟨hown, b, hb, provides_iff.2 ⟨m, hmb, hinheritable, rfl⟩⟩
  · rintro ⟨hown, hsome⟩
    obtain ⟨b, hb⟩ := Option.isSome_iff_exists.1 (isSome_provider?_iff.2 hsome)
    obtain ⟨hbases, hprovides⟩ := provider?_eq_some hb
    obtain ⟨m, hmb, hinheritable, rfl⟩ := provides_iff.1 hprovides
    exact List.mem_map_of_mem (mem_handedDown.2 ⟨b, hbases, hmb, hinheritable, hown, hb⟩)

/-- One more base hands down what is not taken by the class itself and by the bases before it. -/
theorem handedDown_concat (hb : b ∉ bases) :
    handedDown own members (bases ++ [b]) = handedDown own members bases ++
      passedOn (own ++ (handedDown own members bases).map Decl.key) (members b) := by
  generalize htaken : own ++ (handedDown own members bases).map Decl.key = taken
  have hmem : ∀ k, k ∈ taken ↔ k ∈ own ∨ ∃ b' ∈ bases, provides (members b') k = true := by
    intro k
    rw [← htaken, List.mem_append, mem_map_key_handedDown]
    tauto
  rw [handedDown, List.flatMap_append, handedDown, List.flatMap_singleton, passedOn]
  congr 1
  · refine List.flatMap_congr fun b' hb' => List.filter_congr fun m hm => ?_
    by_cases hinheritable : m.isInheritable = true
    · have hsome : (provider? members bases m.key).isSome :=
        isSome_provider?_iff.2 ⟨b', hb', provides_iff.2 ⟨m, hm, hinheritable, rfl⟩⟩
      have hsame : provider? members (bases ++ [b]) m.key = provider? members bases m.key := by
        rw [provider?, List.find?_append]
        exact Option.or_of_isSome hsome
      rw [hsame]
    · simp [hinheritable]
  · refine List.filter_congr fun m hm => ?_
    by_cases hinheritable : m.isInheritable = true
    · have hprovides : provides (members b) m.key = true :=
        provides_iff.2 ⟨m, hm, hinheritable, rfl⟩
      rw [Bool.eq_iff_iff]
      simp only [hinheritable, Bool.true_and, Bool.and_eq_true, Bool.not_eq_true', beq_iff_eq,
        List.contains_eq_mem, decide_eq_false_iff_not, provider?_concat hb hprovides, hmem,
        not_or]
    · simp [hinheritable]

/-- What is handed down only depends on the members of the bases. -/
theorem handedDown_congr (h : ∀ b ∈ bases, members b = members' b) :
    handedDown own members bases = handedDown own members' bases := by
  have hprovider : ∀ k, provider? members bases k = provider? members' bases k := by
    intro k
    have hfind : ∀ bs ⊆ bases, bs.find? (fun b => provides (members b) k) =
        bs.find? fun b => provides (members' b) k := by
      intro bs hbs
      induction bs with
      | nil => rfl
      | cons b bs ih =>
        obtain ⟨hb, hbs⟩ := List.cons_subset.1 hbs
        rw [List.find?_cons, List.find?_cons, h b hb, ih hbs]
    exact hfind bases (List.Subset.refl _)
  refine List.flatMap_congr fun b hb => ?_
  rw [h b hb]
  simp only [hprovider]

end ApiAtlas.Source

/-! ## Completing a class -/

namespace ApiAtlas.Source

open Relation

variable {ds : List Decl} {D : String}

/-- Whether a class has a base among the classes of the program. -/
def Extends (ds : List Decl) (D b : String) : Prop :=
  b ∈ classBases ds D

/-- No class extends itself, in one step or in several. -/
def AcyclicClasses (ds : List Decl) : Prop :=
  ∀ D, ¬TransGen (Extends ds) D D

/-- The copies that a class is to gain when the classes have the given members. -/
def inheritance (ds : List Decl) (members : String → List Decl) (D : String) : List Decl :=
  (handedDown ((classMembers ds D).map Decl.key) members (classBases ds D)).map
    (Decl.inheritedBy D)

/-- A program while members are copied: the complete classes, and these only, have gained what they
are to gain. -/
structure Sound (ds : List Decl) (s : Inheriting) (gained : String → List Decl) : Prop where
  decls : s.decls = grown ds gained
  free : FreeOfClasses gained
  undone : ∀ D, D ∉ s.done → gained D = []
  closed : ∀ D ∈ s.done, ∀ b, Extends ds D b → b ∈ s.done
  complete : ∀ D ∈ s.done, gained D = inheritance ds (classMembers (grown ds gained)) D
  nodup : s.done.Nodup
  known : ∀ D ∈ s.done, D ∈ classSymbols ds
  copied : s.copied = (s.done.map fun D => (gained D).length).sum

/-- What completing classes does: classes that were complete stay as they are, and the others that
become complete are among `new`. -/
structure Advances (ds : List Decl) (new : String → Prop) (s : Inheriting)
    (gained : String → List Decl) (s' : Inheriting) (gained' : String → List Decl) : Prop where
  sound : Sound ds s' gained'
  done : s.done ⊆ s'.done
  kept : ∀ E ∈ s.done, gained' E = gained E
  new : ∀ E ∈ s'.done, E ∈ s.done ∨ new E

variable {s s' s'' : Inheriting} {gained gained' gained'' : String → List Decl}
  {new new' : String → Prop}

/-- Completing no class advances nothing. -/
theorem Advances.refl (h : Sound ds s gained) : Advances ds new s gained s gained :=
  ⟨h, List.Subset.refl _, fun _ _ => rfl, fun _ => Or.inl⟩

/-- What completing some classes advances, and then completing others, is advanced by completing all
of them. -/
theorem Advances.trans (h : Advances ds new s gained s' gained')
    (h' : Advances ds new s' gained' s'' gained'') : Advances ds new s gained s'' gained'' := by
  refine ⟨h'.sound, List.Subset.trans h.done h'.done, fun E hE => ?_, fun E hE => ?_⟩
  · rw [h'.kept E (h.done hE), h.kept E hE]
  · exact (h'.new E hE).elim (h.new E) Or.inr

/-- What is advanced by completing some classes is advanced by completing more. -/
theorem Advances.mono (hsub : ∀ E, new E → new' E) (h : Advances ds new s gained s' gained') :
    Advances ds new' s gained s' gained' :=
  ⟨h.sound, h.done, h.kept, fun E hE => (h.new E hE).imp_right (hsub E)⟩

/-- What a class of the program extends is a class of the program. -/
theorem Extends.mem_classSymbols {b : String} (h : Extends ds D b) : b ∈ classSymbols ds := by
  have hmem := (List.mem_filter.1 (List.mem_eraseDups.1 h)).2
  simp only [Bool.and_eq_true, List.contains_iff_mem] at hmem
  exact hmem.2

/-- Classes whose bases always have a smaller rank do not extend themselves. -/
theorem acyclicClasses_of_rank (rank : String → Nat)
    (h : ∀ D ∈ classSymbols ds, ∀ b ∈ classBases ds D, rank b < rank D) : AcyclicClasses ds := by
  have hstep : ∀ D b, Extends ds D b → rank b < rank D := by
    intro D b hb
    refine h D ?_ b hb
    have hnamed := (List.mem_filter.1 (List.mem_eraseDups.1 hb)).1
    obtain ⟨d, hd, -⟩ := List.mem_flatMap.1 hnamed
    obtain ⟨hstands, hsymbol⟩ := List.mem_filter.1 hd
    exact mem_classSymbols.2 ⟨d, hstands, eq_of_beq hsymbol⟩
  have hlt : ∀ D E, TransGen (Extends ds) D E → rank E < rank D := fun D E hDE =>
    hDE.rec (fun hb => hstep _ _ hb) fun _ hb hlt => Nat.lt_trans (hstep _ _ hb) hlt
  exact fun D hD => Nat.lt_irrefl _ (hlt D D hD)

/-- What a class inherits only depends on the members of what it extends. -/
theorem inheritance_congr {members members' : String → List Decl}
    (h : ∀ b, Extends ds D b → members b = members' b) :
    inheritance ds members D = inheritance ds members' D := by
  rw [inheritance, handedDown_congr h, inheritance]

/-! ## Copies are not classes -/

/-- A copied member is of the kind of the member. -/
theorem Decl.inheritedBy_kind (D : String) (d : Decl) : (d.inheritedBy D).kind = d.kind := by
  cases d
  unfold Decl.inheritedBy
  split
  · split <;> rfl
  · rfl

/-- A copied member has the children of the member. -/
theorem Decl.inheritedBy_children (D : String) (d : Decl) :
    (d.inheritedBy D).children = d.children := by
  cases d
  unfold Decl.inheritedBy
  split
  · split <;> rfl
  · rfl

/-- The copy of an inheritable member is no class. -/
theorem Decl.classSymbol?_inheritedBy {d : Decl} (h : d.isInheritable = true) :
    (d.inheritedBy D).classSymbol? = none := by
  have hkind : (d.inheritedBy D).kind ≠ .class ∧ (d.inheritedBy D).kind ≠ .interface := by
    rw [Decl.inheritedBy_kind]
    constructor <;> rintro heq <;> simp [Decl.isInheritable, heq] at h
  simp [Decl.classSymbol?, hkind]

/-- The members of classes hold no classes, also those that were gained. -/
theorem classSymbol?_of_mem_classMembers (hflat : FlatClasses ds) (hfree : FreeOfClasses gained)
    {m x : Decl} (hm : m ∈ classMembers (grown ds gained) D) (hx : x ∈ standing m.children) :
    x.classSymbol? = none := by
  rw [classMembers_grown hflat hfree] at hm
  obtain ⟨c, hc, hm⟩ := List.mem_flatMap.1 hm
  obtain ⟨hc, hD⟩ := List.mem_filter.1 hc
  have hD : c.2.classSymbol? = some D := by simpa using hD
  obtain hm | hm := List.mem_append.1 hm
  · exact hflat c.2 (mem_standing_of_mem_placed hc) (by simp [hD]) x
      (mem_standing.2 ⟨m, hm, Or.inr hx⟩)
  · split at hm
    · exact hfree D x (mem_standing.2 ⟨m, hm, Or.inr hx⟩)
    · simp at hm

/-- No classes stand in what a class inherits. -/
theorem free_inheritance (hflat : FlatClasses ds) (hfree : FreeOfClasses gained) :
    ∀ x ∈ standing (inheritance ds (classMembers (grown ds gained)) D), x.classSymbol? = none := by
  intro x hx
  obtain ⟨c, hc, hxc⟩ := mem_standing.1 hx
  obtain ⟨m, hm, rfl⟩ := List.mem_map.1 hc
  obtain ⟨b, -, hmb, hinheritable, -⟩ := mem_handedDown.1 hm
  obtain rfl | hxc := hxc
  · exact Decl.classSymbol?_inheritedBy hinheritable
  · rw [Decl.inheritedBy_children] at hxc
    exact classSymbol?_of_mem_classMembers hflat hfree hmb hxc

/-! ## Steps of completion -/

/-- Classes that are complete have the members that they will have. -/
theorem Advances.classMembers_eq (hflat : FlatClasses ds) (hs : Sound ds s gained)
    (h : Advances ds new s gained s' gained') {E : String} (hE : E ∈ s.done) :
    classMembers (grown ds gained') E = classMembers (grown ds gained) E :=
  classMembers_grown_congr hflat h.sound.free hs.free (h.kept E hE)

/-- Giving a class what it is to gain, once its bases are complete. -/
theorem give_advances (hflat : FlatClasses ds) (hs : Sound ds s gained) (hD : D ∈ classSymbols ds)
    (hundone : D ∉ s.done) (hbases : ∀ b, Extends ds D b → b ∈ s.done) :
    Advances ds (· = D) s gained
      (s.give (ClassTable.ofDecls ds) D (inheritance ds (classMembers (grown ds gained)) D))
      (Function.update gained D (inheritance ds (classMembers (grown ds gained)) D)) := by
  generalize hmore : inheritance ds (classMembers (grown ds gained)) D = more
  have hother : ∀ E, E ∈ s.done → Function.update gained D more E = gained E := fun E hE =>
    Function.update_of_ne (fun h : E = D => hundone (h ▸ hE)) _ _
  have hfree : FreeOfClasses (Function.update gained D more) := by
    intro E
    by_cases hE : E = D
    · subst hE
      rw [Function.update_self, ← hmore]
      exact free_inheritance hflat hs.free
    · rw [Function.update_of_ne hE]
      exact hs.free E
  -- Complete classes keep their members, so what depends on these only does not change.
  have hmembers : ∀ b ∈ s.done, classMembers (grown ds (Function.update gained D more)) b =
      classMembers (grown ds gained) b := fun b hb =>
    classMembers_grown_congr hflat hfree hs.free (hother b hb)
  refine ⟨?_, List.subset_cons_self _ _, hother, fun E hE => ?_⟩
  · constructor
    case decls =>
      rw [Inheriting.give, getD_get?_ofDecls, hs.decls]
      exact changeAt_grown hD (hs.undone D hundone) more
    case free => exact hfree
    case undone =>
      intro E hE
      obtain ⟨hED, hE⟩ := not_or.1 (mt List.mem_cons.2 hE)
      rw [Function.update_of_ne hED]
      exact hs.undone E hE
    case closed =>
      rintro E hE b hb
      obtain rfl | hE := List.mem_cons.1 hE
      · exact List.mem_cons_of_mem _ (hbases b hb)
      · exact List.mem_cons_of_mem _ (hs.closed E hE b hb)
    case complete =>
      intro E hE
      obtain rfl | hE := List.mem_cons.1 hE
      · rw [Function.update_self, ← hmore]
        exact inheritance_congr fun b hb => by rw [hmore]; exact (hmembers b (hbases b hb)).symm
      · rw [hother E hE, hs.complete E hE]
        exact inheritance_congr fun b hb => (hmembers b (hs.closed E hE b hb)).symm
    case nodup => exact List.nodup_cons.2 ⟨hundone, hs.nodup⟩
    case known => exact List.forall_mem_cons.2 ⟨hD, hs.known⟩
    case copied =>
      change s.copied + more.length = ((D :: s.done).map _).sum
      rw [hs.copied, List.map_cons, List.sum_cons, Function.update_self, Nat.add_comm]
      congr 2
      exact List.map_congr_left fun E hE => by rw [hother E hE]
  · exact (List.mem_cons.1 hE).symm

/-- One base of a class is completed by `f` and hands down what is not taken. -/
def baseStep (classes : ClassTable) (f : Inheriting → String → Inheriting) (D : String)
    (state : Inheriting × List (Option String × Bool) × List Decl) (base : String) :
    Inheriting × List (Option String × Bool) × List Decl :=
  let more := passedOn state.2.1 (classes.membersOf (f state.1 base).decls base)
  (f state.1 base, state.2.1 ++ more.map Decl.key, state.2.2 ++ more.map (Decl.inheritedBy D))

/-- A class that is not complete and is not being completed: its bases are gone through. -/
theorem complete_eq {classes : ClassTable} {idle : List String} (hidle : D ∈ idle)
    (hundone : D ∉ s.done) :
    Inheriting.complete classes idle s D =
      let through := (classes.basesOf s.decls D).foldl
        (baseStep classes (Inheriting.complete classes (idle.erase D)) D)
        (s, (classes.membersOf s.decls D).map Decl.key, [])
      through.1.give classes D through.2.2 := by
  rw [Inheriting.complete, dif_pos hidle, if_neg (mt List.contains_iff_mem.1 hundone)]
  rfl

/-- Going through the bases of a class: each is completed, and then hands down what is not taken
yet. -/
theorem foldl_advances (hflat : FlatClasses ds) {f : Inheriting → String → Inheriting}
    (own : List (Option String × Bool)) {bases : List String} (hnodup : bases.Nodup)
    (hf : ∀ b ∈ bases, ∀ s gained, Sound ds s gained →
      ∃ gained', Advances ds new s gained (f s b) gained' ∧ b ∈ (f s b).done)
    (hs : Sound ds s gained) :
    ∃ s' gained', Advances ds new s gained s' gained' ∧ bases ⊆ s'.done ∧
      bases.foldl (baseStep (ClassTable.ofDecls ds) f D) (s, own, []) =
      (s', own ++ (handedDown own (classMembers (grown ds gained')) bases).map Decl.key,
        (handedDown own (classMembers (grown ds gained')) bases).map (Decl.inheritedBy D)) := by
  induction bases using List.reverseRecOn with
  | nil => exact ⟨s, gained, Advances.refl hs, List.nil_subset _, by simp [handedDown]⟩
  | append_singleton bases b ih =>
    obtain ⟨hbases, -, hdisjoint⟩ := List.nodup_append.1 hnodup
    have hb : b ∉ bases := fun h => hdisjoint b h b (List.mem_singleton_self b) rfl
    obtain ⟨s₁, gained₁, hadvances₁, hdone₁, hfold⟩ :=
      ih hbases fun b' hb' => hf b' (List.mem_append_left _ hb')
    obtain ⟨gained₂, hadvances₂, hdone₂⟩ :=
      hf b (List.mem_append_right _ (List.mem_singleton_self b)) s₁ gained₁ hadvances₁.sound
    refine ⟨f s₁ b, gained₂, hadvances₁.trans hadvances₂, ?_, ?_⟩
    · exact List.append_subset.2 ⟨List.Subset.trans hdone₁ hadvances₂.done, by simpa using hdone₂⟩
    · -- What the bases before this one have handed down is still what they hand down.
      have hsame : handedDown own (classMembers (grown ds gained₁)) bases =
          handedDown own (classMembers (grown ds gained₂)) bases :=
        handedDown_congr fun b' hb' =>
          (hadvances₂.classMembers_eq hflat hadvances₁.sound (hdone₁ hb')).symm
      rw [List.foldl_append, hfold, List.foldl_cons, List.foldl_nil, handedDown_concat hb, hsame]
      simp only [baseStep, hadvances₂.sound.decls, membersOf_grown hadvances₂.sound.free,
        List.map_append, List.append_assoc]

/-- Completing a class keeps a program sound. The classes that are being completed all lead to the
class, so that it is none of them. -/
theorem complete_sound (hflat : FlatClasses ds) (hacyclic : AcyclicClasses ds) (idle : List String)
    (s : Inheriting) (gained : String → List Decl) (D : String) (hs : Sound ds s gained)
    (hD : D ∈ classSymbols ds)
    (hactive : ∀ E ∈ classSymbols ds, E ∉ idle → TransGen (Extends ds) E D) :
    ∃ gained', Advances ds (ReflTransGen (Extends ds) D) s gained
        (Inheriting.complete (ClassTable.ofDecls ds) idle s D) gained' ∧
      D ∈ (Inheriting.complete (ClassTable.ofDecls ds) idle s D).done := by
  induction hn : idle.length using Nat.strongRecOn generalizing idle s gained D with
  | ind n ih =>
    have hidle : D ∈ idle := by
      by_contra h
      exact hacyclic D (hactive D hD h)
    by_cases hdone : D ∈ s.done
    · rw [Inheriting.complete, dif_pos hidle, if_pos (List.contains_iff_mem.2 hdone)]
      exact ⟨gained, Advances.refl hs, hdone⟩
    · rw [complete_eq hidle hdone, hs.decls, basesOf_grown hs.free,
        membersOf_grown hs.free, classMembers_grown_of_nil hflat hs.free (hs.undone D hdone)]
      have hlength : (idle.erase D).length < n := by
        have hpositive := List.length_pos_of_mem hidle
        rw [List.length_erase_of_mem hidle, ← hn]
        omega
      -- Each base is completed while the class itself is among those being completed.
      have hbases : ∀ b ∈ classBases ds D, ∀ s gained, Sound ds s gained →
          ∃ gained', Advances ds (TransGen (Extends ds) D) s gained
              (Inheriting.complete (ClassTable.ofDecls ds) (idle.erase D) s b) gained' ∧
            b ∈ (Inheriting.complete (ClassTable.ofDecls ds) (idle.erase D) s b).done := by
        intro b hb s gained hs
        have hb : Extends ds D b := hb
        have hactive' : ∀ E ∈ classSymbols ds, E ∉ idle.erase D → TransGen (Extends ds) E b := by
          intro E hE hactiveE
          by_cases hED : E = D
          · exact hED ▸ TransGen.single hb
          · exact (hactive E hE fun h => hactiveE ((List.mem_erase_of_ne hED).2 h)).tail hb
        obtain ⟨gained', hadvances, hmem⟩ :=
          ih _ hlength (idle.erase D) s gained b hs hb.mem_classSymbols hactive' rfl
        exact ⟨gained', hadvances.mono fun E hE => TransGen.head' hb hE, hmem⟩
      obtain ⟨s₁, gained₁, hadvances, hdone₁, hfold⟩ := foldl_advances (D := D) hflat
        ((classMembers ds D).map Decl.key) (nodup_classBases ds D) hbases hs
      have hundone₁ : D ∉ s₁.done := fun h =>
        (hadvances.new D h).elim hdone (hacyclic D)
      have hgive := give_advances hflat hadvances.sound hD hundone₁ fun b hb =>
        hdone₁ hb
      rw [hfold]
      exact ⟨_, (hadvances.mono fun E => TransGen.to_reflTransGen).trans
        (hgive.mono fun E (hE : E = D) => hE ▸ ReflTransGen.refl), List.mem_cons_self⟩

/-- At first no class is complete, and nothing is gained. -/
theorem sound_start (ds : List Decl) : Sound ds { decls := ds } fun _ => [] := by
  constructor
  case decls => rw [grown, gainAt_nothing, growAmong_nil]
  case free => simp [FreeOfClasses, standing]
  case undone => exact fun _ _ => rfl
  case closed => exact fun _ hD => absurd hD List.not_mem_nil
  case complete => exact fun _ hD => absurd hD List.not_mem_nil
  case nodup => exact List.nodup_nil
  case known => exact fun _ hD => absurd hD List.not_mem_nil
  case copied => rfl

/-- Completing classes one after the other completes each of them. -/
theorem foldl_complete_sound (hflat : FlatClasses ds) (hacyclic : AcyclicClasses ds)
    (keys : List String) (hs : Sound ds s gained) (hkeys : ∀ D ∈ keys, D ∈ classSymbols ds) :
    ∃ gained', Advances ds (fun _ => True) s gained
        (keys.foldl (Inheriting.complete (ClassTable.ofDecls ds) (ClassTable.ofDecls ds).keys) s)
        gained' ∧
      ∀ D ∈ keys, D ∈ (keys.foldl
        (Inheriting.complete (ClassTable.ofDecls ds) (ClassTable.ofDecls ds).keys) s).done := by
  induction keys generalizing s gained with
  | nil => exact ⟨gained, Advances.refl hs, List.forall_mem_nil _⟩
  | cons D keys ih =>
    obtain ⟨hD, hkeys⟩ := List.forall_mem_cons.1 hkeys
    obtain ⟨gained₁, hadvances₁, hdone₁⟩ := complete_sound hflat hacyclic
      (ClassTable.ofDecls ds).keys s gained D hs hD fun E hE hidle =>
        absurd (mem_keys_ofDecls.2 hE) hidle
    obtain ⟨gained₂, hadvances₂, hdone₂⟩ := ih hadvances₁.sound hkeys
    exact ⟨gained₂, (hadvances₁.mono fun _ _ => trivial).trans hadvances₂,
      List.forall_mem_cons.2 ⟨hadvances₂.done hdone₁, hdone₂⟩⟩

/-- A program whose classes are all complete. -/
theorem run_spec (hflat : FlatClasses ds) (hacyclic : AcyclicClasses ds) :
    ∃ gained, (Inheriting.run ds).decls = grown ds gained ∧ FreeOfClasses gained ∧
      (∀ D ∈ classSymbols ds, gained D = inheritance ds (classMembers (grown ds gained)) D) ∧
      (Inheriting.run ds).copied = ((classSymbols ds).map fun D => (gained D).length).sum := by
  obtain ⟨gained, hadvances, hdone⟩ := foldl_complete_sound hflat hacyclic
    (ClassTable.ofDecls ds).keys (sound_start ds) fun D hD => mem_keys_ofDecls.1 hD
  -- So the complete classes are all classes, each once.
  have hall : ∀ D, D ∈ (Inheriting.run ds).done ↔ D ∈ classSymbols ds := fun D =>
    ⟨hadvances.sound.known D, fun hD => hdone D (mem_keys_ofDecls.2 hD)⟩
  have hperm : (Inheriting.run ds).done.Perm (classSymbols ds) :=
    (List.perm_ext_iff_of_nodup hadvances.sound.nodup (nodup_classSymbols ds)).2 hall
  refine ⟨gained, hadvances.sound.decls, hadvances.sound.free, fun D hD => ?_, ?_⟩
  · exact hadvances.sound.complete D ((hall D).2 hD)
  · exact hadvances.sound.copied.trans (hperm.map _).sum_nat

end ApiAtlas.Source
