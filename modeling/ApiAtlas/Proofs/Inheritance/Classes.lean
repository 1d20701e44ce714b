import ApiAtlas.Proofs.Atlas.Lookup
import ApiAtlas.Proofs.Source.Standing
import Mathlib.Data.List.Basic
import Mathlib.Data.List.Induction

/-!
# Classes and interfaces of a program

What becomes of a program when declarations at some addresses get more members: growing leaves
everything else as it is (`growAmong`), so that what was found at an address is found there with
its new members (`declAt?_growAmong`), and adding members at one address is growing
(`changeAt_growAmong`).

A class or interface is known by its symbol; all declarations that carry the symbol belong to it
and share their members. This file says what the table of classes holds, and what a class is in a
program that has grown by members of classes only (`grown`): the members of a class are then those
that it had and what it gained, at the end of its first declaration.
-/

set_option autoImplicit false

/-! ## Programs with more members -/

namespace ApiAtlas.Source

mutual

/-- The declaration with more members: `gain` tells which ones, by the address below it. -/
def Decl.grow (gain : Address → List Decl) : Decl → Decl
  | ⟨kind, name, symbol, children, modifiers, type, signature, typeParameters, bases, interfaces,
      comment, defaultValue, origin, file, line, form⟩ =>
    ⟨kind, name, symbol, growAmong gain 0 children ++ gain [], modifiers, type, signature,
      typeParameters, bases, interfaces, comment, defaultValue, origin, file, line, form⟩

/-- Some declarations, each with more members at its end; `i` is the position of the first of
them. -/
def growAmong (gain : Address → List Decl) (i : Nat) : List Decl → List Decl
  | [] => []
  | d :: ds => d.grow (fun p => gain (i :: p)) :: growAmong gain (i + 1) ds

end

/-- Growing changes the members only. -/
theorem Decl.grow_eq (gain : Address → List Decl) (d : Decl) :
    d.grow gain = { d with children := growAmong gain 0 d.children ++ gain [] } := by
  cases d
  rw [grow]

/-- Growing declarations leaves their number. -/
@[simp]
theorem length_growAmong (gain : Address → List Decl) (i : Nat) (ds : List Decl) :
    (growAmong gain i ds).length = ds.length := by
  induction ds generalizing i with
  | nil => rfl
  | cons d ds ih => simp [growAmong, ih]

/-- A declaration is grown by what is gained below its position. -/
theorem getElem?_growAmong (gain : Address → List Decl) (i j : Nat) (ds : List Decl) :
    (growAmong gain i ds)[j]? = ds[j]?.map fun d => d.grow fun p => gain ((i + j) :: p) := by
  induction ds generalizing i j with
  | nil => simp [growAmong]
  | cons d ds ih =>
    cases j with
    | zero => simp [growAmong]
    | succ j => simp [growAmong, ih, Nat.add_assoc, Nat.add_comm 1 j]

/-- Declarations grow by what is gained at addresses among them. -/
theorem growAmong_congr {gain gain' : Address → List Decl} {i : Nat} {ds : List Decl}
    (h : ∀ p, p ≠ [] → gain p = gain' p) : growAmong gain i ds = growAmong gain' i ds := by
  have hgrow : ∀ i, (fun p => gain (i :: p)) = fun p => gain' (i :: p) := fun i =>
    funext fun p => h _ (List.cons_ne_nil i p)
  induction ds generalizing i with
  | nil => rfl
  | cons d ds ih => rw [growAmong, growAmong, ih, hgrow]

/-- Without new members nothing grows. -/
theorem growAmong_nil (i : Nat) (ds : List Decl) : growAmong (fun _ => []) i ds = ds := by
  induction ds using decls_induction generalizing i with
  | nil => rfl
  | cons d ds ihchildren ih =>
    rw [growAmong, Decl.grow_eq, ihchildren, ih, List.append_nil]
    cases d
    rfl

/-- What stood at an address stands there still, with its members grown. -/
theorem declAt?_growAmong {gain : Address → List Decl} {p : Address} {ds : List Decl} {d : Decl}
    (h : declAt? p ds = some d) :
    declAt? p (growAmong gain 0 ds) = some (d.grow fun q => gain (p ++ q)) := by
  match p, h with
  | [i], h =>
    change ds[i]? = some d at h
    change (growAmong gain 0 ds)[i]? = _
    rw [getElem?_growAmong, h, Nat.zero_add]
    rfl
  | i :: j :: p, h =>
    obtain ⟨e, he, hd⟩ := Option.bind_eq_some_iff.1 h
    change ((growAmong gain 0 ds)[i]?).bind _ = _
    rw [getElem?_growAmong, he, Option.map_some, Option.bind_some, Nat.zero_add, Decl.grow_eq]
    -- The new members come last, so that the address still leads to an old one.
    have hinner : declAt? (j :: p) (growAmong (fun q => gain (i :: q)) 0 e.children) = _ :=
      declAt?_growAmong hd
    exact declAt?_append_right _ hinner

/-! ## Adding members at one address -/

/-- What is gained when the members `more` come to what is gained at the address `p`. -/
def gainMore (gain : Address → List Decl) (p : Address) (more : List Decl) : Address → List Decl :=
  fun q => if q = p then gain q ++ more else gain q

/-- A change at an address does not reach the declarations that come last. -/
theorem changeAt_append {f : Decl → Decl} {p : Address} {ds : List Decl} {d : Decl}
    (es : List Decl) (h : declAt? p ds = some d) :
    changeAt f p (ds ++ es) = changeAt f p ds ++ es := by
  have hmodify : ∀ g i e, ds[i]? = some e → (ds ++ es).modify i g = ds.modify i g ++ es := by
    intro g i e he
    have hi : i < ds.length := (List.getElem?_eq_some_iff.1 he).1
    have htake : (ds ++ es).take i = ds.take i :=
      List.take_append_of_le_length (Nat.le_of_lt hi)
    have hdrop : (ds ++ es).drop (i + 1) = ds.drop (i + 1) ++ es :=
      List.drop_append_of_le_length hi
    simp [List.modify_eq_take_cons_drop, hi, Nat.lt_add_right, htake, hdrop]
  match p, h with
  | [i], h => exact hmodify f i d h
  | i :: j :: p, h =>
    obtain ⟨e, he, -⟩ := Option.bind_eq_some_iff.1 h
    exact hmodify _ i e he

/-- Grown declarations with the one at one position changed, when the change there is gaining. -/
theorem modify_growAmong {gain gain' : Address → List Decl} {f : Decl → Decl} {i : Nat}
    {ds : List Decl} {d : Decl} (hd : ds[i]? = some d)
    (hother : ∀ j, j ≠ i → ∀ q, gain' (j :: q) = gain (j :: q))
    (hf : f (d.grow fun q => gain (i :: q)) = d.grow fun q => gain' (i :: q)) :
    (growAmong gain 0 ds).modify i f = growAmong gain' 0 ds := by
  refine List.ext_getElem? fun j => ?_
  rw [List.getElem?_modify, getElem?_growAmong, getElem?_growAmong, Nat.zero_add]
  by_cases hj : i = j
  · subst hj
    simp [hd, hf]
  · simp [hj, hother j (Ne.symm hj)]

/-- Adding members at an address of a grown program is growing it further. -/
theorem changeAt_growAmong {gain : Address → List Decl} {p : Address} {ds : List Decl} {d : Decl}
    (more : List Decl) (h : declAt? p ds = some d) :
    changeAt (fun d => { d with children := d.children ++ more }) p (growAmong gain 0 ds) =
      growAmong (gainMore gain p more) 0 ds := by
  match p, h with
  | [i], h =>
    refine modify_growAmong h (fun j hj q => by simp [gainMore, hj]) ?_
    rw [Decl.grow_eq, Decl.grow_eq, List.append_assoc]
    congr 2
    · exact growAmong_congr fun q hq => by simp [gainMore, hq]
    · simp [gainMore]
  | i :: j :: p, h =>
    obtain ⟨e, he, hd⟩ := Option.bind_eq_some_iff.1 h
    refine modify_growAmong he (fun k hk q => by simp [gainMore, hk]) ?_
    rw [Decl.grow_eq, Decl.grow_eq]
    have hinner : changeAt _ (j :: p) (growAmong (fun q => gain (i :: q)) 0 e.children) = _ :=
      changeAt_growAmong more hd
    have hmore : gainMore (fun q => gain (i :: q)) (j :: p) more =
        fun q => gainMore gain (i :: j :: p) more (i :: q) := by
      funext q
      simp [gainMore]
    simp only
    rw [changeAt_append _ (declAt?_growAmong hd), hinner, hmore]
    simp [gainMore]

end ApiAtlas.Source

/-! ## Classes -/

namespace ApiAtlas.Source

variable {ds : List Decl} {D : String}

/-- The declarations of a class or interface. -/
def classDecls (ds : List Decl) (D : String) : List Decl :=
  (standing ds).filter fun d => d.classSymbol? == some D

/-- The members of a class or interface, over all its declarations. -/
def classMembers (ds : List Decl) (D : String) : List Decl :=
  (classDecls ds D).flatMap (·.children)

/-- The symbols of the classes and interfaces of a program. -/
def classSymbols (ds : List Decl) : List String :=
  ((standing ds).filterMap (·.classSymbol?)).eraseDups

/-- The other classes and interfaces of the program that the declarations of one extend, in the
order in which they are written, each once. -/
def classBases (ds : List Decl) (D : String) : List String :=
  (((classDecls ds D).flatMap fun d => d.bases.filterMap (·.symbol)).filter fun b =>
    b != D && (classSymbols ds).contains b).eraseDups

/-- Classes and interfaces do not stand inside others. -/
def FlatClasses (ds : List Decl) : Prop :=
  ∀ d ∈ standing ds, d.classSymbol?.isSome → ∀ m ∈ standing d.children, m.classSymbol? = none

instance (ds : List Decl) : Decidable (FlatClasses ds) :=
  inferInstanceAs (Decidable (∀ d ∈ standing ds, d.classSymbol?.isSome →
    ∀ m ∈ standing d.children, m.classSymbol? = none))

/-- Where the declarations of a class stand. -/
def classPlaces (ds : List Decl) (D : String) : List Address :=
  ((placed ds).filter fun c => c.2.classSymbol? == some D).map (·.1)

/-- Where the first declaration of a class stands. -/
def firstPlace? (ds : List Decl) (D : String) : Option Address :=
  (classPlaces ds D).head?

/-- A symbol is that of a class just when a class that stands in the program has it. -/
theorem mem_classSymbols : D ∈ classSymbols ds ↔ ∃ d ∈ standing ds, d.classSymbol? = some D := by
  simp [classSymbols]

/-- The declarations of a class in a program are those in the places of the class. -/
theorem classDecls_eq (ds : List Decl) (D : String) :
    classDecls ds D = ((placed ds).filter fun c => c.2.classSymbol? == some D).map (·.2) := by
  rw [classDecls, ← map_snd_placedFrom 0, List.filter_map]
  rfl

/-- Only the symbols of classes have places. -/
theorem classPlaces_eq_nil_iff : classPlaces ds D = [] ↔ D ∉ classSymbols ds := by
  rw [mem_classSymbols, ← exists_mem_placed_iff]
  simp [classPlaces]

/-! ## The table of classes -/

/-- Addresses that are put into a table under their symbols, one after the other, are kept. -/
theorem getD_get?_foldl_put (cs : List (String × Address)) (t : ClassTable) (D : String) :
    ((cs.foldl (fun t c => t.put c.1 ((t.get? c.1).getD [] ++ [c.2])) t).get? D).getD [] =
      (t.get? D).getD [] ++ (cs.filter fun c => c.1 == D).map (·.2) := by
  induction cs generalizing t with
  | nil => simp
  | cons c cs ih =>
    rw [List.foldl_cons, ih]
    by_cases hc : c.1 = D
    · subst hc
      simp
    · rw [Table.get?_put_of_ne _ _ (Ne.symm hc)]
      simp [hc]

/-- A table has what it had before and what has been put into it. -/
theorem isSome_get?_foldl_put (cs : List (String × Address)) (t : ClassTable) (D : String) :
    ((cs.foldl (fun t c => t.put c.1 ((t.get? c.1).getD [] ++ [c.2])) t).get? D).isSome ↔
      (t.get? D).isSome ∨ ∃ c ∈ cs, c.1 = D := by
  induction cs generalizing t with
  | nil => simp
  | cons c cs ih =>
    rw [List.foldl_cons, ih]
    by_cases hc : c.1 = D
    · subst hc
      simp
    · rw [Table.get?_put_of_ne _ _ (Ne.symm hc)]
      simp [hc]

/-- The classes that are found on a walk through a program, by where declarations are placed. -/
theorem classesAmong_eq (path : List Nat) (i : Nat) (ds : List Decl) :
    classesAmong path i ds = (placedFrom i ds).filterMap fun c =>
      c.2.classSymbol?.map fun s => (s, path.reverse ++ c.1) := by
  induction ds using decls_induction generalizing path i with
  | nil => rfl
  | cons d ds ihchildren ih =>
    have hd : classesAt (i :: path) d =
        (d.classSymbol?.map fun s => (s, (i :: path).reverse)).toList ++
          classesAmong (i :: path) 0 d.children := by
      obtain ⟨kind, name, symbol, children⟩ := d
      rw [classesAt]
      dsimp only
      split
      · next s hs => rw [hs]; rfl
      · next hs => rw [hs]; rfl
    rw [classesAmong, hd, ihchildren, ih, placedFrom_cons, List.cons_append, List.filterMap_cons,
      List.filterMap_append, List.filterMap_map]
    cases d.classSymbol? <;> simp [placed]

/-- The table of classes has the places of each class of the program. -/
theorem getD_get?_ofDecls (ds : List Decl) (D : String) :
    ((ClassTable.ofDecls ds).get? D).getD [] = classPlaces ds D := by
  rw [ClassTable.ofDecls, getD_get?_foldl_put, classesAmong_eq, classPlaces, placed]
  change [] ++ _ = _
  rw [List.nil_append]
  induction placedFrom 0 ds with
  | nil => rfl
  | cons c cs ih =>
    cases hc : c.2.classSymbol? with
    | none => simpa [hc] using ih
    | some s =>
      by_cases hs : s = D
      · simpa [hc, hs] using ih
      · simpa [hc, hs] using ih

/-- The table of classes has just the symbols of classes. -/
theorem isSome_get?_ofDecls (ds : List Decl) (D : String) :
    ((ClassTable.ofDecls ds).get? D).isSome ↔ D ∈ classSymbols ds := by
  rw [ClassTable.ofDecls, isSome_get?_foldl_put, classesAmong_eq, mem_classSymbols,
    ← exists_mem_placed_iff, placed]
  simp [Table.empty, Table.get?, Table.lookup]

/-- The keys of the table of classes are the symbols of classes. -/
theorem mem_keys_ofDecls : D ∈ (ClassTable.ofDecls ds).keys ↔ D ∈ classSymbols ds := by
  rw [Table.mem_keys_iff, ← Option.isSome_iff_exists, isSome_get?_ofDecls]

/-! ## Classes that have grown -/

/-- What is gained at an address when the classes of a program gain members: the first declaration
of each class gains what the class does. -/
def gainAt (ds : List Decl) (gained : String → List Decl) (p : Address) : List Decl :=
  match (declAt? p ds).bind (·.classSymbol?) with
  | some D => if firstPlace? ds D = some p then gained D else []
  | none => []

/-- The program whose classes have gained members. -/
def grown (ds : List Decl) (gained : String → List Decl) : List Decl :=
  growAmong (gainAt ds gained) 0 ds

/-- What classes gain holds no classes in turn. -/
def FreeOfClasses (gained : String → List Decl) : Prop :=
  ∀ D, ∀ m ∈ standing (gained D), m.classSymbol? = none

variable {gained gained' : String → List Decl} {c : Address × Decl}

/-- Where no class has gained a member, nothing has been gained at any address. -/
theorem gainAt_nothing (ds : List Decl) : gainAt ds (fun _ => []) = fun _ => [] := by
  funext p
  unfold gainAt
  split
  · exact ite_self _
  · rfl

/-- At its first place a class gains its members, and at its other places nothing. -/
theorem gainAt_eq (hc : c ∈ placed ds) (hD : c.2.classSymbol? = some D) :
    gainAt ds gained c.1 = if firstPlace? ds D = some c.1 then gained D else [] := by
  simp [gainAt, declAt?_of_mem_placed hc, hD]

/-- No classes stand in what is gained anywhere. -/
theorem standing_gainAt (h : FreeOfClasses gained) (p : Address) :
    ∀ m ∈ standing (gainAt ds gained p), m.classSymbol? = none := by
  unfold gainAt
  split
  · split
    · exact h _
    · simp [standing]
  · simp [standing]

/-- Growing a declaration leaves the class that it is. -/
theorem Decl.classSymbol?_grow (gain : Address → List Decl) (d : Decl) :
    (d.grow gain).classSymbol? = d.classSymbol? := by
  rw [Decl.grow_eq]
  rfl

/-- A placed declaration stands in the program. -/
theorem exists_of_mem_placedFrom {i : Nat} (h : c ∈ placedFrom i ds) : c.2 ∈ standing ds := by
  rw [← map_snd_placedFrom i]
  exact List.mem_map_of_mem h

/-- The classes of a grown program are the old ones, in the same places. -/
theorem filter_placedFrom_growAmong {gain : Address → List Decl}
    (h : ∀ p, ∀ m ∈ standing (gain p), m.classSymbol? = none) (i : Nat) (ds : List Decl)
    (D : String) :
    (placedFrom i (growAmong gain i ds)).filter (fun c => c.2.classSymbol? == some D) =
      ((placedFrom i ds).filter fun c => c.2.classSymbol? == some D).map fun c =>
        (c.1, c.2.grow fun q => gain (c.1 ++ q)) := by
  induction ds using decls_induction generalizing gain i with
  | nil => rfl
  | cons d ds ihchildren ih =>
    have hnew : ∀ j, (placedFrom j (gain [i])).filter (fun c => c.2.classSymbol? == some D) = [] :=
      fun j => List.filter_eq_nil_iff.2 fun c hc => by
        simp [h [i] c.2 (exists_of_mem_placedFrom hc)]
    have hchildren : (placed (d.grow fun p => gain (i :: p)).children).filter
        (fun c => c.2.classSymbol? == some D) =
        ((placed d.children).filter fun c => c.2.classSymbol? == some D).map fun c =>
          (c.1, c.2.grow fun q => gain (i :: (c.1 ++ q))) := by
      rw [Decl.grow_eq, placed, placedFrom_append, List.filter_append, hnew, List.append_nil]
      exact ihchildren (fun p => h (i :: p)) 0
    have hd : (d.grow fun p => gain (i :: p)).classSymbol? = d.classSymbol? :=
      Decl.classSymbol?_grow _ d
    rw [growAmong, placedFrom_cons, placedFrom_cons, List.filter_append, List.filter_append,
      ih h, List.filter_cons, List.filter_cons, List.filter_map, List.filter_map]
    change _ = List.map _ _
    simp only [Function.comp_def, hchildren, hd]
    split <;> simp [Function.comp_def]

/-- The declarations of a class in a grown program. -/
theorem classDecls_grown (h : FreeOfClasses gained) (ds : List Decl) (D : String) :
    classDecls (grown ds gained) D =
      ((placed ds).filter fun c => c.2.classSymbol? == some D).map fun c =>
        c.2.grow fun q => gainAt ds gained (c.1 ++ q) := by
  rw [classDecls_eq, placed, grown, filter_placedFrom_growAmong (standing_gainAt h), List.map_map]
  rfl

/-- The table of classes finds the declarations of a class in the grown program. -/
theorem declsOf_grown (h : FreeOfClasses gained) (ds : List Decl) (D : String) :
    (ClassTable.ofDecls ds).declsOf (grown ds gained) D = classDecls (grown ds gained) D := by
  rw [classDecls_grown h, ClassTable.declsOf, getD_get?_ofDecls, classPlaces, List.filterMap_map]
  refine List.filterMap_eq_map_iff_forall_eq_some.2 fun c hc => ?_
  exact declAt?_growAmong (declAt?_of_mem_placed (List.mem_of_mem_filter hc))

/-- The members that the table finds in a grown program are those of the class. -/
theorem membersOf_grown (h : FreeOfClasses gained) (ds : List Decl) (D : String) :
    (ClassTable.ofDecls ds).membersOf (grown ds gained) D = classMembers (grown ds gained) D := by
  rw [ClassTable.membersOf, declsOf_grown h, classMembers]

/-- The members of a class in a grown program: those it had, and what it gained at the end of its
first declaration. -/
theorem classMembers_grown (hflat : FlatClasses ds) (h : FreeOfClasses gained) (D : String) :
    classMembers (grown ds gained) D =
      ((placed ds).filter fun c => c.2.classSymbol? == some D).flatMap fun c =>
        c.2.children ++ if firstPlace? ds D = some c.1 then gained D else [] := by
  rw [classMembers, classDecls_grown h, List.flatMap_map]
  refine List.flatMap_congr fun c hc => ?_
  obtain ⟨hc, hD⟩ := List.mem_filter.1 hc
  have hD : c.2.classSymbol? = some D := by simpa using hD
  have hp : c.1 ≠ [] := by
    obtain ⟨j, q, hj, -⟩ := declAt?_of_mem_placedFrom hc
    simp [hj]
  -- Below a class nothing is gained, since there are no classes.
  have hbelow : ∀ q, q ≠ [] → gainAt ds gained (c.1 ++ q) = [] := by
    intro q hq
    unfold gainAt
    rw [declAt?_append hp hq, declAt?_of_mem_placed hc, Option.bind_some]
    cases hm : declAt? q c.2.children with
    | none => rfl
    | some m =>
      have hnone := hflat c.2 (mem_standing_of_mem_placed hc) (by simp [hD]) m
        (mem_standing_of_declAt? hm)
      rw [Option.bind_some, hnone]
  rw [Decl.grow_eq, growAmong_congr hbelow, growAmong_nil, List.append_nil, gainAt_eq hc hD]

/-- What the other classes gain is nothing to a class. -/
theorem classMembers_grown_congr (hflat : FlatClasses ds) (h : FreeOfClasses gained)
    (h' : FreeOfClasses gained') (hD : gained D = gained' D) :
    classMembers (grown ds gained) D = classMembers (grown ds gained') D := by
  rw [classMembers_grown hflat h, classMembers_grown hflat h', hD]

/-- A class that has gained nothing has the members that it had. -/
theorem classMembers_grown_of_nil (hflat : FlatClasses ds) (h : FreeOfClasses gained)
    (hD : gained D = []) : classMembers (grown ds gained) D = classMembers ds D := by
  rw [classMembers_grown hflat h, hD, classMembers, classDecls_eq, List.flatMap_map]
  refine List.flatMap_congr fun c _ => ?_
  split <;> rw [List.append_nil]

/-- A list without the later occurrences of its elements, collected from the front. -/
theorem foldl_kept_eq_eraseDups (l : List String) :
    l.foldl (fun kept s => if kept.contains s then kept else kept ++ [s]) [] = l.eraseDups := by
  induction l using List.reverseRecOn with
  | nil => rfl
  | append_singleton l s ih =>
    rw [List.foldl_append, ih, List.eraseDups_append, List.foldl_cons, List.foldl_nil]
    by_cases hs : s ∈ l
    · simp [List.removeAll, hs]
    · simp [List.removeAll, hs, List.eraseDups_cons]

/-- The bases of a class are listed once each. -/
theorem nodup_classBases (ds : List Decl) (D : String) : (classBases ds D).Nodup :=
  List.nodup_eraseDups _

/-- The symbols of classes are listed once each. -/
theorem nodup_classSymbols (ds : List Decl) : (classSymbols ds).Nodup :=
  List.nodup_eraseDups _

/-- The bases of a class are those that it had. -/
theorem basesOf_grown (h : FreeOfClasses gained) (ds : List Decl) (D : String) :
    (ClassTable.ofDecls ds).basesOf (grown ds gained) D = classBases ds D := by
  have hbases : ((classDecls (grown ds gained) D).flatMap fun d => d.bases.filterMap (·.symbol)) =
      (classDecls ds D).flatMap fun d => d.bases.filterMap (·.symbol) := by
    rw [classDecls_grown h, classDecls_eq, List.flatMap_map, List.flatMap_map]
    exact List.flatMap_congr fun c _ => by rw [Decl.grow_eq]
  rw [ClassTable.basesOf, declsOf_grown h, hbases, foldl_kept_eq_eraseDups, classBases]
  congr 2
  funext b
  rw [Bool.eq_iff_iff]
  simp [isSome_get?_ofDecls]

/-- Giving members to a class that has gained none is growing. -/
theorem changeAt_grown (hD : D ∈ classSymbols ds) (hnone : gained D = []) (more : List Decl) :
    changeAt (fun d => { d with children := d.children ++ more })
        ((firstPlace? ds D).getD []) (grown ds gained) =
      grown ds (Function.update gained D more) := by
  obtain ⟨p, hp⟩ : ∃ p, firstPlace? ds D = some p := by
    cases hplaces : classPlaces ds D with
    | nil => exact absurd hD (classPlaces_eq_nil_iff.1 hplaces)
    | cons p ps => exact ⟨p, by rw [firstPlace?, hplaces]; rfl⟩
  obtain ⟨c, hc, hcp⟩ := List.mem_map.1 (List.mem_of_head? hp)
  obtain ⟨hc, hcD⟩ := List.mem_filter.1 hc
  have hcD : c.2.classSymbol? = some D := by simpa using hcD
  subst hcp
  rw [hp, Option.getD_some, grown, changeAt_growAmong more (declAt?_of_mem_placed hc), grown]
  congr 1
  funext q
  unfold gainMore
  split
  next hq => rw [hq, gainAt_eq hc hcD, gainAt_eq hc hcD, if_pos hp, if_pos hp, hnone]; simp
  next hq =>
    unfold gainAt
    cases (declAt? q ds).bind (·.classSymbol?) with
    | none => rfl
    | some E =>
      by_cases hE : E = D
      · subst hE
        simp [hp, Ne.symm hq]
      · simp [hE]

end ApiAtlas.Source
