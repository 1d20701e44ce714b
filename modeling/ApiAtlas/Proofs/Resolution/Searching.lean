import ApiAtlas.Proofs.Atlas.SearchOrder
import ApiAtlas.Proofs.Resolution.Ends

/-!
# Searches in the outcome

Where a search for a path of names looks in the outcome of a conversion, and when it ends.

A search without bases looks at a declaration and the containers around it, from inside out. A
search with bases looks at the chain of first bases, and then at the containers around each of them,
the last base first (`convert_search`). What surrounds a base is therefore seen before what
surrounds the declaration itself. A search with bases ends unless the chain of bases is circular and
has no hit (`convert_search_ok_iff`), and since every `@inheritDoc` that names what it asks for is
such a search, those decide whether the conversion succeeds (`Program.convert_ok_iff_searches`).
-/

set_option autoImplicit false

namespace ApiAtlas

namespace Atlas

variable {a : Atlas} {i : EntryId} {around : EntryId → List EntryId} {bases : List EntryId}

/-- The containers around each entry, from inside out. -/
theorem Identified.exists_around (h : a.Identified) :
    ∃ around : EntryId → List EntryId, ∀ b, Trail a.enclosing b (b :: around b) := by
  have each : ∀ b, ∃ l, Trail a.enclosing b (b :: l) := by
    intro b
    obtain ⟨l, hl⟩ := Trail.exists_of_lt (fun b c hc => h.enclosing_lt hc) b
    cases hl with
    | last hnone => exact ⟨[], .last hnone⟩
    | step hsome rest => exact ⟨_, .step hsome rest⟩
  exact Classical.skolem.1 each

/-- The container that an entry belongs to is in the atlas. -/
theorem Identified.enclosing_lt_size (h : a.Identified) {p : EntryId}
    (hp : a.enclosing i = some p) : p < a.size :=
  Nat.lt_trans (h.enclosing_lt hp) (Atlas.parent?_lt (Option.filter_eq_some_iff.1 hp).1)

/-- There are fewer containers around an entry than entries. -/
theorem Identified.length_around_lt (h : a.Identified) (hi : i < a.size) {l : List EntryId}
    (hl : Trail a.enclosing i (i :: l)) : l.length < a.size := by
  exact hl.length_le hi fun _ _ hc => h.enclosing_lt_size hc

/-- A search without bases looks at the declaration and at the containers around it. -/
theorem Identified.search_outward (h : a.Identified) (hi : a.isDeclaration i = true)
    {l : List EntryId} (hl : Trail a.enclosing i (i :: l)) (names : List String) :
    a.search i names false = .ok (a.firstHit names (i :: l)) := by
  have hlength := h.length_around_lt (lt_of_isDeclaration hi) hl
  rw [search, if_neg Bool.false_ne_true]
  exact searchOutward_eq hl (isContainer_of_isDeclaration hi) (Nat.succ_lt_succ hlength)

/-- A search with bases looks at the chain of bases, and then around each of them. -/
theorem Identified.search_bases (h : a.Identified) (hi : a.isDeclaration i = true)
    (haround : ∀ b, Trail a.enclosing b (b :: around b)) (hbases : Trail a.baseOf i bases)
    (names : List String) :
    a.search i names true = .ok (a.firstHit names (bases ++ bases.reverse.flatMap around)) := by
  have hdecl : ∀ b ∈ bases, a.isDeclaration b = true :=
    hbases.forall_mem hi fun _ _ hc => isDeclaration_of_baseOf hc
  have hlength : bases.length ≤ a.size :=
    hbases.length_le (lt_of_isDeclaration hi) fun _ _ hc =>
      lt_of_isDeclaration (isDeclaration_of_baseOf hc)
  rw [search, if_pos rfl]
  apply searchBases_eq hbases hi (Nat.le_succ_of_le hlength)
  intro b hb
  have hlt := h.length_around_lt (lt_of_isDeclaration (hdecl b hb)) (haround b)
  exact ⟨haround b, Nat.le_of_lt hlt⟩

/-- There is no first hit just when none of the containers has a child under the names. -/
theorem ok_eq_none_iff {names : List String} {l : List EntryId} :
    Except.ok (a.firstHit names l) = (Except.ok none : Except Misuse _) ↔
      ∀ c ∈ l, a.child? c names = none := by
  rw [Except.ok.injEq, firstHit_eq_none_iff]

end Atlas

variable {settings : Settings} {files : List Source.File} {d : Draft} {r : Resolved}

/-- The outcome of a conversion is identified. -/
theorem convert_identified (h : Program.convert settings files = .ok (d, r)) :
    r.atlas.Identified := by
  obtain ⟨rfl, hresolves, -⟩ := Program.convert_ok h
  exact hresolves.identified (states_identified _ (ofFiles_mem_states settings files)).1

/-! ## The order -/

/-- In the outcome of a conversion there are containers around each declaration, up to the project
or to one that something else than a container holds. A search for a path of names from a
declaration is the first hit in the declaration and the containers around it. If its chain of first
bases is not circular, it comes to an end, and a search with bases is the first hit in the chain,
then in what is around the last base, and so on down to what is around the declaration. Either
search finds nothing exactly when none of these containers has a hit. -/
theorem convert_search (h : Program.convert settings files = .ok (d, r)) :
    ∃ around : EntryId → List EntryId,
      (∀ b, r.atlas.isDeclaration b = true → Trail r.atlas.enclosing b (b :: around b) ∧
        ∀ c, (b :: around b).getLast? = some c →
          c = Atlas.root ∨ ∃ p, r.atlas.parent? c = some p ∧ r.atlas.isContainer p = false) ∧
      ∀ i, r.atlas.isDeclaration i = true →
        (∀ names, r.atlas.search i names false = .ok (r.atlas.firstHit names (i :: around i)) ∧
          (r.atlas.search i names false = .ok none ↔
            ∀ c ∈ i :: around i, r.atlas.child? c names = none)) ∧
        (¬Circular r.atlas.baseOf i → ∃ bases, Trail r.atlas.baseOf i bases ∧
          ∀ names, r.atlas.search i names true =
              .ok (r.atlas.firstHit names (bases ++ bases.reverse.flatMap around)) ∧
            (r.atlas.search i names true = .ok none ↔
              ∀ c ∈ bases ++ bases.reverse.flatMap around, r.atlas.child? c names = none)) := by
  have hid := convert_identified h
  obtain ⟨around, haround⟩ := hid.exists_around
  refine ⟨around, ?_, ?_⟩
  · intro b hb
    refine ⟨haround b, fun c hc => ?_⟩
    have hlt : c < r.atlas.size :=
      (haround b).forall_mem (Atlas.lt_of_isDeclaration hb) (fun _ _ hp => hid.enclosing_lt_size hp)
        c (List.mem_of_getLast? hc)
    exact hid.of_enclosing_eq_none hlt ((haround b).next_getLast hc)
  · intro i hi
    constructor
    · intro names
      rw [hid.search_outward hi (haround i)]
      exact ⟨rfl, Atlas.ok_eq_none_iff⟩
    · intro hends
      obtain ⟨bases, hbases⟩ :=
        Trail.exists_of_not_circular (Atlas.lt_of_isDeclaration hi)
          (fun _ _ hc => Atlas.lt_of_isDeclaration (Atlas.isDeclaration_of_baseOf hc)) hends
      refine ⟨bases, hbases, fun names => ?_⟩
      rw [hid.search_bases hi haround hbases]
      exact ⟨rfl, Atlas.ok_eq_none_iff⟩

/-- A name that stands both around a class and around its base: a search with bases sees the one
around the base, a search without bases the one around the class. -/
theorem base_surroundings_first :
    let file : Source.File :=
      { name := "a.ts",
        decls := [
          { kind := .namespace, name := some "N", symbol := some "N",
            children := [{ kind := .variable, name := some "x", symbol := some "N.x" },
              { kind := .class, name := some "B", symbol := some "N.B" }] },
          { kind := .namespace, name := some "M", symbol := some "M",
            children := [{ kind := .variable, name := some "x", symbol := some "M.x" },
              { kind := .class, name := some "D", symbol := some "M.D",
                bases := [.ofReference "B" (some "N.B")] }] }] }
    ∃ d r, Program.convert {} [file] = .ok (d, r) ∧ r.atlas.isDeclaration 6 = true ∧
      r.atlas.search 6 ["x"] true = .ok (some 2) ∧ r.atlas.search 6 ["x"] false = .ok (some 5) ∧
      Trail r.atlas.baseOf 6 [6, 3] ∧
      ∃ around : EntryId → List EntryId, Trail r.atlas.enclosing 3 [3, 1, 0] ∧
        around 3 = [1, 0] ∧ around 6 = [4, 0] ∧
        ∀ names,
          r.atlas.search 6 names false = .ok (r.atlas.firstHit names (6 :: around 6)) ∧
          r.atlas.search 6 names true =
            .ok (r.atlas.firstHit names ([6, 3] ++ [3, 6].flatMap around)) := by
  intro file
  have hmade : (Program.convert {} [file]).toOption.map (fun made =>
      ([true, false].map (made.2.atlas.search 6 ["x"]), [6, 3].map made.2.atlas.isDeclaration,
        [6, 3].map made.2.atlas.baseOf, [6, 4, 3, 1, 0].map made.2.atlas.enclosing)) =
      some ([.ok (some 2), .ok (some 5)], [true, true], [some 3, none],
        [some 4, some 0, some 1, some 0, none]) := by
    decide +kernel
  obtain ⟨d, r, hconvert, hmade⟩ := Program.exists_convert hmade
  simp only [List.map_cons, List.map_nil, Prod.mk.injEq, List.cons.injEq, and_true] at hmade
  obtain ⟨⟨hwith, hwithout⟩, ⟨hclass, hbase⟩, ⟨hfirst, hlast⟩, h6, h4, h3, h1, h0⟩ := hmade
  have hbases : Trail r.atlas.baseOf 6 [6, 3] := .step hfirst (.last hlast)
  have hthree : Trail r.atlas.enclosing 3 [3, 1, 0] := .step h3 (.step h1 (.last h0))
  have hsix : Trail r.atlas.enclosing 6 [6, 4, 0] := .step h6 (.step h4 (.last h0))
  obtain ⟨around, haround, hsearch⟩ := convert_search hconvert
  obtain ⟨houtward, halong⟩ := hsearch 6 hclass
  obtain ⟨bases, htrail, hfound⟩ := halong hbases.not_circular
  obtain rfl := htrail.unique hbases
  have haround3 := (List.cons.inj ((haround 3 hbase).1.unique hthree)).2
  have haround6 := (List.cons.inj ((haround 6 hclass).1.unique hsix)).2
  exact ⟨d, r, hconvert, hclass, hwith, hwithout, hbases, around, hthree, haround3, haround6,
    fun names => ⟨(houtward names).1, (hfound names).1⟩⟩

/-! ## The end -/

/-- In the outcome of a conversion, a search with bases ends unless the chain of first bases is
circular and none of them has a hit. -/
theorem convert_search_ok_iff (h : Program.convert settings files = .ok (d, r)) {i : EntryId}
    (hi : r.atlas.isDeclaration i = true) (names : List String) :
    (∃ found, r.atlas.search i names true = .ok found) ↔ ¬Circular r.atlas.baseOf i ∨
      ∃ b, Relation.ReflTransGen (LeadsTo r.atlas.baseOf) i b ∧
        (r.atlas.child? b names).isSome = true :=
  (convert_identified h).search_ok_iff hi

namespace Program

/-- A conversion succeeds when there are files and, wherever a declaration asks for the
documentation that a path of names stands for, the chain of first bases of the declaration around it
is not circular or has a hit. -/
theorem convert_ok_iff_searches :
    (∃ made, convert settings files = .ok made) ↔ files ≠ [] ∧
      let a := (Draft.ofFiles settings files).atlas.resolveReferences
      ∀ e ∈ a.declarations, ∀ c t, a.commentOf e = some c →
        c.tag? Comment.inheritTag none = some t → t.text.isEmpty = false →
        Atlas.tagNames t.text ≠ [] → ∀ start, (a.parent? e).filter a.isDeclaration = some start →
          ¬Circular a.baseOf start ∨
            ∃ b, Relation.ReflTransGen (LeadsTo a.baseOf) start b ∧
              (a.child? b (Atlas.tagNames t.text)).isSome = true := by
  rw [convert_ok_iff]
  refine and_congr_right fun _ => forall₂_congr fun e _ => ?_
  unfold Atlas.SourceEnds
  refine forall₅_congr fun c t _ _ _ => ?_
  have hid := resolveReferences_identified settings files
  rw [Atlas.namedSource_ok_iff, or_iff_not_imp_left]
  refine imp_congr_right fun _ => forall₂_congr fun start hstart => ?_
  have hdecl := (Option.filter_eq_some_iff.1 hstart).2
  rw [← hid.search_ok_iff hdecl, Atlas.search, if_pos rfl]

/-- Two classes that extend each other, with a tag that names what neither of them has: the search
for it never ends, so the conversion fails. -/
theorem circular_bases_endless :
    let file : Source.File :=
      { name := "a.ts",
        decls := [
          { kind := .class, name := some "A", symbol := some "A",
            bases := [.ofReference "B" (some "B")],
            children := [
              { kind := .method, name := some "m", symbol := some "A#m",
                comment := some ⟨"", [⟨Comment.inheritTag, "Missing", none⟩]⟩ }] },
          { kind := .class, name := some "B", symbol := some "B",
            bases := [.ofReference "A" (some "A")] }] }
    convert {} [file] = .error (.misuse .endless) := by
  intro file
  have hfails : (convert {} [file]).toOption = none := by decide +kernel
  cases hconvert : convert {} [file] with
  | ok made =>
    rw [hconvert] at hfails
    cases hfails
  | error e => rw [convert_error hconvert, if_neg (List.cons_ne_nil _ _)]

end Program

end ApiAtlas
