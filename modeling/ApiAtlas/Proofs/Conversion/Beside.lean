import ApiAtlas.Proofs.Conversion.Children
import ApiAtlas.Proofs.Conversion.CoupledWalk

/-!
# A file beside others

A file none of whose symbols is registered yet is converted as if it were alone: on top of what is
there it adds the entries that it has alone, numbered behind the others. The conversion of the file
alone and the one on top of the others couple (`Coupling.beside`), so that they end in drafts that
stand `Beside` each other.
-/

set_option autoImplicit false

namespace ApiAtlas

open Source (Decl declsOf keepAll)

/-- The number that an entry has behind `n` others. The project keeps its number. -/
def behind (n i : Nat) : Nat :=
  if i = 0 then 0 else i + n

/-- The project keeps its number behind others. -/
@[simp]
theorem behind_root (n : Nat) : behind n Atlas.root = Atlas.root := rfl

/-- The number of any other entry grows by that of the others. -/
theorem behind_of_ne {n : Nat} {i : EntryId} (h : i ≠ Atlas.root) : behind n i = i + n :=
  if_neg h

/-- No other entry gets the number of the project. -/
theorem behind_ne_root {n : Nat} {i : EntryId} (h : i ≠ Atlas.root) : behind n i ≠ Atlas.root := by
  rw [behind_of_ne h]
  exact Nat.ne_of_gt (Nat.add_pos_left (Nat.pos_of_ne_zero h) n)

/-- Entries behind others come before the end that is moved with them. -/
theorem behind_lt {n i m : Nat} (h : i < m) : behind n i < m + n := by
  unfold behind
  split <;> omega

/-- No two entries get one number behind others. -/
theorem behind_injective (n : Nat) : Function.Injective (behind n) := by
  intro i j hij
  unfold behind at hij
  split at hij <;> split at hij <;> omega

/-- The second draft has the entries of the first one, behind those of a base, and the symbols of
both; which symbols may be those of the first one is given. -/
structure Draft.Beside (base : Draft) (n : Nat) (carried : String → Prop) (x y : Draft) : Prop where
  base_size : base.atlas.size = n + 1
  left : x.atlas.Identified
  right : y.atlas.Identified
  size : y.atlas.size = x.atlas.size + n
  entries : ∀ i, i ≠ Atlas.root →
    y.atlas.get? (i + n) = (x.atlas.get? i).map (Entry.rename (behind n))
  old : ∀ i, i ≠ Atlas.root → i < base.atlas.size → y.atlas.get? i = base.atlas.get? i
  project : Option.Rel (Entry.Alike (behind n)) (x.atlas.get? Atlas.root) (y.atlas.get? Atlas.root)
  children : y.atlas.childrenOf Atlas.root =
    base.atlas.childrenOf Atlas.root ++ (x.atlas.childrenOf Atlas.root).map (behind n)
  declared : ∀ s, carried s → y.atlas.symbols.get? s = (x.atlas.symbols.get? s).map (behind n)
  rest : ∀ s, ¬carried s →
    y.atlas.symbols.get? s = base.atlas.symbols.get? s ∧ x.atlas.symbols.get? s = none

namespace Entry

variable {φ : EntryId → EntryId} {e e' : Entry}

/-- Children do not matter to how an entry is read. -/
theorem Alike.mapMembers (h : e.Alike φ e') (f f' : Members → Members) :
    (e.mapMembers f).Alike φ (e'.mapMembers f') := by
  have same : ∀ (e : Entry) (f : Members → Members), (e.mapMembers f).name = e.name ∧
      (e.mapMembers f).kind = e.kind ∧ (e.mapMembers f).details? = e.details? ∧
      (e.mapMembers f).typeParameters = e.typeParameters ∧
      (e.mapMembers f).isTypeParameter = e.isTypeParameter ∧
      (e.mapMembers f).members?.isSome = e.members?.isSome := by
    intro e f
    obtain ⟨name, kind, flags, comment, parent, body⟩ := e
    cases body <;> exact ⟨rfl, rfl, rfl, rfl, rfl, rfl⟩
  obtain ⟨hn, hk, hd, ht, hi, hm⟩ := same e f
  obtain ⟨hn', hk', hd', ht', hi', hm'⟩ := same e' f'
  constructor
  case name => rw [hn, hn', h.name]
  case kind => rw [hk, hk', h.kind]
  case details => rw [hd, hd', h.details]
  case typeParameters => rw [ht, ht', h.typeParameters]
  case isTypeParameter => rw [hi, hi', h.isTypeParameter]
  case members => rw [hm, hm', h.members]

/-- Renumbering leaves an entry blank. -/
theorem isBlank_rename (h : e.IsBlank) : (e.rename φ).IsBlank := by
  obtain ⟨name, kind, flags, comment, parent, body⟩ := e
  cases body with
  | declaration m d =>
    obtain ⟨rfl, rfl, hk⟩ := h
    exact ⟨rfl, rfl, hk⟩
  | signature w =>
    obtain ⟨rfl, hk⟩ := h
    exact ⟨rfl, hk⟩
  | parameter type value =>
    obtain rfl : type = none := h
    rfl
  | typeParameter constraint default =>
    obtain ⟨rfl, rfl⟩ := h
    exact ⟨rfl, rfl⟩
  | _ => exact h

end Entry

namespace Draft.Beside

variable {base x y : Draft} {n : Nat} {carried : String → Prop}

/-- A draft that has another one beside it has more than the project. -/
theorem size_ne_root (h : Beside base n carried x y) : x.atlas.size ≠ Atlas.root :=
  Nat.ne_of_gt h.left.zero_lt_size

/-- Entries beside each other are alike but for their numbers. -/
theorem alike (h : Beside base n carried x y) (i : EntryId) :
    Option.Rel (Entry.Alike (behind n)) (x.atlas.get? i) (y.atlas.get? (behind n i)) := by
  by_cases hi : i = Atlas.root
  · rw [hi, behind_root]
    exact h.project
  · rw [behind_of_ne hi, h.entries i hi]
    cases x.atlas.get? i with
    | none => exact .none
    | some e => exact .some (e.alike_rename _)

/-- What can get children in a draft can get them beside a base. -/
theorem hosts (h : Beside base n carried x y) {i : EntryId} (hi : x.atlas.Hosts i) :
    y.atlas.Hosts (behind n i) := by
  obtain ⟨e, he, hm, hk⟩ := hi
  have hrel := h.alike i
  rw [he] at hrel
  generalize hy : y.atlas.get? (behind n i) = e' at hrel
  cases hrel with
  | some halike => exact ⟨_, hy, halike.members.trans hm, halike.kind.symm ▸ hk⟩

/-- The old entries and those of the base are before the ones to come. -/
theorem base_lt (h : Beside base n carried x y) {i : EntryId} (hi : i < base.atlas.size) :
    i < y.atlas.size := by
  have hzero : 0 < x.atlas.size := h.left.zero_lt_size
  refine Nat.lt_of_lt_of_le hi ?_
  rw [h.base_size, h.size]
  omega

/-- The entries of the base but the project are none of those behind them. -/
theorem ne_behind (h : Beside base n carried x y) {j : EntryId} (hj : j ≠ Atlas.root)
    (hlt : j < base.atlas.size) (i : EntryId) : j ≠ behind n i := by
  rintro rfl
  have hi : i ≠ Atlas.root := fun hi => hj (hi ▸ behind_root n)
  rw [h.base_size, behind_of_ne hi, Nat.add_comm n 1] at hlt
  exact hi (Nat.lt_one_iff.1 (Nat.lt_of_add_lt_add_right hlt))

/-- The next free number of a draft is moved behind the base. -/
theorem behind_size (h : Beside base n carried x y) : behind n x.atlas.size = y.atlas.size :=
  (behind_of_ne h.size_ne_root).trans h.size.symm

/-- What an edit of both drafts may do: it leaves the entries of the base but the project alone, and
does to the others what it does to those of the file alone. -/
theorem edited {x' y' : Draft} (h : Beside base n carried x y) (hx : x'.atlas.Identified)
    (hy : y'.atlas.Identified) (hsize : y'.atlas.size = x'.atlas.size + n)
    (hentries : ∀ i, i ≠ Atlas.root → y.atlas.get? (i + n) =
        (x.atlas.get? i).map (Entry.rename (behind n)) →
      y'.atlas.get? (i + n) = (x'.atlas.get? i).map (Entry.rename (behind n)))
    (hold : ∀ i, i ≠ Atlas.root → i < base.atlas.size → y'.atlas.get? i = y.atlas.get? i)
    (hproject : Option.Rel (Entry.Alike (behind n)) (x'.atlas.get? Atlas.root)
      (y'.atlas.get? Atlas.root))
    (hchildren : ∃ l, x'.atlas.childrenOf Atlas.root = x.atlas.childrenOf Atlas.root ++ l ∧
      y'.atlas.childrenOf Atlas.root = y.atlas.childrenOf Atlas.root ++ l.map (behind n))
    (hdeclared : ∀ s, carried s →
      y'.atlas.symbols.get? s = (x'.atlas.symbols.get? s).map (behind n))
    (hrest : ∀ s, ¬carried s → y'.atlas.symbols.get? s = y.atlas.symbols.get? s ∧
      x'.atlas.symbols.get? s = x.atlas.symbols.get? s) :
    Beside base n carried x' y' where
  base_size := h.base_size
  left := hx
  right := hy
  size := hsize
  entries i hi := hentries i hi (h.entries i hi)
  old i hi hlt := (hold i hi hlt).trans (h.old i hi hlt)
  project := hproject
  children := by
    obtain ⟨l, hl, hl'⟩ := hchildren
    rw [hl, hl', h.children, List.map_append, List.append_assoc]
  declared := hdeclared
  rest s hs :=
    ⟨(hrest s hs).1.trans (h.rest s hs).1, (hrest s hs).2.trans (h.rest s hs).2⟩

/-- Drafts are still beside each other after a blank entry is added to both. -/
theorem add (h : Beside base n carried x y) {e : Entry} {p : EntryId} (hp : e.parent = some p)
    (hlt : p < x.atlas.size) (hb : e.IsBlank) :
    Beside base n carried { x with atlas := (x.atlas.add e).1 }
      { y with atlas := (y.atlas.add (e.rename (behind n))).1 } := by
  have hb' := e.isBlank_rename (φ := behind n) hb
  have hp' : (e.rename (behind n)).parent = some (behind n p) := by
    rw [Entry.rename_parent, hp, Option.map_some]
  have hlt' : behind n p < y.atlas.size := h.size ▸ behind_lt hlt
  refine h.edited (h.left.add hp hlt hb) (h.right.add hp' hlt' hb') ?_ (fun i hi hget => ?_)
    (fun i _ hlt => ?_) ?_ ⟨[], ?_, ?_⟩ h.declared fun _ _ => ⟨rfl, rfl⟩
  · simp only [Atlas.size_add, h.size, Nat.add_right_comm]
  · have hiff : i + n = y.atlas.size ↔ i = x.atlas.size := by rw [h.size, Nat.add_right_cancel_iff]
    simp only [Atlas.get?_add, hiff]
    split
    · rfl
    · exact hget
  · exact Atlas.get?_add_of_lt _ (h.base_lt hlt)
  · dsimp only
    rw [Atlas.get?_add_of_lt _ h.left.zero_lt_size, Atlas.get?_add_of_lt _ h.right.zero_lt_size]
    exact h.project
  · rw [List.append_nil, Atlas.childrenOf_add fun _ => hb.members]
  · rw [List.map_nil, List.append_nil, Atlas.childrenOf_add fun _ => hb'.members]

/-- Drafts are still beside each other after a change that goes with renumbering is made in both. -/
theorem change (h : Beside base n carried x y) {i : EntryId} {f f' : Entry → Entry}
    (hi : i ≠ Atlas.root) (hf : ∀ e, (f e).rename (behind n) = f' (e.rename (behind n)))
    (hkeeps : ∀ e, x.atlas.get? i = some e → e.Keeps (f e) ∧ (f e).members? = e.members?) :
    Beside base n carried { x with atlas := x.atlas.modify i f }
      { y with atlas := y.atlas.modify (behind n i) f' } := by
  have hkeeps' : ∀ e, y.atlas.get? (behind n i) = some e →
      e.Keeps (f' e) ∧ (f' e).members? = e.members? := by
    intro e he
    rw [behind_of_ne hi, h.entries i hi] at he
    obtain ⟨e₀, he₀, rfl⟩ := Option.map_eq_some_iff.1 he
    obtain ⟨hkeep, hmembers⟩ := hkeeps e₀ he₀
    rw [← hf]
    exact ⟨e₀.keeps_rename _ hkeep, by rw [Entry.members?_rename, hmembers, Entry.members?_rename]⟩
  refine h.edited (h.left.modify hkeeps) (h.right.modify hkeeps') ?_ (fun j hj hget => ?_)
    (fun j hj hlt => ?_) ?_ ⟨[], ?_, ?_⟩ h.declared fun _ _ => ⟨rfl, rfl⟩
  · simp only [Atlas.size_modify, h.size]
  · have hiff : behind n i = j + n ↔ i = j := by
      rw [behind_of_ne hi, Nat.add_right_cancel_iff]
    simp only [Atlas.get?_modify, hiff, hget]
    split
    · cases x.atlas.get? j with
      | none => rfl
      | some e => exact congrArg some (hf e).symm
    · rfl
  · exact Atlas.get?_modify_of_ne _ (h.ne_behind hj hlt i)
  · dsimp only
    rw [Atlas.get?_modify_of_ne _ hi.symm, Atlas.get?_modify_of_ne _ (behind_ne_root hi).symm]
    exact h.project
  · rw [List.append_nil, Atlas.childrenOf_modify fun e he => (hkeeps e he).2]
  · rw [List.map_nil, List.append_nil, Atlas.childrenOf_modify fun e he => (hkeeps' e he).2]

/-- Drafts are still beside each other after a free symbol is entered in both. -/
theorem enter (h : Beside base n carried x y) {i : EntryId} {e : Entry} {d : Details} {s : String}
    (hb : e.body = .declaration {} d) (hd : d = { symbol := some s, origin := d.origin })
    (hl : e.kind ≠ .typeLiteral) (hfree : x.atlas.symbols.get? s = none) (hc : carried s)
    (hi : x.atlas.Hosts i) :
    Beside base n carried { x with atlas := (x.atlas.enter i e (some s)).1 }
      { y with atlas := (y.atlas.enter (behind n i) (e.rename (behind n)) (some s)).1 } := by
  have hi' := h.hosts hi
  have hb' : (e.rename (behind n)).body = .declaration {} (d.rename (behind n)) := by
    rw [Entry.rename, hb]
    rfl
  have hd' : (d.rename (behind n)).symbol = some s := by
    rw [hd]
    rfl
  have hfree' : y.atlas.symbols.get? s = none := by rw [h.declared s hc, hfree, Option.map_none]
  have hget := Atlas.get?_enter e (some s) hi.lt (h.left.size_notMem_childrenOf i)
  have hget' := Atlas.get?_enter (e.rename (behind n)) (some s) hi'.lt
    (h.right.size_notMem_childrenOf (behind n i))
  have hroot : Atlas.root ≠ x.atlas.size := Ne.symm h.size_ne_root
  have hroot' : Atlas.root ≠ y.atlas.size := Nat.ne_of_lt h.right.zero_lt_size
  have hiroot : Atlas.root = behind n i ↔ Atlas.root = i :=
    ⟨fun hi => behind_injective n ((behind_root n).trans hi), fun hi => hi ▸ (behind_root n).symm⟩
  -- The new entry is the last one on both sides, and the scope gets it as a child on both sides.
  refine h.edited (h.left.enter hb (by rw [hd]) hfree hl hi.lt)
    (h.right.enter hb' hd' hfree' hl hi'.lt) ?_ (fun j hj hold => ?_) (fun j hj hlt => ?_) ?_ ?_
    (fun t ht => ?_) fun t ht => ?_
  · simp only [Atlas.size_enter, h.size, Nat.add_right_comm]
  · have hsize : j + n = y.atlas.size ↔ j = x.atlas.size := by
      rw [h.size, Nat.add_right_cancel_iff]
    have hscope : j + n = behind n i ↔ j = i := by
      rw [← behind_of_ne hj, (behind_injective n).eq_iff]
    simp only [hget, hget', hsize, hscope, hold, Entry.rename_name]
    split
    · rfl
    · split
      · rw [Option.map_map, Option.map_map]
        refine Option.map_congr fun e₀ _ => ?_
        refine (e₀.rename_mapMembers _ fun m => ?_).symm
        rw [m.rename_insert, h.behind_size]
      · rfl
  · -- The entries of the base are neither new nor the scope.
    dsimp only
    rw [hget', if_neg (Nat.ne_of_lt (h.base_lt hlt)), if_neg (h.ne_behind hj hlt i)]
  · simp only [hget, hget', if_neg hroot, if_neg hroot', hiroot]
    have hrel := h.project
    split
    · revert hrel
      cases x.atlas.get? Atlas.root <;> cases y.atlas.get? Atlas.root <;> intro hrel <;> cases hrel
      · exact .none
      · next halike => exact .some (halike.mapMembers _ _)
    · exact hrel
  · simp only [h.left.childrenOf_enter hb hi, h.right.childrenOf_enter hb' hi', hiroot]
    split
    · next hroot =>
      subst hroot
      exact ⟨[x.atlas.size], rfl, by rw [List.map_singleton, h.behind_size]; rfl⟩
    · exact ⟨[], by simp⟩
  · simp only [Atlas.symbols_enter]
    by_cases hts : t = s
    · subst hts
      rw [Table.get?_put_self, Table.get?_put_self, Option.map_some, h.behind_size]
    · rw [Table.get?_put_of_ne _ _ hts, Table.get?_put_of_ne _ _ hts, h.declared t ht]
  · -- Symbols that may not be carried are not the entered one.
    simp only [Atlas.symbols_enter]
    have hts : t ≠ s := fun hts => ht (hts ▸ hc)
    exact ⟨Table.get?_put_of_ne _ _ hts, Table.get?_put_of_ne _ _ hts⟩

end Draft.Beside

/-- The coupling of the conversion of a file alone with its conversion on top of a base. -/
def Coupling.beside (settings : Settings) (base : Draft) (n : Nat) (carried : String → Prop) :
    Coupling where
  rename := behind n
  before := settings
  after := settings
  drop := keepAll
  strict := False
  Carried := carried
  Related := Draft.Beside base n carried
  Same _ _ := True
  drop_declared h := absurd h Bool.false_ne_true
  drop_unwanted h := absurd h Bool.false_ne_true
  keep_wanted _ _ _ := rfl
  identified h := h.left
  alike h := h.alike
  fresh h := h.behind_size.symm
  lookup h _ hs := h.declared _ hs
  same _ := trivial
  same_signature _ _ _ _ := trivial
  report h _ _ _ := ⟨h.base_size, h.left, h.right, h.size, h.entries, h.old, h.project, h.children,
    h.declared, h.rest⟩
  add h _ _ hp hlt hb := h.add hp hlt hb
  enter h _ _ _ _ hb hd hl hfree hc hi := h.enter hb hd hl hfree hc hi
  change h _ _ _ hi hf hkeeps := h.change hi hf hkeeps

/-! ## Files -/

/-- Whether a declaration of a file, or the module that the file becomes, carries a symbol. -/
def Source.File.Carries (f : Source.File) (mode : Mode) (s : String) : Prop :=
  ∃ d ∈ declsOf (f.topDecls mode), d.Carries s

/-- What a file is converted to when there are no others. -/
def Draft.alone (settings : Settings) (f : Source.File) : Draft :=
  ((Conv.convertFile settings f).run (Draft.start settings)).2

namespace Draft.Beside

variable {base x y : Draft} {n : Nat} {carried : String → Prop}

/-- Which entries came from which file does not matter. -/
theorem files (h : Beside base n carried x y) (t t' : Table String (List EntryId)) :
    Beside base n carried { x with atlas := { x.atlas with files := t } }
      { y with atlas := { y.atlas with files := t' } } where
  base_size := h.base_size
  left := h.left.of_extends (fun _ e he => ⟨e, he, .refl e⟩) rfl rfl fun _ => rfl
  right := h.right.of_extends (fun _ e he => ⟨e, he, .refl e⟩) rfl rfl fun _ => rfl
  size := h.size
  entries := h.entries
  old := h.old
  project := h.project
  children := h.children
  declared := h.declared
  rest := h.rest

/-- Before anything is converted. -/
theorem start {settings : Settings} (hbase : base.atlas.Identified)
    (hname : base.atlas.nameOf Atlas.root = settings.name) (hn : base.atlas.size = n + 1)
    (hfree : ∀ s, carried s → base.atlas.symbols.get? s = none) :
    Beside base n carried (Draft.start settings) base where
  base_size := hn
  left := start_identified settings
  right := hbase
  size := hn.trans (Nat.add_comm n 1)
  entries i hi := by
    have hlt : 1 ≤ i := Nat.one_le_iff_ne_zero.2 hi
    have hnew : (Draft.start settings).atlas.get? i = none := Atlas.get?_eq_none hlt
    rw [hnew, Atlas.get?_eq_none (hn ▸ Nat.add_comm n 1 ▸ Nat.add_le_add_right hlt n)]
    rfl
  old _ _ _ := rfl
  project := by
    obtain ⟨e, m, he, hb, hk, -⟩ := hbase.project
    have hname : e.name = settings.name := by
      rw [← hname, Atlas.nameOf, he]
      rfl
    have hroot : (Draft.start settings).atlas.get? Atlas.root =
        some { name := settings.name, kind := .project, body := .project {} } := rfl
    obtain ⟨name, kind, flags, comment, parent, body⟩ := e
    obtain rfl : body = .project m := hb
    rw [hroot, he]
    exact .some ⟨hname, hk, rfl, rfl, rfl, rfl⟩
  children := (List.append_nil _).symm
  declared s hs := hfree s hs
  rest _ _ := ⟨rfl, rfl⟩

end Draft.Beside

/-- A file none of whose symbols is registered yet is converted as if it were alone. -/
theorem Conv.convertFile_beside {settings : Settings} {f : Source.File} {base : Draft} {n : Nat}
    (hbase : base.atlas.Identified) (hname : base.atlas.nameOf Atlas.root = settings.name)
    (hn : base.atlas.size = n + 1)
    (hfree : ∀ s, f.Carries settings.mode s → base.atlas.symbols.get? s = none) :
    Draft.Beside base n (f.Carries settings.mode) (Draft.alone settings f)
      ((convertFile settings f).run base).2 := by
  have hstart := Draft.Beside.start hbase hname hn hfree
  unfold Draft.alone convertFile
  split
  · let K := Coupling.beside settings base n (f.Carries settings.mode)
    let site : Site := ⟨Atlas.root, [], some f.name, f.isExternalIn settings, settings⟩
    have hallow : K.Allows (declsOf (f.topDecls settings.mode)) :=
      ⟨fun d hd s hs => ⟨d, hd, hs⟩, False.elim⟩
    have hcouples := topDecls_couples (K := K) (s := site) hstart rfl rfl hallow
    have hstrip : f.strip K.drop = f := f.strip_keepAll
    rw [hstrip] at hcouples
    obtain ⟨t, ht⟩ := foldl_noteFile f.name
      ((convertDecls (K.left site) (f.topDecls settings.mode)).run (Draft.start settings)).1
      ((convertDecls (K.left site) (f.topDecls settings.mode)).run (Draft.start settings)).2.atlas
    obtain ⟨t', ht'⟩ := foldl_noteFile f.name
      ((convertDecls (K.right site) (f.topDecls settings.mode)).run base).1
      ((convertDecls (K.right site) (f.topDecls settings.mode)).run base).2.atlas
    have hfiles := Draft.Beside.files hcouples.related t t'
    rw [← ht, ← ht'] at hfiles
    exact hfiles
  · exact hstart

end ApiAtlas
