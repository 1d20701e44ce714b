import ApiAtlas.Program
import ApiAtlas.Proofs.Atlas.Held
import ApiAtlas.Proofs.Atlas.Tidy
import ApiAtlas.Proofs.Atlas.Traversal
import ApiAtlas.Proofs.Conversion.Ownership
import ApiAtlas.Proofs.Resolution.TakeOver
import ApiAtlas.Proofs.Ty.Renamed
import ApiAtlas.Resolution.References

/-!
# The outcome of a conversion

Resolving references leaves all of an atlas as it is but the types: an entry holds the types it
held, each with its references resolved, and owns what it owned. So a successful conversion results
in the atlas of the converted files with its types resolved and its comments inherited
(`Atlas.Resolves`), and the references that were left without a target. Entries are identified and
own what they owned; every entry but the project is owned once, whatever declarations were merged.
-/

set_option autoImplicit false

/-! ## Other types -/

namespace ApiAtlas

namespace Entry

variable (f : Ty → Ty) (e : Entry)

/-- A change of types leaves the name. -/
@[simp]
theorem mapTypes_name : (e.mapTypes f).name = e.name := by
  unfold mapTypes
  split <;> rfl

/-- A change of types leaves the kind. -/
@[simp]
theorem mapTypes_kind : (e.mapTypes f).kind = e.kind := by
  unfold mapTypes
  split <;> rfl

/-- A change of types leaves the flags. -/
@[simp]
theorem mapTypes_flags : (e.mapTypes f).flags = e.flags := by
  unfold mapTypes
  split <;> rfl

/-- A change of types leaves the parent. -/
@[simp]
theorem mapTypes_parent : (e.mapTypes f).parent = e.parent := by
  unfold mapTypes
  split <;> rfl

/-- A change of types leaves the form of the body. -/
@[simp]
theorem ctorIdx_body_mapTypes : (e.mapTypes f).body.ctorIdx = e.body.ctorIdx := by
  obtain ⟨name, kind, flags, comment, parent, body⟩ := e
  cases body <;> rfl

/-- A change of types leaves the members. -/
@[simp]
theorem members?_mapTypes : (e.mapTypes f).members? = e.members? := by
  obtain ⟨name, kind, flags, comment, parent, body⟩ := e
  cases body <;> rfl

/-- A change of types leaves the symbol. -/
@[simp]
theorem symbol?_mapTypes : (e.mapTypes f).symbol? = e.symbol? := by
  obtain ⟨name, kind, flags, comment, parent, body⟩ := e
  cases body <;> rfl

/-- A change of types leaves the lists of entries. -/
@[simp]
theorem idLists_mapTypes : (e.mapTypes f).idLists = e.idLists := by
  obtain ⟨name, kind, flags, comment, parent, body⟩ := e
  cases body <;> rfl

/-- A change of types changes the types that the entry has itself. -/
@[simp]
theorem ownTypes_mapTypes : (e.mapTypes f).ownTypes = e.ownTypes.map f := by
  obtain ⟨name, kind, flags, comment, parent, body⟩ := e
  cases body <;> simp [mapTypes, ownTypes, Option.toList_map]

/-- The signatures of a declaration are the same. -/
theorem exists_details?_of_mapTypes {d : Details} (h : (e.mapTypes f).details? = some d) :
    ∃ d₀, e.details? = some d₀ ∧ d.allSignatures = d₀.allSignatures := by
  obtain ⟨name, kind, flags, comment, parent, body⟩ := e
  cases body with
  | declaration m d₀ =>
    cases h
    exact ⟨d₀, rfl, rfl⟩
  | _ => cases h

/-- A change of types keeps what is known of the entry. -/
theorem keeps_mapTypes : e.Keeps (e.mapTypes f) :=
  ⟨mapTypes_name f e, mapTypes_parent f e, ctorIdx_body_mapTypes f e, symbol?_mapTypes f e,
    fun _ => mapTypes_kind f e, by rw [mapTypes_kind], by rw [mapTypes_kind]⟩

/-- An entry whose types keep their inline declarations holds what it held. -/
theorem held_mapTypes (hf : ∀ t, (f t).literals = t.literals) :
    (e.mapTypes f).held = e.held := by
  have list : ∀ ts : List Ty, (ts.map f).flatMap Ty.literals = ts.flatMap Ty.literals := by
    intro ts
    rw [List.flatMap_map]
    exact congrArg ts.flatMap (funext hf)
  obtain ⟨name, kind, flags, comment, parent, body⟩ := e
  cases body <;> simp [mapTypes, held, Details.held, Shape.held, Option.toList_map, list]

/-- An entry is shown as it was before its types were resolved. -/
theorem text_mapTypes_resolve (lookup : Option String → Option EntryId) :
    (e.mapTypes (Ty.resolve lookup)).text = e.text := by
  have htext : ∀ t : Ty, (t.resolve lookup).text = t.text := Ty.text_resolve lookup
  obtain ⟨name, kind, flags, comment, parent, body⟩ := e
  cases body with
  | declaration m d => cases ht : d.type <;> simp [text, mapTypes, details?, ht, htext]
  | _ => rfl

end Entry

namespace Atlas

variable {a : Atlas} {i : EntryId}

/-- Once references are resolved, the entries are those from before with their types resolved. -/
theorem get?_resolveReferences (a : Atlas) (i : EntryId) :
    a.resolveReferences.get? i = (a.get? i).map (·.mapTypes (Ty.resolve a.lookup)) :=
  Array.getElem?_map

/-- Resolving references extends an atlas. -/
theorem extends_resolveReferences (a : Atlas) : a.Extends a.resolveReferences := by
  intro i e he
  exact ⟨_, by rw [get?_resolveReferences, he]; rfl, e.keeps_mapTypes _⟩

end Atlas

end ApiAtlas

/-! ## What resolution leaves -/

namespace ApiAtlas

/-- However the walk over comments goes, only comments change. -/
theorem CommentWalk.visit_recommented {links : Array Links} {n : Nat} {path : List EntryId}
    {d : EntryId} {w w' : CommentWalk} (h : visit links n path d w = .ok w') :
    w.atlas.Recommented w'.atlas := by
  induction hm : offPath n path using Nat.strongRecOn generalizing path d w w' with
  | ind m ih =>
    rw [visit] at h
    split at h
    · next hcond =>
      split at h
      · exact Except.ok.inj h ▸ .refl _
      · obtain ⟨source, -, h⟩ := Except.exists_of_bind_eq_ok h
        cases source with
        | none => exact Except.ok.inj h ▸ .refl _
        | some s =>
          obtain ⟨v, hv, h⟩ := Except.exists_of_bind_eq_ok h
          have hlt := offPath_cons_lt hcond.1 hcond.2
          exact Except.ok.inj h ▸
            (ih _ (hm ▸ hlt) hv rfl).trans (Atlas.recommented_takeOver v.atlas d s)
    · exact Except.ok.inj h ▸ .refl _

namespace Atlas

variable {a b : Atlas} {i : EntryId}

/-- Inheriting comments changes comments only. -/
theorem inheritComments_recommented {links : Array Links} (h : a.inheritComments links = .ok b) :
    a.Recommented b := by
  have walked : ∀ (order : List EntryId) (w w' : CommentWalk),
      order.foldlM (fun w id => CommentWalk.visit links a.size [] id w) w = .ok w' →
      w.atlas.Recommented w'.atlas := by
    intro order
    induction order with
    | nil => exact fun w w' hw => Except.ok.inj hw ▸ .refl _
    | cons d order ih =>
      intro w w' hw
      rw [List.foldlM_cons] at hw
      obtain ⟨v, hv, hw⟩ := Except.exists_of_bind_eq_ok hw
      exact (CommentWalk.visit_recommented hv).trans (ih v w' hw)
  obtain ⟨w, hw, hb⟩ := Except.exists_of_bind_eq_ok h
  exact Except.ok.inj hb ▸ walked _ _ w hw

/-- The second atlas is what resolution makes of the first one. -/
structure Resolves (a b : Atlas) : Prop where
  symbols : b.symbols = a.symbols
  entries : ∀ i, ∃ c, b.get? i =
    (a.get? i).map fun e => { e.mapTypes (Ty.resolve a.lookup) with comment := c }

/-- Resolving references leaves the comments alone. -/
theorem resolves_resolveReferences (a : Atlas) : a.Resolves a.resolveReferences := by
  refine ⟨rfl, fun i => ?_⟩
  rw [get?_resolveReferences]
  cases a.get? i with
  | none => exact ⟨none, rfl⟩
  | some e => exact ⟨(e.mapTypes (Ty.resolve a.lookup)).comment, rfl⟩

/-- Completing an atlas whose references are resolved only changes comments. -/
theorem resolves_of_complete {links : Array Links}
    (h : a.resolveReferences.complete = .ok (b, links)) : a.Resolves b := by
  obtain ⟨found, -, h⟩ := Except.exists_of_bind_eq_ok h
  obtain ⟨documented, hdocumented, h⟩ := Except.exists_of_bind_eq_ok h
  obtain ⟨rfl, -⟩ := Prod.mk.inj (Except.ok.inj h)
  have hsame := inheritComments_recommented hdocumented
  refine ⟨hsame.symbols, fun i => ?_⟩
  obtain ⟨c, hc⟩ := hsame.entries i
  rw [get?_resolveReferences, Option.map_map] at hc
  exact ⟨c, hc⟩

namespace Resolves

/-- An entry is in what resolution makes, with its types resolved and some comment, or none. -/
theorem of_get? (h : a.Resolves b) {e : Entry} (he : a.get? i = some e) :
    ∃ c, b.get? i = some { e.mapTypes (Ty.resolve a.lookup) with comment := c } := by
  obtain ⟨c, hc⟩ := h.entries i
  exact ⟨c, by rw [hc, he]; rfl⟩

/-- An entry of what resolution makes was there before, but for its comment and the targets of its
types. -/
theorem exists_get? (h : a.Resolves b) {e : Entry} (he : b.get? i = some e) :
    ∃ e₀ c, a.get? i = some e₀ ∧ e = { e₀.mapTypes (Ty.resolve a.lookup) with comment := c } := by
  obtain ⟨c, hc⟩ := h.entries i
  rw [he] at hc
  obtain ⟨e₀, he₀, heq⟩ := Option.map_eq_some_iff.1 hc.symm
  exact ⟨e₀, c, he₀, heq.symm⟩

/-- What is read off an entry without its comment and targets is the same after resolving. -/
theorem bind_eq (h : a.Resolves b) {β : Type} (f : Entry → Option β)
    (hf : ∀ e c, f { e.mapTypes (Ty.resolve a.lookup) with comment := c } = f e) :
    (b.get? i).bind f = (a.get? i).bind f := by
  obtain ⟨c, hc⟩ := h.entries i
  rw [hc]
  cases a.get? i with
  | none => rfl
  | some e => exact hf e c

/-- Resolution extends an atlas. -/
theorem grows (h : a.Resolves b) : a.Extends b := by
  intro i e he
  obtain ⟨c, hc⟩ := h.of_get? he
  have hkeep := e.keeps_mapTypes (Ty.resolve a.lookup)
  exact ⟨_, hc, hkeep.name, hkeep.parent, hkeep.form, hkeep.symbol, hkeep.kind, hkeep.accessor,
    hkeep.literal⟩

/-- Resolution leaves the number of entries. -/
theorem size_eq (h : a.Resolves b) : b.size = a.size := by
  refine Nat.le_antisymm (Nat.le_of_not_lt fun hlt => ?_) h.grows.size_le
  obtain ⟨e, he⟩ := Atlas.exists_get? hlt
  obtain ⟨e₀, -, he₀, -⟩ := h.exists_get? he
  exact Nat.lt_irrefl _ (get?_lt he₀)

/-- Resolution leaves the parent of an entry. -/
theorem parent?_eq (h : a.Resolves b) : b.parent? i = a.parent? i :=
  h.bind_eq _ fun e _ => e.mapTypes_parent _

/-- Resolution leaves the name of an entry. -/
theorem nameOf_eq (h : a.Resolves b) (i : EntryId) : b.nameOf i = a.nameOf i := by
  obtain ⟨c, hc⟩ := h.entries i
  rw [nameOf, hc, Option.map_map, nameOf]
  exact congrArg (Option.getD · "") (Option.map_congr fun e _ => e.mapTypes_name _)

/-- Resolution leaves the flags of an entry. -/
theorem hasFlag_eq (h : a.Resolves b) (i : EntryId) (f : Flag) :
    b.hasFlag i f = a.hasFlag i f := by
  obtain ⟨c, hc⟩ := h.entries i
  rw [hasFlag, hc, Option.map_map, hasFlag]
  exact congrArg (Option.getD · false) (Option.map_congr fun e _ =>
    congrArg (·.has f) (e.mapTypes_flags _))

/-- Resolution leaves the children of an entry. -/
theorem childrenOf_eq (h : a.Resolves b) (p : EntryId) : b.childrenOf p = a.childrenOf p := by
  have hmembers := h.bind_eq (i := p) (·.members?) fun e _ => e.members?_mapTypes _
  rw [childrenOf, hmembers, childrenOf]

/-- An atlas is identified still after resolving. -/
theorem identified (h : a.Resolves b) (ha : a.Identified) : b.Identified :=
  ha.of_extends h.grows h.size_eq h.symbols h.childrenOf_eq

/-- Entries own what they owned. -/
theorem tidy (h : a.Resolves b) (ha : a.Tidy []) : b.Tidy [] := by
  have held : ∀ (e : Entry) c,
      Entry.held { e.mapTypes (Ty.resolve a.lookup) with comment := c } = e.held :=
    fun e _ => e.held_mapTypes _ (Ty.literals_resolve a.lookup)
  constructor
  case nodup_pending => exact List.nodup_nil
  case pending_lt => exact nofun
  case nodup_held =>
    intro p e he
    obtain ⟨e₀, c, he₀, rfl⟩ := h.exists_get? he
    rw [held]
    exact ha.nodup_held p e₀ he₀
  case mem_held =>
    intro p e q he
    obtain ⟨e₀, c, he₀, rfl⟩ := h.exists_get? he
    rw [held, h.parent?_eq]
    exact ha.mem_held p e₀ q he₀
  case increasing =>
    intro p e he
    obtain ⟨e₀, c, he₀, rfl⟩ := h.exists_get? he
    have hlists := e₀.idLists_mapTypes (Ty.resolve a.lookup)
    intro ids hids
    exact ha.increasing p e₀ he₀ ids (hlists ▸ hids)

end Resolves

end Atlas

/-- A successful conversion completes the atlas of the files after its references are resolved. -/
theorem Program.convert_completes {settings : Settings} {files : List Source.File} {d : Draft}
    {r : Resolved} (h : convert settings files = .ok (d, r)) :
    d = Draft.ofFiles settings files ∧
      d.atlas.resolveReferences.complete = .ok (r.atlas, r.links) ∧
      r.unresolved = d.atlas.dangling.map (·.2) ∧
      r.diagnostics = d.atlas.dangling.map fun q => d.atlas.danglingReport q.1 q.2 := by
  unfold convert at h
  split at h
  · cases h
  · dsimp only at h
    split at h
    · next resolved hresolved =>
      obtain ⟨rfl, rfl⟩ := Prod.mk.inj (Except.ok.inj h)
      unfold Atlas.resolve at hresolved
      split at hresolved
      · cases hresolved
      · dsimp only at hresolved
        split at hresolved
        · next closed links hcomplete =>
          obtain rfl := Except.ok.inj hresolved
          exact ⟨rfl, hcomplete, rfl, rfl⟩
        · cases hresolved
    · cases h

/-- A successful conversion gives the draft of the files, what resolution makes of its atlas, and
the references that have no target, with their reports. -/
theorem Program.convert_ok {settings : Settings} {files : List Source.File} {d : Draft}
    {r : Resolved} (h : convert settings files = .ok (d, r)) :
    d = Draft.ofFiles settings files ∧ d.atlas.Resolves r.atlas ∧
      r.unresolved = d.atlas.dangling.map (·.2) ∧
      r.diagnostics = d.atlas.dangling.map fun q => d.atlas.danglingReport q.1 q.2 := by
  obtain ⟨hd, hcomplete, hrest⟩ := convert_completes h
  exact ⟨hd, Atlas.resolves_of_complete hcomplete, hrest⟩

/-- What is computed from the result of a conversion shows that there is one. -/
theorem Program.exists_convert {settings : Settings} {files : List Source.File} {β : Type}
    {f : Draft × Resolved → β} {v : β} (h : (convert settings files).toOption.map f = some v) :
    ∃ d r, convert settings files = .ok (d, r) ∧ f (d, r) = v := by
  obtain ⟨made, hmade, hv⟩ := Option.map_eq_some_iff.1 h
  cases hconvert : convert settings files with
  | error e =>
    rw [hconvert] at hmade
    cases hmade
  | ok made' =>
    rw [hconvert] at hmade
    obtain rfl := Option.some.inj hmade
    exact ⟨made'.1, made'.2, rfl, hv⟩

end ApiAtlas

/-! ## Ownership in the outcome -/

namespace ApiAtlas

/-- If no declaration inside a type carries the symbol of a declaration, or of the module of a
file, around that type, then following the slots from the project leads to every other entry once,
to each from its parent, and the lists of entries are increasing. -/
theorem convert_ownsOnce (settings : Settings) (files : List Source.File)
    (hap : ∀ f ∈ files, Source.Apart (Source.declsOf (f.topDecls settings.mode))) :
    (Draft.ofFiles settings files).atlas.OwnsOnce ∧
      ∀ d r, Program.convert settings files = .ok (d, r) → r.atlas.OwnsOnce := by
  have hid := (states_identified _ (ofFiles_mem_states settings files)).1
  have htidy := ofFiles_tidy hap
  refine ⟨htidy.ownsOnce hid, fun d r h => ?_⟩
  obtain ⟨rfl, hresolves, -⟩ := Program.convert_ok h
  exact (hresolves.tidy htidy).ownsOnce (hresolves.identified hid)

/-- The outcome for two declarations of one class, the first of which has an inline type in a
property and the second a method and a base. -/
theorem merged_class_ownsOnce :
    let file : Source.File :=
      { name := "a.ts",
        decls :=
          [{ kind := .class, name := some "A", symbol := some "A",
             children :=
               [{ kind := .property, name := some "p", symbol := some "A.p",
                  type := some
                    { form := .object,
                      members :=
                        [{ kind := .property, name := some "q", symbol := some "A.p.q" }] } }] },
           { kind := .class, name := some "A", symbol := some "A",
             bases := [{ form := .reference, name := some "B", symbol := some "B" }],
             children := [{ kind := .method, name := some "m", symbol := some "A.m" }] }] }
    ∃ d r, Program.convert {} [file] = .ok (d, r) ∧ r.atlas.size = 7 ∧ r.atlas.OwnsOnce := by
  intro file
  have hap : ∀ f ∈ [file], Source.Apart (Source.declsOf (f.topDecls ({} : Settings).mode)) := by
    decide +kernel
  have hsize : (Program.convert {} [file]).toOption.map (·.2.atlas.size) = some 7 := by
    decide +kernel
  cases hconvert : Program.convert {} [file] with
  | error e =>
    rw [hconvert] at hsize
    cases hsize
  | ok made =>
    obtain ⟨d, r⟩ := made
    rw [hconvert] at hsize
    exact ⟨d, r, rfl, Option.some.inj hsize, (convert_ownsOnce {} [file] hap).2 d r hconvert⟩

end ApiAtlas
