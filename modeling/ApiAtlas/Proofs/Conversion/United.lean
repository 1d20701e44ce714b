import ApiAtlas.Proofs.Conversion.Inherits
import ApiAtlas.Proofs.Conversion.LawWalk
import ApiAtlas.Proofs.Conversion.Sight

/-!
# United heritage

What the declarations of a class extend is united in order of occurrence (`Conv.openClass_unites`).
A type is left out if one before it has the same key and it holds no inline declaration
(`Conv.extendHeritage_concat`). So the key of every type stays (`Conv.exists_key_of_mem`), and no
key is there twice (`ofFiles_united`). But a type is lost when another one is shown like it
(`parenthesized_union_lost`).
-/

set_option autoImplicit false

namespace ApiAtlas

open Source

namespace Conv

/-! ## Lists of heritage types -/

/-- Whether each heritage type without inline declarations has another key than those before it. -/
def KeysApart (types : List Ty) : Prop :=
  types.Pairwise fun t u => u.literals = [] → heritageKey t ≠ heritageKey u

/-- Whether a heritage type is kept after others: its key is new, or it holds an inline
declaration. -/
def IsKept (types : List Ty) (t : Ty) : Prop :=
  t.literals = [] → ∀ u ∈ types, heritageKey u ≠ heritageKey t

instance (types : List Ty) (t : Ty) : Decidable (IsKept types t) :=
  inferInstanceAs (Decidable (t.literals = [] → ∀ u ∈ types, heritageKey u ≠ heritageKey t))

variable {types more : List Ty} {t : Ty}

/-- Heritage is extended by two lists one after the other. -/
theorem extendHeritage_append (types more more' : List Ty) :
    extendHeritage types (more ++ more') = extendHeritage (extendHeritage types more) more' :=
  List.foldl_append

/-- A heritage type that is kept is added at the end. -/
theorem addHeritage_of_isKept (h : IsKept types t) : addHeritage types t = types ++ [t] := by
  unfold addHeritage
  rw [if_neg]
  rw [Bool.and_eq_true, List.contains_iff_mem, List.isEmpty_iff]
  rintro ⟨hkey, hliterals⟩
  obtain ⟨u, hu, hut⟩ := List.mem_map.1 hkey
  exact h hliterals u hu hut

/-- A heritage type that is not kept adds nothing. -/
theorem addHeritage_of_not_isKept (h : ¬IsKept types t) : addHeritage types t = types := by
  unfold addHeritage
  rw [if_pos]
  unfold IsKept at h
  push Not at h
  obtain ⟨hliterals, u, hu, hut⟩ := h
  rw [Bool.and_eq_true, List.contains_iff_mem, List.isEmpty_iff]
  exact ⟨List.mem_map.2 ⟨u, hu, hut⟩, hliterals⟩

/-- The key of every type is still there. -/
theorem exists_key_of_mem (ht : t ∈ types ++ more) :
    ∃ u ∈ extendHeritage types more, heritageKey u = heritageKey t := by
  rcases List.mem_append.1 ht with ht | ht
  · obtain ⟨kept, heq, -⟩ := extendHeritage_eq types more
    exact ⟨t, heq ▸ List.mem_append_left _ ht, rfl⟩
  · exact exists_mem_extendHeritage ht rfl fun u _ hu => hu

/-- Only types that were there or are added. -/
theorem extendHeritage_sublist (types more : List Ty) :
    (extendHeritage types more).Sublist (types ++ more) := by
  obtain ⟨kept, heq, hsub, -⟩ := extendHeritage_eq types more
  exact heq ▸ hsub.append_left types

/-- Heritage is united in order of occurrence: one more type comes last, unless its key is there
already. -/
theorem extendHeritage_concat (types more : List Ty) (t : Ty) :
    extendHeritage types (more ++ [t]) =
      if IsKept (types ++ more) t then extendHeritage types more ++ [t]
      else extendHeritage types more := by
  have hkept : IsKept (extendHeritage types more) t ↔ IsKept (types ++ more) t := by
    refine imp_congr_right fun _ => ⟨fun h u hu hkey => ?_, fun h u hu => ?_⟩
    · obtain ⟨v, hv, hvu⟩ := exists_key_of_mem hu
      exact h v hv (hvu.trans hkey)
    · exact h u ((extendHeritage_sublist types more).subset hu)
  rw [extendHeritage_append, extendHeritage, List.foldl_cons, List.foldl_nil]
  split
  · next h => exact addHeritage_of_isKept (hkept.2 h)
  · next h => exact addHeritage_of_not_isKept fun h' => h (hkept.1 h')

/-- Uniting keeps the keys apart. -/
theorem keysApart_extendHeritage (h : KeysApart types) (more : List Ty) :
    KeysApart (extendHeritage types more) := by
  induction more generalizing types with
  | nil => exact h
  | cons t more ih =>
    refine ih ?_
    by_cases hkept : IsKept types t
    · rw [addHeritage_of_isKept hkept]
      refine List.pairwise_append.2 ⟨h, List.pairwise_singleton _ _, fun u hu v hv => ?_⟩
      rw [List.mem_singleton.1 hv]
      exact fun hliterals => hkept hliterals u hu
    · rwa [addHeritage_of_not_isKept hkept]

/-! ## Classes -/

/-- Whether heritage types are those before united with the readings of some written types, but for
the numbers of inline declarations. -/
def Unites (bound : List String) (written : List TypeExpr) (before after : List Ty) : Prop :=
  after.map Ty.unnumbered =
    extendHeritage (before.map Ty.unnumbered) (TypeExpr.readAll bound written)

/-- Types that read as written are united with those before them. -/
theorem unites_extendHeritage {bound : List String} {written : List TypeExpr} {before : List Ty}
    (h : more.map Ty.unnumbered = TypeExpr.readAll bound written) :
    Unites bound written before (extendHeritage before more) := by
  rw [Unites, ← h]
  exact (extendHeritage_rename ..).symm

/-- Each declaration of a class unites what it is written to extend with what the class extended
before, and so for what it implements. -/
theorem openClass_unites {x : Draft} {s : Site} {d : Decl} {i : EntryId} {m : Members}
    {e : Details} (hx : x.atlas.Identified) (hi : x.atlas.Declares i d.symbol false)
    (hout : x.atlas.Outside i d.written) (hbody : x.atlas.HasBody i (.declaration m e)) :
    (openClass s d i).Gives x fun inner y => ∃ e', y.atlas.HasBody i (.declaration m e') ∧
      Unites inner.bound d.bases e.extended e'.extended ∧
      Unites inner.bound d.interfaces e.implemented e'.implemented := by
  refine (openClass_reads (s := s) hx hi hout hbody).mono ?_
  rintro inner y ⟨is, bases, interfaces, hbodyy, hbases, hinterfaces, -⟩
  exact ⟨_, hbodyy, unites_extendHeritage hbases, unites_extendHeritage hinterfaces⟩

end Conv

/-! ## Programs -/

/-- Whether the keys of what an entry extends are apart, and those of what it implements. -/
def Entry.IsUnited (e : Entry) : Prop :=
  ∀ d, e.details? = some d → Conv.KeysApart d.extended ∧ Conv.KeysApart d.implemented

/-- Whether in each entry the keys of heritage types are apart. -/
def Atlas.United (a : Atlas) : Prop :=
  ∀ i e, a.get? i = some e → e.IsUnited

/-- A part extends nothing. -/
theorem Entry.isUnited_of_isPart {e : Entry} (h : e.body.IsPart) : e.IsUnited := by
  intro d hd
  obtain ⟨name, kind, flags, comment, parent, body⟩ := e
  cases body with
  | declaration m d => cases h
  | _ => cases hd

/-- A new declaration extends nothing yet. -/
theorem Entry.isUnited_of_blank {e : Entry} {m : Members} {symbol origin : Option String}
    (hb : e.body = .declaration m { symbol := symbol, origin := origin }) : e.IsUnited := by
  intro d hd
  rw [details?, hb] at hd
  obtain rfl := Option.some.inj hd
  exact ⟨List.Pairwise.nil, List.Pairwise.nil⟩

/-- An amendment of the details keeps the keys of heritage types apart. -/
theorem Details.Amendment.keysApart {seen : Atlas} {i : EntryId} {d d' : Details}
    (h : d.Amendment seen i d')
    (hd : Conv.KeysApart d.extended ∧ Conv.KeysApart d.implemented) :
    Conv.KeysApart d'.extended ∧ Conv.KeysApart d'.implemented := by
  cases h with
  | extended ts hts =>
    obtain ⟨more, heq⟩ := hts
    exact ⟨heq ▸ Conv.keysApart_extendHeritage hd.1 more, hd.2⟩
  | implemented ts hts =>
    obtain ⟨more, heq⟩ := hts
    exact ⟨hd.1, heq ▸ Conv.keysApart_extendHeritage hd.2 more⟩
  | _ => exact hd

/-- An amendment keeps the keys of heritage types apart. -/
theorem Entry.Amendment.isUnited {seen : Atlas} {i : EntryId} {e e' : Entry}
    (h : e.Amendment seen i e') (he : e.IsUnited) : e'.IsUnited := by
  cases h with
  | same | merge => exact he
  | details m d d' hb h =>
    intro d'' hd
    obtain rfl := Option.some.inj hd
    exact h.keysApart (he d (by rw [details?, hb]))
  | parameter s p hb | typeParameter s p hb => exact isUnited_of_isPart trivial
  | fill body hnew hb => exact isUnited_of_isPart hb

/-- An amendment of the atlas keeps the keys of heritage types apart. -/
theorem Atlas.Amendment.united {Fits : Atlas → EntryId → Decl → Prop} {a seen b : Atlas}
    (h : a.Amendment Fits seen b) (ha : a.United) : b.United := by
  refine h.entries ha ?part ?entered ?members ?recast ?amend
  case part =>
    rintro e (hpart | ⟨hliteral, -⟩) -
    · exact Entry.isUnited_of_isPart hpart
    · exact Entry.isUnited_of_blank hliteral
  case entered =>
    intro scope e d _ _ _ hbody _ _
    exact Entry.isUnited_of_blank hbody
  case members =>
    intro i e f he d hd
    rw [e.details?_mapMembers f] at hd
    exact he d hd
  case recast =>
    -- Another kind leaves the details as they are.
    intro i e scope d kind he _ _ _ _
    exact ha i e he
  case amend =>
    intro i e e' he hamend
    exact hamend.isUnited he

/-- The keys of heritage types are apart. -/
def Law.united : Law where
  Holds := Atlas.United
  Fits _ _ _ := True
  Inside _ := True
  amend _ ha h := h.united ha
  grow _ h := h
  inside _ := trivial
  child _ _ _ _ _ := trivial

/-- In the atlas of a program, no two heritage types of a declaration have the same key, unless
they hold inline declarations. -/
theorem ofFiles_united (settings : Settings) (files : List Source.File) :
    (Draft.ofFiles settings files).atlas.United := by
  have hstart : (Draft.start settings).atlas.United :=
    Atlas.forall_create settings.name nofun
  have hobeyed : Law.united.Obeyed (Draft.start settings) :=
    ⟨hstart, (Draft.start_identified settings).children⟩
  exact Conv.convertFiles_holds hobeyed (fun a scope d => trivial) fun d => trivial

/-- Two types that are shown alike: the second one is lost. -/
theorem parenthesized_union_lost :
    let named (name : String) : TypeExpr :=
      { form := .reference, name := some name, symbol := some name }
    let box (inner : TypeExpr) : TypeExpr := { named "Box" with arguments := [inner] }
    let first := box
      { form := .union,
        arguments := [{ form := .intersection, arguments := [named "A", named "B"] }, named "C"] }
    let second := box
      { form := .intersection,
        arguments := [named "A", { form := .union, arguments := [named "B", named "C"] }] }
    let declaration (base : TypeExpr) : Decl :=
      { kind := .interface, name := some "D", symbol := some "D", bases := [base] }
    let file : Source.File := { name := "a.ts", decls := [declaration first, declaration second] }
    let made := (Draft.ofFiles {} [file]).atlas
    let forms (types : List Ty) : List (List String) := types.map fun t => t.walk.map Ty.form
    (made.get? 1).map (forms ·.ownTypes) = some (forms [first.read []]) ∧
      forms [first.read []] ≠ forms [second.read []] := by
  decide +kernel

end ApiAtlas
