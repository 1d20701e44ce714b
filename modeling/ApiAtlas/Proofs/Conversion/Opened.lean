import ApiAtlas.Proofs.Conversion.Declared

/-!
# Runs of the parts of conversion

Opening a signature, a parameter, a type parameter or an inline declaration adds a blank entry, and
filling it changes that entry only. Each step `Runs` when its owner is of the right form, and forms
never change.
-/

set_option autoImplicit false

namespace ApiAtlas

open Source (Decl)

/-! ## Forms of entries -/

namespace Atlas

/-- Whether an entry is there and is no accessor, so that it can get type parameters. -/
def NoAccessor (a : Atlas) (id : EntryId) : Prop :=
  ∃ e, a.get? id = some e ∧ e.kind.isIn Kind.accessorLike = false

/-- Whether an entry is a parameter. -/
def IsParameter (a : Atlas) (id : EntryId) : Prop :=
  ∃ e t v, a.get? id = some e ∧ e.body = .parameter t v

/-- Whether an entry is a type parameter. -/
def IsTypeParameter (a : Atlas) (id : EntryId) : Prop :=
  ∃ e l s, a.get? id = some e ∧ e.body = .typeParameter l s

variable {a b : Atlas} {id owner : EntryId} {kinds kinds' : List Kind}

/-- A signature is in the atlas. -/
theorem IsSignatureOf.lt (h : a.IsSignatureOf id owner kinds) : id < a.size := by
  obtain ⟨e, he, -⟩ := h
  exact get?_lt he

/-- A signature of one of some kinds is of one of more kinds. -/
theorem IsSignatureOf.mono (h : a.IsSignatureOf id owner kinds) (hk : kinds ⊆ kinds') :
    a.IsSignatureOf id owner kinds' := by
  obtain ⟨e, he, hs, hp, hmem⟩ := h
  exact ⟨e, he, hs, hp, hk hmem⟩

/-- A signature is no accessor. -/
theorem IsSignatureOf.noAccessor (h : a.IsSignatureOf id owner kinds)
    (hk : kinds ⊆ Kind.someSignature) : a.NoAccessor id := by
  obtain ⟨e, he, -, -, hmem⟩ := h
  have key : ∀ k ∈ Kind.someSignature, k.isIn Kind.accessorLike = false := by decide
  exact ⟨e, he, key _ (hk hmem)⟩

/-- What can get children is no accessor. -/
theorem Hosts.noAccessor (h : a.Hosts id) : a.NoAccessor id := by
  obtain ⟨e, he, -, hk⟩ := h
  exact ⟨e, he, hk⟩

/-- What is known to be no accessor is in the atlas. -/
theorem NoAccessor.lt (h : a.NoAccessor id) : id < a.size := by
  obtain ⟨e, he, -⟩ := h
  exact get?_lt he

/-- A parameter is in the atlas. -/
theorem IsParameter.lt (h : a.IsParameter id) : id < a.size := by
  obtain ⟨e, t, v, he, -⟩ := h
  exact get?_lt he

/-- A type parameter is in the atlas. -/
theorem IsTypeParameter.lt (h : a.IsTypeParameter id) : id < a.size := by
  obtain ⟨e, l, s, he, -⟩ := h
  exact get?_lt he

namespace Extends

/-- A signature still is one in an extension. -/
theorem isSignatureOf (h : a.Extends b) (hs : a.IsSignatureOf id owner kinds) :
    b.IsSignatureOf id owner kinds := by
  obtain ⟨e, he, hshape, hp, hk⟩ := hs
  obtain ⟨e', he', hkeep⟩ := h id e he
  have hd : e.isDeclaration = false := by
    obtain ⟨name, kind, flags, comment, parent, body⟩ := e
    cases body <;> simp_all [Entry.shape?, Entry.isDeclaration, Entry.details?]
  exact ⟨e', he', hkeep.isSome_shape.trans hshape, hkeep.parent.trans hp, hkeep.kind hd ▸ hk⟩

/-- What is no accessor still is none in an extension. -/
theorem noAccessor (h : a.Extends b) (hn : a.NoAccessor id) : b.NoAccessor id := by
  obtain ⟨e, he, hk⟩ := hn
  obtain ⟨e', he', hkeep⟩ := h id e he
  exact ⟨e', he', hkeep.accessor.trans hk⟩

/-- A parameter still is one in an extension. -/
theorem isParameter (h : a.Extends b) (hp : a.IsParameter id) : b.IsParameter id := by
  obtain ⟨e, t, v, he, hb⟩ := hp
  obtain ⟨e', he', hkeep⟩ := h id e he
  have hform := hkeep.form
  rw [hb] at hform
  match hb' : e'.body with
  | .parameter t' v' => exact ⟨e', t', v', he', hb'⟩
  | .plain | .container _ | .declaration _ _ | .signature _ | .typeParameter _ _ | .project _ =>
    rw [hb'] at hform
    cases hform

/-- A type parameter still is one in an extension. -/
theorem isTypeParameter (h : a.Extends b) (hp : a.IsTypeParameter id) : b.IsTypeParameter id := by
  obtain ⟨e, l, s, he, hb⟩ := hp
  obtain ⟨e', he', hkeep⟩ := h id e he
  have hform := hkeep.form
  rw [hb] at hform
  match hb' : e'.body with
  | .typeParameter l' s' => exact ⟨e', l', s', he', hb'⟩
  | .plain | .container _ | .declaration _ _ | .signature _ | .parameter _ _ | .project _ =>
    rw [hb'] at hform
    cases hform

end Extends

end Atlas

/-! ## Changes of shapes -/

namespace Entry

variable {a : Atlas} {id p : EntryId} {e : Entry}

/-- Adding a type parameter to its owner is a change. -/
theorem change_addTypeParameter (hp : a.parent? p = some id)
    (hk : e.kind.isIn Kind.accessorLike = false) : e.Change a id (e.addTypeParameter p) := by
  obtain ⟨name, kind, flags, comment, parent, body⟩ := e
  cases body with
  | declaration m d => exact .details m d _ rfl (.typeParameter p hp hk)
  | signature s => exact .typeParameters s p rfl hp
  | _ => exact .same

/-- Setting the result of a signature is a change if the type has no targets yet. -/
theorem change_result {t : Option Ty} (ht : ∀ u ∈ t, u.IsOpen) :
    e.Change a id (e.mapShape fun shape => { shape with type := t }) := by
  unfold mapShape
  split
  · next s hb => exact .result s t hb ht
  · exact .same

/-- Adding a parameter to its signature is a change. -/
theorem change_parameters (hp : a.parent? p = some id) :
    e.Change a id
      (e.mapShape fun shape => { shape with parameters := shape.parameters ++ [p] }) := by
  unfold mapShape
  split
  · next s hb => exact .parameters s p hb hp
  · exact .same

end Entry

/-! ## Opening -/

namespace Conv

variable {x : Draft} {A : EntryId → Prop} {s : Site} {id : EntryId}

/-- Opening a signature runs, and the next entry is the signature. -/
theorem openSignature_runs {name : String} {kind : Kind} {comment : Option Comment} {flags : Flags}
    (hs : s.scope < x.atlas.size) (hk : kind ∈ Kind.someSignature) (hnew : A x.atlas.size) :
    (openSignature s name kind comment flags).Runs x A fun id y =>
      id = x.atlas.size ∧ y.atlas.IsSignatureOf id s.scope [kind] := by
  refine .addEntry hnew rfl hs ?_ fun y hy => ?_
  · exact ⟨rfl, hk⟩
  · have hget : y.atlas.get? x.atlas.size = some _ := hy ▸ Atlas.get?_add_self x.atlas _
    exact ⟨rfl, _, hget, rfl, rfl, List.mem_singleton_self kind⟩

/-- Opening a parameter runs, and the next entry is the parameter. -/
theorem openParameter_runs {p : Source.Param} {comment : Option Comment}
    (hs : s.scope < x.atlas.size) (hnew : A x.atlas.size) :
    (openParameter s p comment).Runs x A fun id y =>
      id = x.atlas.size ∧ y.atlas.IsParameter id ∧ y.atlas.parent? id = some s.scope := by
  refine .addEntry hnew rfl hs ?_ fun y hy => ?_
  · rfl
  · have hget : y.atlas.get? x.atlas.size = some _ := hy ▸ Atlas.get?_add_self x.atlas _
    exact ⟨rfl, ⟨_, none, p.defaultValue, hget, rfl⟩, Atlas.parent?_eq hget⟩

/-- Opening an inline declaration runs, and the next entry is the declaration. -/
theorem openLiteral_runs (hs : s.scope < x.atlas.size) (hnew : A x.atlas.size) :
    (openLiteral s).Runs x A fun id y => id = x.atlas.size ∧ y.atlas.Hosts id := by
  refine .addEntry hnew rfl hs ?_ fun y hy => ?_
  · exact ⟨rfl, rfl, rfl⟩
  · have hget : y.atlas.get? x.atlas.size = some _ := hy ▸ Atlas.get?_add_self x.atlas _
    exact ⟨rfl, _, hget, rfl, show Kind.typeLiteral.isIn Kind.accessorLike = false by decide⟩

/-- Opening a type parameter runs, and the next entry is the type parameter. -/
theorem openTypeParameter_runs {owner : EntryId} {name : String} (hx : x.atlas.Identified)
    (ho : x.atlas.NoAccessor owner) (hA : A owner) (hnew : A x.atlas.size) :
    (openTypeParameter owner name).Runs x A fun id y =>
      id = x.atlas.size ∧ y.atlas.IsTypeParameter id := by
  refine .bind hx (.addEntry hnew rfl ho.lt ?_
    (R := fun id y => id = x.atlas.size ∧ y.atlas.IsTypeParameter id ∧
      y.atlas.parent? id = some owner) fun y hy => ?_) ?_
  · exact ⟨rfl, rfl⟩
  · have hget : y.atlas.get? x.atlas.size = some _ := hy ▸ Atlas.get?_add_self x.atlas _
    exact ⟨rfl, ⟨_, none, none, hget, rfl⟩, Atlas.parent?_eq hget⟩
  · rintro id y ⟨rfl, hy, hp⟩ hxy hyi
    refine .bind hyi (.changeEntry hA (fun e he => ?_) (R := fun _ _ => True) fun _ _ => trivial)
      fun _ z _ hyz _ => .pure ⟨rfl, hyz.isTypeParameter hy⟩
    obtain ⟨e', he', hk⟩ := hxy.noAccessor ho
    rw [he, Option.some.injEq] at he'
    exact Entry.change_addTypeParameter hp (he' ▸ hk)

/-! ## Recording and filling -/

/-- Filling a parameter runs if its type has no targets yet. -/
theorem fillParameter_runs {t : Option Ty} {v : Option String} (hp : x.atlas.IsParameter id)
    (ht : ∀ u ∈ t, u.IsOpen) (hA : A id) :
    (changeEntry id fun e => { e with body := .parameter t v }).Runs x A fun _ _ => True := by
  refine .changeEntry hA (fun e he => ?_) fun _ _ => trivial
  obtain ⟨e', t', v', he', hb⟩ := hp
  rw [he, Option.some.injEq] at he'
  exact .parameter t' t v' v (he' ▸ hb) ht

/-- Adding a parameter to its signature runs. -/
theorem addParameter_runs {owner p : EntryId} (hp : x.atlas.parent? p = some owner) (hA : A owner) :
    (changeEntry owner fun e => e.mapShape fun shape =>
      { shape with parameters := shape.parameters ++ [p] }).Runs x A fun _ _ => True :=
  .changeEntry hA (fun _ _ => Entry.change_parameters hp) fun _ _ => trivial

/-- Setting the result of a signature runs if the type has no targets yet. -/
theorem setResult_runs {t : Option Ty} (ht : ∀ u ∈ t, u.IsOpen) (hA : A id) :
    (changeEntry id fun e => e.mapShape fun shape => { shape with type := t }).Runs x A
      fun _ _ => True :=
  .changeEntry hA (fun _ _ => Entry.change_result ht) fun _ _ => trivial

/-- Filling a type parameter runs if its types have no targets yet. -/
theorem fillTypeParameter_runs {l d : Option Ty} (hp : x.atlas.IsTypeParameter id)
    (hl : ∀ u ∈ l, u.IsOpen) (hd : ∀ u ∈ d, u.IsOpen) (hA : A id) :
    (changeEntry id fun e => { e with body := .typeParameter l d }).Runs x A fun _ _ => True := by
  refine .changeEntry hA (fun e he => ?_) fun _ _ => trivial
  obtain ⟨e', l', d', he', hb⟩ := hp
  rw [he, Option.some.injEq] at he'
  exact .typeParameter l' l d' d (he' ▸ hb) hl hd

/-- The check of the order of parameters runs. -/
theorem checkOrder_runs {name : String} {ps : List Source.Param} (hA : A id) :
    (checkOrder s id name ps).Runs x A fun _ _ => True := by
  unfold checkOrder
  split
  · exact .report hA (fun _ => .of_signature) fun _ _ => trivial
  · exact .pure trivial

/-- Adding a signature to its owner runs. -/
theorem addSignature_runs {sig : EntryId} (hd : x.atlas.Hosts id)
    (hsig : x.atlas.IsSignatureOf sig id [.callSignature, .constructorSignature]) (hA : A id) :
    (addSignature id sig).Runs x A fun _ _ => True := by
  refine changeDetails_runs hA (fun e m dd he _ => ?_) fun _ _ => trivial
  obtain ⟨e', he', -, hk⟩ := hd
  rw [he, Option.some.injEq] at he'
  exact .signature sig hsig (he' ▸ hk)

end Conv

end ApiAtlas
