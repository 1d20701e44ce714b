import ApiAtlas.Proofs.Conversion.Gives
import ApiAtlas.Proofs.Conversion.Walk

/-!
# What signatures say

A signature is documented by the declaration that brings it: it gets the comment when it is opened,
and nothing that follows touches the comment of a signature (`Atlas.SignatureSays`,
`Conv.Runs.signatureSays`).
-/

set_option autoImplicit false

namespace ApiAtlas

open Source

/-- The entry of a signature has its body. -/
theorem Entry.exists_body_of_shape {e : Entry} (h : e.shape?.isSome = true) :
    ∃ w, e.body = .signature w := by
  obtain ⟨name, kind, flags, comment, parent, body⟩ := e
  cases body with
  | signature w => exact ⟨w, rfl⟩
  | _ => cases h

namespace Atlas

variable {a : Atlas} {sig : EntryId} {c : Option Comment}

/-- Whether an entry is a signature with some comment, or with none. -/
def SignatureSays (a : Atlas) (sig : EntryId) (c : Option Comment) : Prop :=
  ∃ e, a.get? sig = some e ∧ e.shape?.isSome = true ∧ e.comment = c

namespace SignatureSays

/-- A signature with a comment is in the atlas. -/
theorem lt (h : a.SignatureSays sig c) : sig < a.size := by
  obtain ⟨e, he, -⟩ := h
  exact get?_lt he

/-- A signature is not what can get children. -/
theorem not_hosts (h : a.SignatureSays sig c) : ¬a.Hosts sig := by
  obtain ⟨e, he, hshape, -⟩ := h
  rintro ⟨e', he', hm, -⟩
  obtain rfl := Option.some.inj (he.symm.trans he')
  obtain ⟨w, hb⟩ := Entry.exists_body_of_shape hshape
  simp [Entry.members?, hb] at hm

end SignatureSays

end Atlas

/-- No change touches the comment of a signature. -/
theorem Entry.Change.comment_of_shape {a : Atlas} {i : EntryId} {e e' : Entry}
    (h : e.Change a i e') (hshape : e.shape?.isSome = true) :
    e'.shape?.isSome = true ∧ e'.comment = e.comment := by
  refine ⟨h.keeps.isSome_shape.trans hshape, ?_⟩
  cases h with
  | merge flags comment hd =>
    obtain ⟨w, hb⟩ := Entry.exists_body_of_shape hshape
    simp [Entry.isDeclaration, Entry.details?, hb] at hd
  | _ => rfl

/-- A signature keeps its comment in an edit. -/
theorem Edit.signatureSays {i sig : EntryId} {x y : Draft} {c : Option Comment} (h : Edit i x y)
    (hx : x.atlas.Identified) (hsig : x.atlas.SignatureSays sig c) :
    y.atlas.SignatureSays sig c := by
  obtain ⟨e, he, hshape, hc⟩ := id hsig
  cases h with
  | report | files => exact hsig
  | add e' p hp hlt hb =>
    exact ⟨e, (Atlas.get?_add_of_lt e' hsig.lt).trans he, hshape, hc⟩
  | enter e' d s hb hd hs hk hi =>
    refine ⟨e, ?_, hshape, hc⟩
    have hne : sig ≠ i := by
      rintro rfl
      exact hsig.not_hosts hi
    dsimp only
    rw [Atlas.get?_enter e' (some s) hi.lt (hx.size_notMem_childrenOf i),
      if_neg (Nat.ne_of_lt hsig.lt), if_neg hne, he]
  | change f hf =>
    by_cases hi : sig = i
    · subst hi
      obtain ⟨hshape', hc'⟩ := (hf e he).comment_of_shape hshape
      exact ⟨f e, Atlas.get?_modify_self f he, hshape', hc'.trans hc⟩
    · exact ⟨e, (Atlas.get?_modify_of_ne f hi).trans he, hshape, hc⟩

namespace Conv

variable {x : Draft} {s : Site} {c : Option Comment} {sig : EntryId} {kind : Kind}

/-- What a signature says stays so along a run. -/
theorem Runs.signatureSays {α : Type} {step : Conv α} {A : EntryId → Prop}
    {Q : α → Draft → Prop} (h : step.Runs x A Q) (hx : x.atlas.Identified)
    (hsig : x.atlas.SignatureSays sig c) : (step.run x).2.atlas.SignatureSays sig c := by
  refine h.keeps (I := fun y => y.atlas.SignatureSays sig c) hx hsig ?_
  intro i y z _ hy hsays he
  exact he.signatureSays hy hsays

/-- A signature says what it is given. -/
theorem convertSignature?_signatureSays {w : Option Signature} {title : String} {flags : Flags}
    (hx : x.atlas.Identified) (hs : s.scope < x.atlas.size) (hk : kind ∈ Kind.someSignature) :
    (convertSignature? s title kind c flags w).Gives x fun sig y =>
      y.atlas.SignatureSays sig c := by
  have hopened : (openSignature s title kind c flags).Gives x fun sig y =>
      y.atlas.SignatureSays sig c :=
    ⟨_, Atlas.get?_add_self x.atlas _, rfl, rfl⟩
  cases w with
  | none => exact hopened
  | some w =>
    have hruns := walk.signature w (walk.of_signature w) s title kind c flags x hx hs hk
    have hopen : (openSignature s title kind c flags).Runs x (x.atlas.Reach [] w.decls) _ :=
      openSignature_runs hs hk Atlas.reach_size
    obtain ⟨parameters, result, typeParameters⟩ := w
    have hid := hruns.post.1
    rw [convertSignature?]
    rw [convertSignature] at hruns hid ⊢
    have hrest := (Runs.of_bind hruns).signatureSays (hopen.identified hx) hopened
    unfold Conv.Gives
    rw [hid]
    exact hrest

end Conv

end ApiAtlas
