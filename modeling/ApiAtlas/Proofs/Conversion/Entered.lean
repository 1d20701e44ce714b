import ApiAtlas.Proofs.Conversion.Gives

/-!
# What declaring leaves in an entry

The whole of an entry after it is created, and after something is merged into it. Creating leaves it
without signatures and without heritage; merging changes its kind, flags, comment and sources and
nothing else.
-/

set_option autoImplicit false

namespace ApiAtlas.Conv

open Source (Decl)

variable {x : Draft} {s : Site} {d : Decl} {k : String} {id : EntryId} {kind : Kind}
  {flags : Flags} {e : Entry} {members : Members} {details : Details}

/-- Noting a place changes the sources of the declaration only. -/
theorem noteSource_entry (he : x.atlas.get? id = some e)
    (hb : e.body = .declaration members details) :
    (noteSource s id d).Gives x fun _ y => y.atlas.symbols = x.atlas.symbols ∧
      ∃ sources, y.atlas.get? id =
        some { e with body := .declaration members { details with sources := sources } } := by
  have hsame : x.atlas.symbols = x.atlas.symbols ∧ ∃ sources, x.atlas.get? id =
      some { e with body := .declaration members { details with sources := sources } } :=
    ⟨rfl, details.sources, by rw [he, ← hb]⟩
  unfold noteSource
  dsimp only
  split
  · split
    · exact hsame
    · next file _ _ =>
      refine ⟨rfl, if details.sources.contains ⟨file, d.line⟩ then details.sources
        else details.sources ++ [⟨file, d.line⟩], ?_⟩
      refine (Atlas.get?_modify_self _ he).trans ?_
      rw [Entry.mapDetails, hb]
      dsimp only
      split <;> rfl
  · exact hsame

/-- A new entry is that of its symbol, and holds what is written of the declaration itself. -/
theorem create_entry {title : String} (hx : x.atlas.Identified) (hs : x.atlas.Hosts s.scope)
    (hsymbol : d.symbol = some k) :
    (create s d title kind flags).Gives x fun id y => y.atlas.lookup (some k) = some id ∧
      ∃ sources, y.atlas.get? id = some
        { name := title, kind := kind, flags := flags, comment := d.comment,
          parent := some s.scope, body := .declaration {}
            { symbol := some k, origin := d.origin, sources := sources } } := by
  let e : Entry :=
    { name := title, kind := kind, flags := flags, comment := d.comment,
      body := .declaration {} { symbol := some k, origin := d.origin } }
  let z : Draft := { x with atlas := (x.atlas.enter s.scope e (some k)).1 }
  have hnew : z.atlas.get? x.atlas.size = some { e with parent := some s.scope } := by
    rw [Atlas.get?_enter e (some k) hs.lt (hx.size_notMem_childrenOf _), if_pos rfl]
  have hlookup : z.atlas.symbols.get? k = some x.atlas.size := by
    change (x.atlas.enter s.scope e (some k)).1.symbols.get? k = _
    rw [Atlas.symbols_enter]
    exact Table.get?_put_self ..
  unfold create
  rw [hsymbol]
  have hnote : (noteSource s x.atlas.size d).Gives z _ := noteSource_entry hnew rfl
  obtain ⟨hsymbols, hentry⟩ := hnote
  exact ⟨(congrArg (·.get? k) hsymbols).trans hlookup, hentry⟩

/-- Merging unites the flags of an entry with those of the declaration, and takes its comment if
there is none. -/
theorem mergeInto_entry (he : x.atlas.get? id = some e)
    (hb : e.body = .declaration members details) :
    (mergeInto s id d flags).Gives x fun _ y => y.atlas.symbols = x.atlas.symbols ∧
      ∃ sources, y.atlas.get? id = some
        { e with
          flags := e.flags.union flags
          comment := e.comment.or d.comment
          body := .declaration members { details with sources := sources } } := by
  refine .change_bind fun y hy => ?_
  have hey : y.atlas.get? id = some
      { e with flags := e.flags.union flags, comment := e.comment.or d.comment } := by
    rw [hy]
    exact Atlas.get?_modify_self _ he
  have hnote : (noteSource s id d).Gives y _ := noteSource_entry hey hb
  obtain ⟨hsymbols, hentry⟩ := hnote
  exact ⟨hsymbols.trans (by rw [hy, Atlas.symbols_modify]), hentry⟩

/-- Two declarations that are both accessors, or both none, are merged. -/
theorem merge_entry (he : x.atlas.get? id = some e) (hb : e.body = .declaration members details)
    (hk : kind.isIn Kind.accessorLike = e.kind.isIn Kind.accessorLike) :
    (merge s id d kind flags).Gives x fun r y => r = some id ∧
      y.atlas.symbols = x.atlas.symbols ∧ ∃ common sources,
        common.isIn Kind.accessorLike = e.kind.isIn Kind.accessorLike ∧ y.atlas.get? id = some
          { e with
            kind := common
            flags := e.flags.union flags
            comment := e.comment.or d.comment
            body := .declaration members { details with sources := sources } } := by
  have hdecl : e.isDeclaration = true := by rw [Entry.isDeclaration, Entry.details?, hb]; rfl
  -- Whichever kind the entry gets, the rest goes on in the same way.
  have recast : ∀ {y : Draft} {common : Kind}, y.atlas = x.atlas →
      common.isIn Kind.accessorLike = e.kind.isIn Kind.accessorLike →
      (do
        changeEntry id fun e => { e with kind := common }
        mergeInto s id d flags
        return some id : Conv (Option EntryId)).Gives y fun r z => r = some id ∧
          z.atlas.symbols = x.atlas.symbols ∧ ∃ common sources,
            common.isIn Kind.accessorLike = e.kind.isIn Kind.accessorLike ∧ z.atlas.get? id = some
              { e with
                kind := common
                flags := e.flags.union flags
                comment := e.comment.or d.comment
                body := .declaration members { details with sources := sources } } := by
    intro y common hyx hcommon
    refine .change_bind fun z hz => ?_
    have hez : z.atlas.get? id = some { e with kind := common } := by
      rw [hz, hyx]
      exact Atlas.get?_modify_self _ he
    have hmerge : (mergeInto s id d flags).Gives z _ := mergeInto_entry hez hb
    obtain ⟨hsymbols, sources, hentry⟩ := hmerge
    have hsame : z.atlas.symbols = x.atlas.symbols := by rw [hz, Atlas.symbols_modify, hyx]
    exact ⟨rfl, hsymbols.trans hsame, common, sources, hcommon, hentry⟩
  unfold merge
  refine .ask_bind ?_
  simp only [he, Option.getD_some, hdecl, Bool.not_true, Bool.false_eq_true, if_false]
  split
  · split
    · next common hcommon => exact recast rfl (commonKind?_spec hcommon).2.1
    · rw [hk, bne_self_eq_false, if_neg Bool.false_ne_true]
      exact .report_bind fun y hy => recast hy hk
  · have hmerge : (mergeInto s id d flags).Gives x _ := mergeInto_entry he hb
    obtain ⟨hsymbols, sources, hentry⟩ := hmerge
    exact ⟨rfl, hsymbols, e.kind, sources, rfl, hentry⟩

end ApiAtlas.Conv
