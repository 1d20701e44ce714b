import ApiAtlas.Proofs.Conversion.Runs

/-!
# Runs of declaring

The entry of a declaration is new, or it is the one of its symbol. Declaring `Runs` from every
identified atlas in which the scope can get children: what it touches is that scope and the entry
of the symbol, and what it yields `Declares` the symbol. The two reports on a foreign owner and on
a wrong place are not among those that are made.
-/

set_option autoImplicit false

namespace ApiAtlas

open Source (Decl)

/-! ## Routine reports -/

namespace Diagnostic.IsRoutine

/-- A conflict whose report does not start like the one on a foreign owner. -/
theorem of_conflict {message : String} {details : List (String × Json)}
    (h : message.toList.head? ≠ some 's') :
    Diagnostic.IsRoutine ⟨.mergeConflict, message, details⟩ := by
  refine ⟨by simp, ?_, (by rintro ⟨hp, -⟩; cases hp)⟩
  rintro ⟨-, symbol, owner, hm⟩
  refine h ?_
  rw [show message = "symbol '" ++ symbol ++ "' already belongs to " ++ owner from hm]
  simp

/-- A report on something unsupported that is not about the place of a declaration. -/
theorem of_unsupported {message : String} {details : List (String × Json)}
    (h : ∀ row ∈ Kind.table, ∀ rest, message ≠ row.2.1 ++ (" '" ++ rest)) :
    Diagnostic.IsRoutine ⟨.unsupported, message, details⟩ := by
  refine ⟨by simp, (by rintro ⟨ho, -⟩; cases ho), ?_⟩
  rintro ⟨-, row, hrow, name, place, hm⟩
  refine h row hrow (name ++ "' cannot be placed inside " ++ place) ?_
  rw [show message = _ from hm]
  simp [String.append_assoc]

/-- A report without quotes is not about the place of a declaration. -/
theorem of_unquoted {message : String} {details : List (String × Json)}
    (h : '\'' ∉ message.toList) : Diagnostic.IsRoutine ⟨.unsupported, message, details⟩ := by
  refine of_unsupported fun row _ rest hm => h ?_
  rw [hm]
  simp

/-- A report on a signature is routine. -/
theorem of_signature {message : String} {details : List (String × Json)} :
    Diagnostic.IsRoutine ⟨.invalidSignature, message, details⟩ :=
  ⟨by simp, (by rintro ⟨ho, -⟩; cases ho), (by rintro ⟨hp, -⟩; cases hp)⟩

end Diagnostic.IsRoutine

/-- The text of a basic kind does not start with an s, whatever follows it. -/
theorem Kind.head?_text_append {k : Kind} (hk : k.IsBasic) (rest : String) :
    (k.text ++ rest).toList.head? ≠ some 's' := by
  have key : ∀ k ∈ Kind.table.map (·.1), (k.text.toList.head?.any (· != 's')) = true := by decide
  have hany := key k hk
  rw [Option.any_eq_true] at hany
  obtain ⟨c, hc, hne⟩ := hany
  rw [String.toList_append, List.head?_append, hc]
  simpa using hne

/-! ## Changes of details -/

namespace Entry

variable {a : Atlas} {id : EntryId} {e : Entry}

/-- A change of the details of a declaration is a change of its entry. -/
theorem change_mapDetails {f : Details → Details}
    (h : ∀ m d, e.body = .declaration m d → d.Change a id e.kind (f d)) :
    e.Change a id (e.mapDetails f) := by
  unfold mapDetails
  split
  · next m d hb => exact .details m d (f d) hb (h m d hb)
  · exact .same

end Entry

namespace Atlas

/-- Whether an entry is declared for a symbol, as an accessor or as something else. -/
def Declares (a : Atlas) (id : EntryId) (symbol : Option String) (accessor : Bool) : Prop :=
  ∃ e, a.get? id = some e ∧ e.IsNamed ∧ e.symbol? = symbol ∧
    e.kind.isIn Kind.accessorLike = accessor

variable {a b : Atlas} {id : EntryId} {symbol : Option String} {accessor : Bool}

/-- What is declared for a symbol is in the atlas. -/
theorem Declares.lt (h : a.Declares id symbol accessor) : id < a.size := by
  obtain ⟨e, he, -⟩ := h
  exact get?_lt he

/-- What is declared for a symbol still is in an extension. -/
theorem Extends.declares (h : a.Extends b) (hd : a.Declares id symbol accessor) :
    b.Declares id symbol accessor := by
  obtain ⟨e, he, hn, hs, hk⟩ := hd
  obtain ⟨e', he', hkeep⟩ := h id e he
  exact ⟨e', he', hkeep.isNamed_iff.2 hn, hkeep.symbol.trans hs, hkeep.accessor.trans hk⟩

/-- What is declared for a symbol has that symbol. -/
theorem Declares.symbolOf (h : a.Declares id symbol accessor) : a.symbolOf id = symbol := by
  obtain ⟨e, he, -, hs, -⟩ := h
  rw [symbolOf_eq he, hs]

/-- What is declared for a symbol is a declaration. -/
theorem Declares.isDeclaration (h : a.Declares id symbol accessor) :
    a.isDeclaration id = true := by
  obtain ⟨e, he, hn, -⟩ := h
  exact (isDeclaration_eq he).trans hn.1

/-- A declaration that is no accessor can get children. -/
theorem Declares.hosts (h : a.Declares id symbol false) : a.Hosts id := by
  obtain ⟨e, he, hn, -, hk⟩ := h
  refine ⟨e, he, ?_, hk⟩
  have hd := hn.1
  obtain ⟨name, kind, flags, comment, parent, body⟩ := e
  cases body <;> simp_all [Entry.isDeclaration, Entry.details?, Entry.members?]

/-- The entry of a declaration is within the reach of the declaration. -/
theorem Declares.reach {d : Decl} {ids : List EntryId} {ds : List Decl} (hb : b.Identified)
    (hab : a.Extends b) (h : b.Declares id d.symbol accessor) (hd : d ∈ ds) :
    a.Reach ids ds id := by
  by_cases hlt : id < a.size
  · obtain ⟨e, he, hn, hs, -⟩ := h
    obtain ⟨s, hes, -⟩ := hb.named id e he hn
    refine Or.inr (Or.inr ⟨d, hd, s, hs.symm.trans hes, ?_⟩)
    rw [← hab.symbolOf_eq hlt, symbolOf_eq he, hes]
  · exact Or.inl (Nat.le_of_not_lt hlt)

end Atlas

/-! ## Declaring -/

namespace Conv

variable {x : Draft} {A : EntryId → Prop} {s : Site} {d : Decl} {id : EntryId}

/-- Changing the details of an entry runs if it is a change that they may undergo. -/
theorem changeDetails_runs {f : Details → Details} (hA : A id)
    (hf : ∀ e m dd, x.atlas.get? id = some e → e.body = .declaration m dd →
      dd.Change x.atlas id e.kind (f dd))
    {R : Unit → Draft → Prop}
    (hR : ∀ y, y.atlas = x.atlas.modify id (fun e => e.mapDetails f) → R () y) :
    (changeDetails id f).Runs x A R :=
  .changeEntry hA (fun e he => Entry.change_mapDetails fun m dd hb => hf e m dd he hb) hR

/-- Noting where a declaration is written runs. -/
theorem noteSource_runs (hA : A id) : (noteSource s id d).Runs x A fun _ _ => True := by
  unfold noteSource
  dsimp only
  split
  · split
    · exact .pure trivial
    · refine changeDetails_runs hA (fun e m dd _ _ => ?_) fun _ _ => trivial
      split
      · exact .same
      · exact .source _
  · exact .pure trivial

/-- Merging a declaration into its entry runs. -/
theorem mergeInto_runs {flags : Flags} {symbol : Option String} {accessor : Bool}
    (hx : x.atlas.Identified) (hd : x.atlas.Declares id symbol accessor) (hA : A id) :
    (mergeInto s id d flags).Runs x A fun _ _ => True := by
  refine .bind hx (.changeEntry hA (fun e he => ?_) (R := fun _ _ => True) fun _ _ => trivial)
    fun _ y _ _ _ => noteSource_runs hA
  obtain ⟨e', he', hn, -⟩ := hd
  rw [he, Option.some.injEq] at he'
  exact .merge flags d.comment (he' ▸ hn.1)

/-- Two kinds that merge silently are both accessors or both none, and so is what they become. -/
theorem commonKind?_spec {k k' common : Kind} (h : commonKind? k k' = some common) :
    common ≠ .typeLiteral ∧
      common.isIn Kind.accessorLike = k.isIn Kind.accessorLike ∧
      common.isIn Kind.accessorLike = k'.isIn Kind.accessorLike := by
  unfold commonKind? at h
  split at h
  · next hk => rcases hk with ⟨rfl, rfl⟩ | ⟨rfl, rfl⟩ <;> cases h <;> decide
  · split at h
    · next hk => rcases hk with ⟨rfl, rfl⟩ | ⟨rfl, rfl⟩ <;> cases h <;> decide
    · split at h
      · next hk => rcases hk with ⟨rfl, rfl⟩ | ⟨rfl, rfl⟩ <;> cases h <;> decide
      · cases h

/-- The common kind of two kinds is a basic one. -/
theorem isBasic_of_commonKind? {k k' common : Kind} (h : commonKind? k k' = some common) :
    common.IsBasic := by
  unfold commonKind? at h
  repeat' split at h
  all_goals cases h <;> decide

/-- Merging a declaration runs, and the entry that it yields is declared for the symbol. -/
theorem merge_runs {kind : Kind} {flags : Flags} {accessor : Bool} (hx : x.atlas.Identified)
    (hd : x.atlas.Declares id d.symbol accessor) (hk : kind.IsBasic) (hl : kind ≠ .typeLiteral)
    (hA : A id) :
    (merge s id d kind flags).Runs x A fun r y =>
      ∀ i ∈ r, y.atlas.Declares i d.symbol (kind.isIn Kind.accessorLike) := by
  have finish : ∀ y : Draft, y.atlas.Identified →
      y.atlas.Declares id d.symbol (kind.isIn Kind.accessorLike) →
      (do mergeInto s id d flags; return some id : Conv (Option EntryId)).Runs y A fun r y =>
        ∀ i ∈ r, y.atlas.Declares i d.symbol (kind.isIn Kind.accessorLike) := by
    intro y hy hdy
    refine .bind hy (mergeInto_runs hy hdy hA) fun _ z _ hyz _ => .pure ?_
    rintro i ⟨⟩
    exact hyz.declares hdy
  obtain ⟨e, he, hn, hs, ha⟩ := hd
  unfold merge
  refine .ask_bind ?_
  simp only [he, Option.getD_some, hn.1, Bool.not_true, Bool.false_eq_true, if_false]
  -- Both ways of giving the entry another kind go on in the same way.
  have recast : ∀ (y : Draft) (k : Kind), y.atlas.Identified → y.atlas.get? id = some e →
      k ≠ .typeLiteral → k.IsBasic → k.isIn Kind.accessorLike = e.kind.isIn Kind.accessorLike →
      k.isIn Kind.accessorLike = kind.isIn Kind.accessorLike →
      (do
        changeEntry id fun e => { e with kind := k }
        mergeInto s id d flags
        return some id : Conv (Option EntryId)).Runs y A fun r z =>
          ∀ i ∈ r, z.atlas.Declares i d.symbol (kind.isIn Kind.accessorLike) := by
    intro y k hy hey hkl hkb hke hkk
    refine .bind hy (.changeEntry hA (fun e' he' => ?_)
      (R := fun _ z => z.atlas = y.atlas.modify id fun e => { e with kind := k }) fun _ h => h)
      fun _ z hz _ hzi => finish z hzi ?_
    · rw [hey, Option.some.injEq] at he'
      subst he'
      exact .recast k hn hkl hke hkb
    · exact ⟨{ e with kind := k }, by rw [hz, Atlas.get?_modify_self _ hey], ⟨hn.1, hkl⟩, hs, hkk⟩
  split
  · split
    · next common hcommon =>
      obtain ⟨hcl, hce, hck⟩ := commonKind?_spec hcommon
      exact recast x common hx he hcl (isBasic_of_commonKind? hcommon) hce hck
    · split
      · refine .bind hx (.report (R := fun _ _ => True) hA (fun file => .of_conflict ?_)
          fun _ _ => trivial) fun _ y _ _ _ => .pure nofun
        simpa only [String.append_assoc] using Kind.head?_text_append hk _
      · next hacc =>
        have hkk : e.kind.isIn Kind.accessorLike = kind.isIn Kind.accessorLike := by
          simpa using hacc
        refine .bind hx (.report hA (fun file => .of_conflict (by simp))
          (R := fun _ y => y.atlas = x.atlas) fun _ h => h)
          fun _ y hy _ hyi => ?_
        exact recast y kind hyi (by rw [hy, he]) hl hk hkk.symm rfl
  · next hkind =>
    obtain rfl : e.kind = kind := by simpa using hkind
    exact finish x hx ⟨e, he, hn, hs, rfl⟩

/-- Creating an entry for a free symbol runs, and the entry is declared for the symbol. -/
theorem create_runs {kind : Kind} {flags : Flags} {name symbol : String}
    (hx : x.atlas.Identified) (hs : x.atlas.Hosts s.scope) (hsym : d.symbol = some symbol)
    (hfree : x.atlas.symbols.get? symbol = none) (hk : kind.IsBasic) (hl : kind ≠ .typeLiteral)
    (hA : A s.scope) (hnew : A x.atlas.size) :
    (create s d name kind flags).Runs x A fun id y =>
      y.atlas.Declares id d.symbol (kind.isIn Kind.accessorLike) := by
  unfold create
  dsimp only
  rw [hsym]
  refine .bind hx (.update (.enter _ _ symbol rfl rfl hfree hl hs hk) hA
    (Q := fun id y => id = x.atlas.size ∧
      y.atlas.Declares id (some symbol) (kind.isIn Kind.accessorLike)) ⟨rfl, ?_⟩) ?_
  · have hget := (Atlas.get?_enter
      { name := name, kind := kind, flags := flags, comment := d.comment,
        body := .declaration {} { symbol := some symbol, origin := d.origin } }
      (some symbol) hs.lt (hx.size_notMem_childrenOf _) x.atlas.size).trans (if_pos rfl)
    exact ⟨_, hget, ⟨rfl, hl⟩, rfl, rfl⟩
  · rintro id y ⟨rfl, hdy⟩ hxy hy
    exact .bind hy (noteSource_runs hnew) fun _ z _ hyz _ => .pure (hyz.declares hdy)

/-- Declaring touches the scope and the entry of the symbol, and yields an entry of that symbol. -/
theorem declare_runs {kind : Kind} {name : Option String} {ds : List Decl}
    (hx : x.atlas.Identified) (hs : x.atlas.Hosts s.scope) (hk : kind.IsBasic)
    (hl : kind ≠ .typeLiteral) (hd : d ∈ ds) :
    (declare s d kind name).Runs x (x.atlas.Reach [s.scope] ds) fun r y =>
      ∀ id ∈ r, y.atlas.Declares id d.symbol (kind.isIn Kind.accessorLike) := by
  unfold declare
  dsimp only
  refine .visiting ?_
  split
  · exact .pure nofun
  next hnamed =>
  obtain ⟨symbol, hsym⟩ : ∃ symbol, d.symbol = some symbol := by
    rw [← Option.ne_none_iff_exists']
    simp only [Bool.or_eq_true, Option.isNone_iff_eq_none, not_or] at hnamed
    exact hnamed.2
  refine .ask_bind ?_
  obtain ⟨e, he, hm, hke⟩ := hs
  simp only [he, Option.getD_some, Option.isNone_iff_eq_none, ← Option.not_isSome_iff_eq_none, hm,
    not_true_eq_false, if_false]
  split
  · exact .pure nofun
  refine .ask_bind ?_
  split
  · next id hid =>
    obtain ⟨s', hs', hreg⟩ := Atlas.lookup_eq_some_iff.1 hid
    obtain ⟨e', he', hn', hsym'⟩ := hx.registered s' id hreg
    have hdecl : x.atlas.Declares id d.symbol (e'.kind.isIn Kind.accessorLike) :=
      ⟨e', he', hn', hsym'.trans hs'.symm, rfl⟩
    exact merge_runs hx hdecl hk hl (hdecl.reach hx (.refl _) hd)
  · next hnone =>
    refine .bind hx (create_runs hx ⟨e, he, hm, hke⟩ hsym ?_ hk hl (Atlas.reach_mem (by simp))
      Atlas.reach_size) fun id y hy _ _ => .pure ?_
    · simpa [Atlas.lookup, hsym] using hnone
    · rintro i ⟨⟩
      exact hy

/-- Declaring and filling, where the filling may rely on an entry of the symbol that is within
reach. -/
theorem declareAnd_runs {kind : Kind} {name : Option String} {ds : List Decl}
    {fill : EntryId → Conv Unit} (hx : x.atlas.Identified) (hs : x.atlas.Hosts s.scope)
    (hk : kind.IsBasic) (hl : kind ≠ .typeLiteral) (hd : d ∈ ds)
    (hfill : ∀ id (y : Draft), y.atlas.Declares id d.symbol (kind.isIn Kind.accessorLike) →
      x.atlas.Extends y.atlas → y.atlas.Identified → x.atlas.Reach [s.scope] ds id →
      (fill id).Runs y (x.atlas.Reach [s.scope] ds) fun _ _ => True) :
    (declareAnd s d kind name fill).Runs x (x.atlas.Reach [s.scope] ds) fun _ _ => True := by
  refine .bind hx (declare_runs hx hs hk hl hd) fun r y hy hxy hyi => ?_
  cases r with
  | none => exact .pure trivial
  | some id =>
    have hdy := hy id rfl
    exact .then_pure hyi (hfill id y hdy hxy hyi (hdy.reach hyi hxy hd))

end Conv

end ApiAtlas
