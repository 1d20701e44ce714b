import ApiAtlas.Proofs.Inheritance.Copies
import ApiAtlas.Proofs.Reading.Documents
import ApiAtlas.Program

/-!
# Inline objects of a program

In the files of a program, whatever is inside the types of a declaration has a symbol that extends
the symbol of the declaration. Reading gives every inline object such a symbol; copies of inherited
members take their inline objects along, through any number of classes.
-/

set_option autoImplicit false

namespace ApiAtlas

open Source

variable {mode : Mode} {ds : List Document} {files : List File}

/-- What a declaration that keeps its inline objects says about everything that occurs in it. -/
theorem Source.Decl.KeepsLiterals.inLiteral {d n m : Decl} {s x : String} (h : d.KeepsLiterals)
    (hn : n = d ∨ n ∈ d.written) (hs : n.symbol = some s) (hm : m ∈ n.written)
    (hx : m.symbol = some x) : InLiteral s x := by
  obtain ⟨owner, howner, hinline⟩ := h.inline
  rcases hn with rfl | hn
  · exact howner s hs ▸ (hinline m hm).symbol x hx
  · exact (hinline n hn).inner s hs m hm x hx

/-- In the files of a program, with the members that its classes inherit, everything that has a
symbol inside the types of a declaration has one that extends that of the declaration. -/
theorem Program.read_inLiteral (h : Program.read mode ds = .ok files) :
    ∀ f ∈ files, ∀ n ∈ declsOf f.decls, ∀ s, n.symbol = some s →
      ∀ m ∈ n.written, ∀ x, m.symbol = some x → ∃ rest, x = s ++ ":__type@" ++ rest := by
  obtain ⟨written, hwritten, rfl⟩ := Program.read_eq_ok_iff.1 h
  have hstanding := standing_of_readDocuments hwritten
  have hkept : ∀ d ∈ standing ((inheritMembers written).1.flatMap (·.decls)), d.KeepsLiterals := by
    rw [flatMap_decls_inheritMembers]
    refine (Inheriting.run_induction_standing (I := fun _ => True) ?_ ?_ ?_ ?_ trivial).1
    · -- Members that come to a declaration do not matter for what its own types hold.
      intro d more hd
      exact ⟨hd.inheritable, hd.inline⟩
    · intro D m hm
      exact hm.inheritedBy D
    · intro ds p more _ _
      trivial
    · exact fun e he => (hstanding e he).2
  intro f hf n hn s hs m hm x hx
  obtain ⟨d, hd, hn⟩ := mem_declsOf_iff_standing.1 hn
  obtain ⟨c, hc, hstands⟩ := mem_standing.1 hd
  have hd : d ∈ standing ((inheritMembers written).1.flatMap (·.decls)) :=
    mem_standing.2 ⟨c, List.mem_flatMap.2 ⟨f, hf, hc⟩, hstands⟩
  exact (hkept d hd).inLiteral hn hs hm hx

/-- A property with nested inline objects that is inherited along two classes. -/
theorem Program.inherited_literal_read :
    let node (kind : String) (start stop : Nat) (children : List SyntaxTree) : SyntaxTree :=
      { kind := kind, start := start, stop := stop, children := children }
    let inField (field : String) (t : SyntaxTree) : SyntaxTree := { t with field := some field }
    let name (start : Nat) : SyntaxTree :=
      inField "name" (node "property_identifier" start (start + 1) [])
    let typed (start stop : Nat) (t : SyntaxTree) : SyntaxTree :=
      inField "type" (node "type_annotation" start stop [t])
    let classNode (start stop : Nat) (rest : List SyntaxTree) : SyntaxTree :=
      node "class_declaration" start stop
        (inField "name" (node "type_identifier" (start + 6) (start + 7) []) :: rest)
    let heritage (start : Nat) : SyntaxTree :=
      node "class_heritage" start (start + 9)
        [node "extends_clause" start (start + 9) [node "identifier" (start + 8) (start + 9) []]]
    let tree : SyntaxTree := node "program" 0 73
      [classNode 0 30 [inField "body" (node "class_body" 8 30 [node "public_field_definition" 10 28
          [name 10, typed 11 28 (node "object_type" 13 28 [node "property_signature" 15 26
            [name 15, typed 16 26 (node "object_type" 18 26 [node "property_signature" 20 24
              [name 20, typed 21 24 (node "type_identifier" 23 24 [])]])]])]])],
        classNode 31 51 [heritage 39, inField "body" (node "class_body" 49 51 [])],
        classNode 52 72 [heritage 60, inField "body" (node "class_body" 70 72 [])]]
    let ds : List Document := [{
      name := "a.ts", tree := tree,
      text := "class S { m: { p: { q: N } } }\nclass D extends S {}\nclass E extends D {}\n" }]
    ∃ files, Program.read .file ds = .ok files ∧
      (files.flatMap fun f => (declsOf f.decls).filterMap fun n =>
        n.origin.map fun o => (o, n.symbol, n.written.map (·.symbol))) =
        [("S#m", some "D#m", [some "D#m:__type@13#p", some "D#m:__type@13#p:__type@18#q"]),
         ("D#m", some "E#m", [some "E#m:__type@13#p", some "E#m:__type@13#p:__type@18#q"])] ∧
      ∀ f ∈ files, ∀ n ∈ declsOf f.decls, ∀ s, n.symbol = some s →
        ∀ m ∈ n.written, ∀ x, m.symbol = some x → ∃ rest, x = s ++ ":__type@" ++ rest := by
  intro node inField name typed classNode heritage tree ds
  have hshown : (Program.read .file ds).toOption.map (fun files => files.flatMap fun f =>
      (declsOf f.decls).filterMap fun n =>
        n.origin.map fun o => (o, n.symbol, n.written.map (·.symbol))) =
      some [("S#m", some "D#m", [some "D#m:__type@13#p", some "D#m:__type@13#p:__type@18#q"]),
        ("D#m", some "E#m", [some "E#m:__type@13#p", some "E#m:__type@13#p:__type@18#q"])] := by
    decide +kernel
  cases hread : Program.read .file ds with
  | error fault =>
    rw [hread] at hshown
    cases hshown
  | ok files =>
    rw [hread] at hshown
    exact ⟨files, rfl, Option.some.inj hshown, Program.read_inLiteral hread⟩

end ApiAtlas
