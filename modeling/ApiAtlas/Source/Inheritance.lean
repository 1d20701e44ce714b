import ApiAtlas.Source.Naming
import ApiAtlas.Source.Rebase
import ApiAtlas.Table

/-!
# Inherited members

A class or interface gets a copy of every member of its bases that it does not declare itself.
Bases are found by the symbols of its heritage clauses. Each base is completed first, so that a
member reaches down a whole chain, and a copy names the member of the direct base as its origin.
The declarations of one symbol share their members; the copies go to the first of them. A class
that is being completed is not entered again, so that cyclic heritage comes to an end.
-/

set_option autoImplicit false

namespace ApiAtlas.Source

/-- Where a declaration stands: its position at the top, then those among children. -/
abbrev Address := List Nat

/-- The declaration at an address. -/
def declAt? : Address → List Decl → Option Decl
  | [], _ => none
  | [i], ds => ds[i]?
  | i :: path, ds => ds[i]?.bind fun d => declAt? path d.children

/-- The declarations with the one at an address changed. -/
def changeAt (f : Decl → Decl) : Address → List Decl → List Decl
  | [], ds => ds
  | [i], ds => ds.modify i f
  | i :: path, ds => ds.modify i fun d => { d with children := changeAt f path d.children }

namespace Decl

/-- The symbol of a class or an interface. -/
def classSymbol? (d : Decl) : Option String :=
  if d.kind = .class || d.kind = .interface then d.symbol.filter fun s => !s.isEmpty else none

/-- Whether a member is static. -/
def isStatic (d : Decl) : Bool :=
  d.modifiers.contains "static"

/-- What a member is redeclared by: its name and whether it is static. -/
def key (d : Decl) : Option String × Bool :=
  (d.name, d.isStatic)

/-- Whether a member is of a kind that is inherited. -/
def isInheritable (d : Decl) : Bool :=
  d.kind = .method || d.kind = .property || d.kind = .getAccessor || d.kind = .setAccessor

/-- The copy of a member under another owner. -/
def inheritedBy (owner : String) (d : Decl) : Decl :=
  let symbol := Naming.memberSymbol owner (d.name.getD "") d.isStatic
  let moved :=
    match d.symbol with
    | some old => if old.isEmpty then d else d.rebase old symbol
    | none => d
  { moved with symbol := some symbol, origin := d.symbol }

end Decl

mutual

/-- The symbols of the classes and interfaces at and below a declaration, with their addresses;
`path` is the address of the declaration, last position first. -/
def classesAt (path : List Nat) : Decl → List (String × Address)
  | ⟨kind, name, symbol, children, modifiers, type, signature, typeParameters, bases, interfaces,
      comment, defaultValue, origin, file, line, form⟩ =>
    let d : Decl :=
      ⟨kind, name, symbol, children, modifiers, type, signature, typeParameters, bases, interfaces,
        comment, defaultValue, origin, file, line, form⟩
    (match d.classSymbol? with
      | some s => [(s, path.reverse)]
      | none => []) ++ classesAmong path 0 children

/-- The symbols of the classes and interfaces at and below some declarations, with their
addresses; `i` is the position of the first of the declarations. -/
def classesAmong (path : List Nat) (i : Nat) : List Decl → List (String × Address)
  | [] => []
  | d :: ds => classesAt (i :: path) d ++ classesAmong path (i + 1) ds

end

/-- The classes and interfaces of a program: under each symbol the addresses of its
declarations. -/
abbrev ClassTable := Table String (List Address)

/-- The classes and interfaces among some declarations. -/
def ClassTable.ofDecls (ds : List Decl) : ClassTable :=
  (classesAmong [] 0 ds).foldl (fun t c => t.put c.1 ((t.get? c.1).getD [] ++ [c.2])) .empty

namespace ClassTable

/-- The declarations of a class, as they stand now. -/
def declsOf (t : ClassTable) (ds : List Decl) (symbol : String) : List Decl :=
  ((t.get? symbol).getD []).filterMap fun a => declAt? a ds

/-- The members of a class, as they stand now. -/
def membersOf (t : ClassTable) (ds : List Decl) (symbol : String) : List Decl :=
  (t.declsOf ds symbol).flatMap (·.children)

/-- The bases of a class among the classes of the program, each once. -/
def basesOf (t : ClassTable) (ds : List Decl) (symbol : String) : List String :=
  let named := (t.declsOf ds symbol).flatMap fun d => d.bases.filterMap (·.symbol)
  (named.filter fun s => s != symbol && (t.get? s).isSome).foldl
    (fun kept s => if kept.contains s then kept else kept ++ [s]) []

end ClassTable

/-- A program while members are copied: its declarations, the classes that are complete, and the
number of copies made. -/
structure Inheriting where
  decls : List Decl
  done : List String := []
  copied : Nat := 0

/-- The members that a base passes on, without those whose name is taken. -/
def passedOn (taken : List (Option String × Bool)) (members : List Decl) : List Decl :=
  members.filter fun m => m.isInheritable && !taken.contains m.key

/-- Gives a class the copies of inherited members. -/
def Inheriting.give (s : Inheriting) (classes : ClassTable) (symbol : String)
    (gained : List Decl) : Inheriting :=
  let first := ((classes.get? symbol).getD []).head?.getD []
  { decls := changeAt (fun d => { d with children := d.children ++ gained }) first s.decls
    done := symbol :: s.done
    copied := s.copied + gained.length }

/-- Completes a class, unless it is complete or is being completed; `idle` are the classes that
are not being completed. Of the bases, the first that has a member of some name passes it on. -/
def Inheriting.complete (classes : ClassTable) (idle : List String) (s : Inheriting)
    (symbol : String) : Inheriting :=
  if _inside : symbol ∈ idle then
    if s.done.contains symbol then s
    else
      let own := (classes.membersOf s.decls symbol).map Decl.key
      let (s, _, gained) := (classes.basesOf s.decls symbol).foldl
        (fun (s, taken, gained) base =>
          let s := Inheriting.complete classes (idle.erase symbol) s base
          let more := passedOn taken (classes.membersOf s.decls base)
          (s, taken ++ more.map Decl.key, gained ++ more.map (Decl.inheritedBy symbol)))
        (s, own, [])
      s.give classes symbol gained
  else s
termination_by idle.length
decreasing_by
  have shorter := List.length_erase_of_mem _inside
  have positive := List.length_pos_of_mem _inside
  omega

/-- A program with the inherited members of all its classes. -/
def Inheriting.run (ds : List Decl) : Inheriting :=
  let classes := ClassTable.ofDecls ds
  classes.keys.foldl (Inheriting.complete classes classes.keys) { decls := ds }

/-- The declarations dealt out to files in the numbers that these have. -/
def dealOut : List File → List Decl → List File
  | [], _ => []
  | f :: fs, ds =>
    { f with decls := ds.take f.decls.length } :: dealOut fs (ds.drop f.decls.length)

/-- The files of a program with inherited members, and the number of members copied. -/
def inheritMembers (files : List File) : List File × Nat :=
  let s := Inheriting.run (files.flatMap (·.decls))
  (dealOut files s.decls, s.copied)

end ApiAtlas.Source
