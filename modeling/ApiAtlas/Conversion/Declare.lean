import ApiAtlas.Conversion.Draft
import ApiAtlas.Source.Decl

/-!
# Declaring

The entry of a written declaration. The first declaration of a symbol creates the entry; later
ones are merged into it, wherever they stand. Merging only adds: flags, sources, a comment where
there was none. The kind is rewritten when two kinds differ; accessors and constants, which have
no room for what other declarations hold, are not mixed with other kinds.
-/

set_option autoImplicit false

namespace ApiAtlas.Conv

/-- The kind that two different kinds merge into without a conflict. -/
def commonKind? (a b : Kind) : Option Kind :=
  if (a = .class ∧ b = .interface) ∨ (a = .interface ∧ b = .class) then some .class
  else if (a = .accessor ∧ b = .constant) ∨ (a = .constant ∧ b = .accessor) then some .constant
  else if (a = .namespace ∧ b = .module) ∨ (a = .module ∧ b = .namespace) then some .module
  else none

/-- Whether the settings let a declaration into a container. Only declarations at the top of a
file, a module or a namespace have to be exported. -/
def isWanted (settings : Settings) (container : Kind) (d : Source.Decl) : Bool :=
  !(settings.excludePrivate && d.modifiers.contains "private") &&
    !(settings.excludeNotExported && container.isIn (.project :: Kind.someModule) &&
      !(d.modifiers.contains "export" || d.modifiers.contains "declare"))

/-- Adds the place of a declaration to the sources of its entry, once. -/
def noteSource (s : Site) (id : EntryId) (d : Source.Decl) : Conv Unit :=
  let file? := match d.file with
    | some f => if f.isEmpty then s.file else some f
    | none => s.file
  match file? with
  | some f =>
    if f.isEmpty then pure ()
    else
      let place : SourceRef := ⟨f, d.line⟩
      changeDetails id fun details =>
        if details.sources.contains place then details
        else { details with sources := details.sources ++ [place] }
  | none => pure ()

/-- A declaration's symbol as a detail of a problem. -/
def symbolDetail (d : Source.Decl) : String × Json :=
  ("symbol", Json.ofText? d.symbol)

/-- Adds what a later declaration brings to the entry of its symbol. -/
def mergeInto (s : Site) (id : EntryId) (d : Source.Decl) (flags : Flags) : Conv Unit := do
  changeEntry id fun e =>
    { e with
      flags := e.flags.union flags
      comment := e.comment.or d.comment }
  noteSource s id d

/-- Merges a declaration into the entry of its symbol; nothing if the two do not fit together. -/
def merge (s : Site) (id : EntryId) (d : Source.Decl) (kind : Kind) (flags : Flags) :
    Conv (Option EntryId) := do
  let e ← ask fun a => (a.get? id).getD default
  let symbol := (d.symbol.getD "")
  if !e.isDeclaration then
    report s .mergeConflict ("symbol '" ++ symbol ++ "' already belongs to " ++ e.text)
      [symbolDetail d]
    return none
  let details :=
    [symbolDetail d, ("existing", Json.str e.kind.text), ("incoming", Json.str kind.text)]
  if e.kind ≠ kind then
    match commonKind? e.kind kind with
    | some common => changeEntry id fun e => { e with kind := common }
    | none =>
      if e.kind.isIn Kind.accessorLike != kind.isIn Kind.accessorLike then
        report s .mergeConflict
          (kind.text ++ " '" ++ e.name ++ "' cannot merge into " ++ e.kind.text ++
            "; later declaration discarded") details
        return none
      report s .mergeConflict
        ("'" ++ e.name ++ "' redeclared as " ++ kind.text ++ " (was " ++ e.kind.text ++ ")") details
      changeEntry id fun e => { e with kind := kind }
  mergeInto s id d flags
  return some id

/-- Creates the entry of a declaration whose symbol is new. -/
def create (s : Site) (d : Source.Decl) (name : String) (kind : Kind) (flags : Flags) :
    Conv EntryId := do
  let details : Details := { symbol := d.symbol, origin := d.origin }
  let id ← enter s.scope
    { name := name, kind := kind, flags := flags, comment := d.comment,
      body := .declaration {} details } d.symbol
  noteSource s id d
  return id

/-- The entry of a declaration: created, or found by its symbol and merged into. There is none
for a declaration without a name or a symbol, one that the settings leave out, one that stands
where nothing can be declared, and one that does not fit what is there. -/
def declare (s : Site) (d : Source.Decl) (kind : Kind) (name : Option String) :
    Conv (Option EntryId) := visiting s d (name.getD "") do
  let name := name.getD ""
  if name.isEmpty || d.symbol.isNone then
    return none
  let container ← ask fun a => (a.get? s.scope).getD default
  if container.members?.isNone then
    report s .unsupported
      (kind.text ++ " '" ++ name ++ "' cannot be placed inside " ++ container.text)
      [symbolDetail d]
    return none
  if !isWanted s.settings container.kind d then
    return none
  let written := Flags.ofModifiers d.modifiers
  let flags := if s.external then written.union (Flags.ofList [.isExternal]) else written
  match ← ask fun a => a.lookup d.symbol with
  | some id => merge s id d kind flags
  | none => return some (← create s d name kind flags)

/-- Declares, and fills the entry of the declaration if there is one. -/
def declareAnd (s : Site) (d : Source.Decl) (kind : Kind) (name : Option String)
    (fill : EntryId → Conv Unit) : Conv (Option EntryId) := do
  match ← declare s d kind name with
  | none => return none
  | some id =>
    fill id
    return some id

end ApiAtlas.Conv
