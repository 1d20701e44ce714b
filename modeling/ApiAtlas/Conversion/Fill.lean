import ApiAtlas.Conversion.Parts

/-!
# Filling entries

What each kind of declaration puts into its entry. How the parts of a declaration are converted is
handed in, so that nothing here depends on what else is written. What is known already from an
earlier declaration of the same symbol is not converted again.
-/

set_option autoImplicit false

namespace ApiAtlas.Conv

open Source (Decl)

/-- Reports a signature that stands in no declaration. -/
def reportLoose (s : Site) (what : String) (line : Option Int) : Conv (Option EntryId) := do
  report s .unsupported (what ++ " outside of a declaration")
    [("line", (line.map Json.int).getD .null)]
  return none

/-- The kind of an accessor: in a class or an interface a tag can make it a constant. -/
def accessorKind (scope : Kind) (comment : Option Comment) : Kind :=
  match comment with
  | some c =>
    if scope.isIn Kind.classOrInterface && c.hasTag "constant" then .constant else .accessor
  | none => .accessor

/-- A type that is an inline declaration. -/
def inlineType (s : Site) (fill : EntryId → Conv Unit) : Conv Ty := do
  let id ← openLiteral s
  fill id
  return .literal id

/-- Fills a container with its members. -/
def fillContainer (s : Site) (members : Site → Conv (List EntryId)) (id : EntryId) :
    Conv Unit := do
  let _ ← members (s.within id [])

/-- The type parameters in sight of the parts of an entry: the ones that it has already, or else the
ones that are written on it. -/
def knownOrNew (typeParams : EntryId → Conv (List String)) (id : EntryId) :
    Conv (List String) := do
  let known ← ask fun a => ((a.get? id).map (·.typeParameters)).getD []
  if known.isEmpty then typeParams id else ask fun a => boundBy a id

/-- Fills a class or an interface: its type parameters, its heritage and its members. -/
def fillClass (s : Site) (typeParams : EntryId → Conv (List String))
    (bases interfaces : Site → Conv (List Ty)) (members : Site → Conv (List EntryId))
    (id : EntryId) : Conv Unit := do
  let bound ← knownOrNew typeParams id
  let inner := s.within id bound
  let extended ← bases inner
  changeDetails id fun x => { x with extended := extendHeritage x.extended extended }
  let implemented ← interfaces inner
  changeDetails id fun x => { x with implemented := extendHeritage x.implemented implemented }
  let _ ← members inner

/-- Fills what can be called with one more signature. -/
def fillCallable (s : Site) (name : Atlas → EntryId → String)
    (signature : Site → String → Conv EntryId) (id : EntryId) : Conv Unit := do
  let shown ← ask fun a => name a id
  let sig ← signature (s.within id []) shown
  addSignature id sig

/-- The get signature or the set signature of an accessor. -/
def accessorSignature (isGetter : Bool) (x : Details) : Option EntryId :=
  if isGetter then x.getSignature else x.setSignature

/-- An accessor with a get signature or a set signature. -/
def withAccessorSignature (isGetter : Bool) (sig : EntryId) (x : Details) : Details :=
  if isGetter then { x with getSignature := some sig } else { x with setSignature := some sig }

/-- Fills an accessor with its get or its set signature. A constant gets the type of the value
instead. -/
def fillAccessor (s : Site) (d : Decl) (isGetter : Bool) (value : Site → Conv (Option Ty))
    (signature : Site → Conv EntryId) (id : EntryId) : Conv Unit := do
  let entry ← ask fun a => (a.get? id).getD default
  let details := entry.details?.getD {}
  let inner := s.within id []
  if entry.kind = .constant then
    if details.type.isNone then
      let converted ← value inner
      changeDetails id fun x => { x with type := converted }
  else if (accessorSignature isGetter details).isSome then
    report inner .mergeConflict
      ("'" ++ entry.name ++ "' already has a " ++ (if isGetter then "getter" else "setter") ++
        "; later one discarded") [symbolDetail d]
  else
    let sig ← signature inner
    changeDetails id (withAccessorSignature isGetter sig)

/-- Fills a variable, a property or a member of an enumeration with its type and its default. -/
def fillValue (s : Site) (type : Site → Conv (Option Ty)) (defaultValue : Option String)
    (id : EntryId) : Conv Unit := do
  let known ← ask fun a => (a.details? id).bind (·.type)
  if known.isNone then
    let converted ← type (s.within id [])
    changeDetails id fun x => { x with type := converted }
  changeDetails id fun x => { x with defaultValue := x.defaultValue.or defaultValue }

/-- Fills a type alias with its type parameters and the type that it stands for. -/
def fillAlias (s : Site) (d : Decl) (typeParams : EntryId → Conv (List String))
    (type : Site → Conv (Option Ty)) (id : EntryId) : Conv Unit := do
  let known ← ask fun a => (a.details? id).bind (·.type)
  if known.isSome then
    let shown ← ask fun a => a.nameOf id
    report s .mergeConflict
      ("type alias '" ++ shown ++ "' declared twice; later one discarded") [symbolDetail d]
  else
    let bound ← typeParams id
    let converted ← type (s.within id bound)
    changeDetails id fun x => { x with type := converted }

/-- Gives the declaration at the site a call or construct signature. -/
def addCallable (s : Site) (what : String) (line : Option Int) (signature : Conv EntryId) :
    Conv (Option EntryId) := do
  let owner ← ask fun a => a.isDeclaration s.scope
  if !owner then reportLoose s what line
  else
    let sig ← signature
    addSignature s.scope sig
    return some sig

/-- Gives the declaration at the site an index signature, unless it has one. -/
def addIndex (s : Site) (line : Option Int) (signature : Conv EntryId) :
    Conv (Option EntryId) := do
  match ← ask fun a => a.details? s.scope with
  | none => reportLoose s "index signature" line
  | some details =>
    if details.indexSignature.isSome then
      let owner ← ask fun a => a.nameOf s.scope
      report s .mergeConflict
        ("'" ++ owner ++ "' already has an index signature; later one discarded")
        [("symbol", Json.ofText? details.symbol)]
      return none
    else
      let sig ← signature
      changeDetails s.scope fun x => { x with indexSignature := some sig }
      return some sig

end ApiAtlas.Conv
