import ApiAtlas.Conversion.Declare

/-!
# Parts of conversion

The steps of conversion that do not themselves lead into the types and members of a declaration:
which heritage types are kept, in which order parameters may stand, and the entries of signatures,
parameters, type parameters and type literals before they are filled.
-/

set_option autoImplicit false

namespace ApiAtlas.Conv

/-- The text under which a heritage type counts as repeated: the symbol stands for the name when
there is one. -/
def heritageKey : Ty → String
  | .reference name symbol arguments target =>
    let shown := (Ty.reference name symbol arguments target).text
    match symbol with
    | some s =>
      if s.isEmpty then shown else s ++ String.ofList (shown.toList.drop name.length)
    | none => shown
  | t => t.text

/-- The heritage types with one more, unless it is repeated. A repeated type that holds an inline
declaration is kept, since the declaration must stay owned. -/
def addHeritage (types : List Ty) (t : Ty) : List Ty :=
  if (types.map heritageKey).contains (heritageKey t) && t.literals.isEmpty then types
  else types ++ [t]

/-- The heritage types with more of them, each unless it is repeated. -/
def extendHeritage (types more : List Ty) : List Ty :=
  more.foldl addHeritage types

/-- Whether a parameter may be left out of a call. -/
def mayBeOmitted (p : Source.Param) : Bool :=
  p.optional || p.defaultValue.isSome

/-- The first parameter that stands at a wrong place, in words: a rest parameter that is not last,
or a required one after one that may be left out. -/
def misplaced? (name : String) (omitted : Bool) : List Source.Param → Option String
  | [] => none
  | p :: ps =>
    if p.rest && !ps.isEmpty then
      some ("rest parameter '" ++ p.name ++ "' of '" ++ name ++ "' is not last")
    else if mayBeOmitted p then misplaced? name true ps
    else if omitted && !p.rest then
      some ("required parameter '" ++ p.name ++ "' of '" ++ name ++ "' follows an optional one")
    else misplaced? name omitted ps

/-- Reports the first misplaced parameter of a signature. -/
def checkOrder (s : Site) (id : EntryId) (name : String) (ps : List Source.Param) : Conv Unit :=
  match misplaced? name false ps with
  | some message => report s .invalidSignature message [("signature", Json.nat id)]
  | none => pure ()

/-- The entry of a signature, which belongs to the site's scope. -/
def openSignature (s : Site) (name : String) (kind : Kind) (comment : Option Comment)
    (flags : Flags) : Conv EntryId :=
  addEntry
    { name := name, kind := kind, flags := flags, comment := comment, parent := some s.scope,
      body := .signature {} }

/-- The flags of a parameter: whether it may be left out, and whether it takes the rest. -/
def paramFlags (p : Source.Param) : Flags :=
  Flags.ofList ((if mayBeOmitted p then [.isOptional] else []) ++ (if p.rest then [.isRest] else []))

/-- The entry of a parameter, with its documentation from the comment of its signature. -/
def openParameter (s : Site) (p : Source.Param) (comment : Option Comment) : Conv EntryId :=
  let described := comment.bind fun c => c.tag? "param" (some p.name)
  addEntry
    { name := p.name
      kind := .parameter
      flags := paramFlags p
      comment := match described with
        | some t => if t.text.isEmpty then none else some ⟨t.text, []⟩
        | none => none
      parent := some s.scope
      body := .parameter none p.defaultValue }

/-- The entry of a type parameter, recorded with its owner. -/
def openTypeParameter (owner : EntryId) (name : String) : Conv EntryId := do
  let id ← addEntry
    { name := name, kind := .typeParameter, parent := some owner, body := .typeParameter none none }
  changeEntry owner fun e => e.addTypeParameter id
  return id

/-- The name of an inline declaration. -/
def literalName : String := "__type"

/-- The entry of an inline declaration, which is in no list of children. -/
def openLiteral (s : Site) : Conv EntryId :=
  addEntry
    { name := literalName, kind := .typeLiteral, parent := some s.scope,
      body := .declaration {} {} }

/-- The names of the type parameters that an entry has already. -/
def boundBy (a : Atlas) (id : EntryId) : List String :=
  (((a.get? id).map (·.typeParameters)).getD []).filterMap fun p =>
    match a.get? p with
    | some e => if e.isTypeParameter then some e.name else none
    | none => none

/-- Appends a signature to the overloads of a declaration. -/
def addSignature (owner signature : EntryId) : Conv Unit :=
  changeDetails owner fun d => { d with signatures := d.signatures ++ [signature] }

/-- The flags that a signature takes over from its declaration. -/
def signatureFlags (d : Source.Decl) : Flags :=
  (Flags.ofModifiers d.modifiers).inter (Flags.ofList [.isStatic, .isAbstract, .isExported])

end ApiAtlas.Conv
