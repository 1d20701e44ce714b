import ApiAtlas.Conversion.Fill

/-!
# Converting declarations and types

The walk over what is written. A declaration gets its entry, then what it holds is converted with
that entry as the scope. A named type becomes a reference that only knows its symbol, unless it
names a type parameter in sight. A structural type gets an inline declaration, which is converted
on the spot, so that types and declarations convert each other; the recursion is on what is
written.
-/

set_option autoImplicit false

namespace ApiAtlas.Conv

open Source (Decl TypeExpr Signature Param TypeParam)

/-- The first of a name and a text that says something. -/
def nameOrText (name : Option String) (text : String) : String :=
  match name with
  | some n => if n.isEmpty then text else n
  | none => text

/-- The first of two texts that says something. -/
def textOr (text other : String) : String :=
  if text.isEmpty then other else text

/-- The kinds that the plain containers, functions and values of a program become. -/
def kindOf : Source.DeclKind → Kind
  | .module => .module
  | .namespace => .namespace
  | .class => .class
  | .interface => .interface
  | .enum => .enum
  | .enumMember => .enumMember
  | .variable => .variable
  | .property => .property
  | .function => .function
  | .method => .method
  | .constructor => .constructor
  | .getAccessor | .setAccessor => .accessor
  | .callSignature => .callSignature
  | .constructSignature => .constructorSignature
  | .indexSignature => .indexSignature
  | .typeAlias => .typeAlias
  | .other => .mixed 0

/-- Reports a declaration that cannot be described. -/
def reportUnsupported (s : Site) (d : Decl) : Conv Unit :=
  let form := nameOrText d.form d.kind.word
  report s .unsupported
    ("no converter for " ++ form ++ " '" ++ nameOrText d.name "?" ++ "'")
    [("kind", .str form), ("line", (d.line.map Json.int).getD .null)]

mutual

/-- The type that a written type stands for. -/
def convertType (s : Site) : TypeExpr → Conv Ty
  | ⟨form, name, symbol, arguments, members, signature, text⟩ =>
    match form with
    | .intrinsic => return .intrinsic (nameOrText name text)
    | .reference => do
      let shown := nameOrText name text
      if s.bound.contains shown && arguments.isEmpty then
        return .typeParameter shown none
      return .reference shown symbol (← convertTypes s arguments) none
    | .union => return .union (← convertTypes s arguments)
    | .intersection => return .intersection (← convertTypes s arguments)
    | .array =>
      match arguments with
      | [] => return .unknown (textOr text "unknown[]")
      | element :: _ => return .array (← convertType s element)
    | .tuple => return .tuple (← convertTypes s arguments)
    | .stringLiteral => return .stringLiteral (name.getD "")
    | .object => inlineType s (fillContainer s fun s => convertDecls s members)
    | .function =>
      inlineType s <|
        match signature with
        | some written =>
          fillCallable s (fun _ _ => literalName) fun s name =>
            convertSignature s name .callSignature none Flags.none written
        | none => fun _ => return ()
    | .unknown => return .unknown (textOr text (nameOrText name "unknown"))

/-- The types that written types stand for, in order. -/
def convertTypes (s : Site) : List TypeExpr → Conv (List Ty)
  | [] => return []
  | t :: ts => do
    let first ← convertType s t
    return first :: (← convertTypes s ts)

/-- The type that a written type stands for, if one is written. -/
def convertType? (s : Site) : Option TypeExpr → Conv (Option Ty)
  | none => return none
  | some t => return some (← convertType s t)

/-- The entry of a signature with its type parameters, parameters and result; it belongs to the
site's scope. -/
def convertSignature (s : Site) (name : String) (kind : Kind) (comment : Option Comment)
    (flags : Flags) : Signature → Conv EntryId
  | ⟨parameters, result, typeParameters⟩ => do
    let id ← openSignature s name kind comment flags
    let bound ← convertTypeParams s id [] typeParameters
    let inner := s.within id bound
    convertParams inner id comment parameters
    let type ← convertType? inner result
    changeEntry id fun e => e.mapShape fun shape => { shape with type := type }
    checkOrder s id name parameters
    return id

/-- The entry of a signature that may not be written, which then has no parts. -/
def convertSignature? (s : Site) (name : String) (kind : Kind) (comment : Option Comment)
    (flags : Flags) : Option Signature → Conv EntryId
  | none => openSignature s name kind comment flags
  | some written => convertSignature s name kind comment flags written

/-- The entries of the parameters of a signature, each recorded with it. -/
def convertParams (s : Site) (owner : EntryId) (comment : Option Comment) :
    List Param → Conv Unit
  | [] => return ()
  | ⟨name, type, optional, rest, defaultValue⟩ :: ps => do
    let id ← openParameter s ⟨name, type, optional, rest, defaultValue⟩ comment
    let converted ← convertType? (s.within id []) type
    changeEntry id fun e => { e with body := .parameter converted defaultValue }
    changeEntry owner fun e => e.mapShape fun shape =>
      { shape with parameters := shape.parameters ++ [id] }
    convertParams s owner comment ps

/-- The entries of the type parameters of an entry, and their names. A type parameter is in sight
of its own constraint and of the type parameters after it. -/
def convertTypeParams (s : Site) (owner : EntryId) (bound : List String) :
    List TypeParam → Conv (List String)
  | [] => return bound
  | ⟨name, constraint, default⟩ :: ps => do
    let id ← openTypeParameter owner name
    let bound := name :: bound
    let inner := s.within id bound
    let limit ← convertType? inner constraint
    let standard ← convertType? inner default
    changeEntry id fun e => { e with body := .typeParameter limit standard }
    convertTypeParams s owner bound ps

/-- The entry of a declaration, if it gets one. -/
def convertDecl (s : Site) : Decl → Conv (Option EntryId)
  | ⟨kind, name, symbol, children, modifiers, type, signature, typeParameters, bases, interfaces,
      comment, defaultValue, origin, file, line, form⟩ =>
    let d : Decl := ⟨kind, name, symbol, children, modifiers, type, signature, typeParameters,
      bases, interfaces, comment, defaultValue, origin, file, line, form⟩
    match kind with
    | .module | .namespace | .enum =>
      declareAnd s d (kindOf kind) name (fillContainer s fun s => convertDecls s children)
    | .class | .interface =>
      declareAnd s d (kindOf kind) name
        (fillClass s (fun id => convertTypeParams s id [] typeParameters)
          (fun s => convertTypes s bases) (fun s => convertTypes s interfaces)
          fun s => convertDecls s children)
    | .function | .method =>
      declareAnd s d (kindOf kind) name
        (fillCallable s (fun a id => a.nameOf id) fun s name =>
          convertSignature? s name .callSignature comment (signatureFlags d) signature)
    | .constructor =>
      declareAnd s d .constructor (some "constructor")
        (fillCallable s (fun a _ => "new " ++ a.nameOf s.scope) fun s name =>
          convertSignature? s name .constructorSignature comment (signatureFlags d) signature)
    | .callSignature =>
      addCallable s Kind.callSignature.text line
        (convertSignature? s "__call" .callSignature comment Flags.none signature)
    | .constructSignature =>
      addCallable s Kind.constructorSignature.text line
        (convertSignature? s "__new" .constructorSignature comment Flags.none signature)
    | .indexSignature =>
      addIndex s line (convertSignature? s "__index" .indexSignature comment Flags.none signature)
    | .getAccessor => do
      let scopeKind ← ask fun a => ((a.get? s.scope).map (·.kind)).getD (.mixed 0)
      declareAnd s d (accessorKind scopeKind comment) name
        (fillAccessor s d true
          (fun s => if type.isSome then convertType? s type else convertResult? s signature)
          fun s => convertSignature? s "__get" .getSignature comment Flags.none signature)
    | .setAccessor => do
      let scopeKind ← ask fun a => ((a.get? s.scope).map (·.kind)).getD (.mixed 0)
      declareAnd s d (accessorKind scopeKind comment) name
        (fillAccessor s d false
          (fun s => if type.isSome then convertType? s type else convertFirstParam? s signature)
          fun s => convertSignature? s "__set" .setSignature comment Flags.none signature)
    | .variable | .property | .enumMember =>
      declareAnd s d (kindOf kind) name (fillValue s (fun s => convertType? s type) defaultValue)
    | .typeAlias =>
      declareAnd s d .typeAlias name
        (fillAlias s d (fun id => convertTypeParams s id [] typeParameters)
          fun s => convertType? s type)
    | .other => do
      reportUnsupported s d
      return none

/-- The entries of declarations, in order, of those that get one. -/
def convertDecls (s : Site) : List Decl → Conv (List EntryId)
  | [] => return []
  | d :: ds => do
    let first ← convertDecl s d
    return first.toList ++ (← convertDecls s ds)

/-- The type of the result of a signature, if one is written. -/
def convertResult? (s : Site) : Option Signature → Conv (Option Ty)
  | some ⟨_, result, _⟩ => convertType? s result
  | none => return none

/-- The type of the first parameter of a signature, if one is written. -/
def convertFirstParam? (s : Site) : Option Signature → Conv (Option Ty)
  | some ⟨⟨_, type, _, _, _⟩ :: _, _, _⟩ => convertType? s type
  | _ => return none

end

end ApiAtlas.Conv
