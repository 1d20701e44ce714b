import ApiAtlas.Source.Reading.Basic

/-!
# Reading types and signatures

The walk over the part of a syntax tree that writes types. Types hold signatures and the members of
inline objects, and these hold types again; the recursion is on the tree. A function named for a
field reads the first child that stands in that field.
-/

set_option autoImplicit false

namespace ApiAtlas.Source.Reading

/-- What a node writes in the place of a type. -/
inductive TypeNode where
  | builtin
  | name
  | generic
  | union
  | intersection
  | array
  | tuple
  | wrapped
  | literal
  | self
  | object
  | function
  | other
  deriving DecidableEq, Repr

/-- What the kinds of nodes write in the place of a type. -/
def TypeNode.table : List (String × TypeNode) :=
  [("predefined_type", .builtin), ("type_identifier", .name), ("nested_type_identifier", .name),
   ("identifier", .name), ("generic_type", .generic), ("union_type", .union),
   ("intersection_type", .intersection), ("array_type", .array), ("tuple_type", .tuple),
   ("parenthesized_type", .wrapped), ("readonly_type", .wrapped), ("literal_type", .literal),
   ("this_type", .self), ("object_type", .object), ("interface_body", .object),
   ("function_type", .function)]

/-- What a kind of node writes in the place of a type. -/
def TypeNode.ofKind (kind : String) : TypeNode :=
  (TypeNode.table.lookup kind).getD .other

/-- Whether a node only wraps the type that it holds. -/
def isWrapper (kind : String) : Bool :=
  ["type_annotation", "constraint", "default_type", "omitting_type_annotation"].contains kind

/-- Whether a node states a property of an argument, which as a type is a truth value. -/
def isPredicate (kind : String) : Bool :=
  kind = "asserts_annotation" || kind = "type_predicate_annotation"

/-- What a member of an object is. -/
inductive MemberNode where
  | property
  | method
  | call
  | construct
  | index
  | other
  deriving DecidableEq, Repr

/-- What a kind of node is as a member of an object. -/
def MemberNode.ofKind (kind : String) : MemberNode :=
  if kind = "property_signature" then .property
  else if kind = "method_signature" then .method
  else if kind = "call_signature" then .call
  else if kind = "construct_signature" then .construct
  else if kind = "index_signature" then .index
  else .other

/-- A signature from the readings of its parts, in the order in which they are read. The
parameters are in a list, or there is only one. -/
def signatureOf (several single : Option (Reading (List Param)))
    (result : Reading (Option TypeExpr)) (typeParameters : Reading (List TypeParam)) :
    Reading Signature := do
  let ps ← (several.or single).getD (pure [])
  let r ← result
  return { parameters := ps, result := r, typeParameters := ← typeParameters }

/-- The one parameter of an index signature: its name and the type of the keys. -/
def indexParams (p : Place) (cs : List SyntaxTree) (keys : Option (Reading TypeExpr)) :
    Reading (List Param) := do
  let bare := (SyntaxTree.parts cs).find? fun t => t.kind = "identifier"
  let named := (SyntaxTree.at? "name" cs).or bare
  match named with
  | none => return []
  | some t =>
    let name ← textOf p.page t
    match keys with
    | some keys => return [{ name := name, type := some (← keys) }]
    | none => return [{ name := name }]

mutual

/-- The type that a node writes. -/
def readType (p : Place) : SyntaxTree → Reading TypeExpr
  | ⟨kind, start, stop, named, field, cs⟩ =>
    let t : SyntaxTree := ⟨kind, start, stop, named, field, cs⟩
    match TypeNode.ofKind kind with
    | .builtin => return .ofIntrinsic (← textOf p.page t)
    | .name => do reference p (← textOf p.page t)
    | .generic => do
      let base ← reference p (← textAt p.page "name" cs)
      return { base with arguments := ← argumentsAt p "type_arguments" cs }
    | .union => return .ofParts .union (← readFlat p kind cs)
    | .intersection => return .ofParts .intersection (← readFlat p kind cs)
    | .array =>
      match firstType p cs with
      | some element => return .ofParts .array [← element]
      | none => unknown p.page t
    | .tuple => return .ofParts .tuple (← readTupleParts p cs)
    | .wrapped => (firstType p cs).getD (unknown p.page t)
    | .literal => literal p.page t
    | .self => return .ofIntrinsic "this"
    | .object => do
      let owner ← declare (Naming.literalSymbol p.owner start)
      return { form := .object, members := ← readObjectMembers (p.under owner) none cs }
    | .function => do
      let s ← signatureOf (parametersAt p "parameters" cs) (parametersAt p "parameter" cs)
        (slotAt p "return_type" cs) (typeParametersAt p "type_parameters" cs)
      return { form := .function, signature := some s }
    | .other => unknown p.page t

/-- The types that the parts among some nodes write. -/
def readTypes (p : Place) : List SyntaxTree → Reading (List TypeExpr)
  | [] => return []
  | t :: ts => do
    if t.isPart then
      let first ← readType p t
      return first :: (← readTypes p ts)
    else readTypes p ts

/-- The type that the first part among some nodes writes. -/
def firstType (p : Place) : List SyntaxTree → Option (Reading TypeExpr)
  | [] => none
  | t :: ts => if t.isPart then some (readType p t) else firstType p ts

/-- The members of a union or an intersection; those written as one of the same kind are spread
out. -/
def readFlat (p : Place) (kind : String) : List SyntaxTree → Reading (List TypeExpr)
  | [] => return []
  | ⟨k, start, stop, named, field, cs⟩ :: ts => do
    let t : SyntaxTree := ⟨k, start, stop, named, field, cs⟩
    if !t.isPart then readFlat p kind ts
    else if k = kind then
      let inner ← readFlat p kind cs
      return inner ++ (← readFlat p kind ts)
    else
      let first ← readType p ⟨k, start, stop, named, field, cs⟩
      return first :: (← readFlat p kind ts)

/-- The elements of a tuple, without the marks and names that they can have. -/
def readTupleParts (p : Place) : List SyntaxTree → Reading (List TypeExpr)
  | [] => return []
  | ⟨k, start, stop, named, field, cs⟩ :: ts => do
    let t : SyntaxTree := ⟨k, start, stop, named, field, cs⟩
    if !t.isPart then readTupleParts p ts
    else if k = "optional_type" || k = "rest_type" then
      let first ← (firstType p cs).getD (unknown p.page t)
      return first :: (← readTupleParts p ts)
    else if k = "tuple_parameter" || k = "optional_tuple_parameter" then
      match ← slotAt p "type" cs with
      | some first => return first :: (← readTupleParts p ts)
      | none =>
        let first ← unknown p.page t
        return first :: (← readTupleParts p ts)
    else
      let first ← readType p ⟨k, start, stop, named, field, cs⟩
      return first :: (← readTupleParts p ts)

/-- The type in a field, with nothing taken off it. -/
def typeAt (p : Place) (name : String) : List SyntaxTree → Option (Reading TypeExpr)
  | [] => none
  | t :: ts => if t.field = some name then some (readType p t) else typeAt p name ts

/-- The type in a field, freed of the node that only wraps it; a wrapper can be empty. -/
def slotAt (p : Place) (name : String) : List SyntaxTree → Reading (Option TypeExpr)
  | [] => return none
  | ⟨k, start, stop, named, field, cs⟩ :: ts =>
    if field = some name then
      if isWrapper k then
        match firstType p cs with
        | some inner => return some (← inner)
        | none => return none
      else if isPredicate k then return some (.ofIntrinsic "boolean")
      else return some (← readType p ⟨k, start, stop, named, field, cs⟩)
    else slotAt p name ts

/-- The types listed by the node in a field. -/
def argumentsAt (p : Place) (name : String) : List SyntaxTree → Reading (List TypeExpr)
  | [] => return []
  | ⟨_, _, _, _, field, cs⟩ :: ts =>
    if field = some name then readTypes p cs else argumentsAt p name ts

/-- The parameters listed by the node in a field, if there is one. A bare name there is the only
parameter. -/
def parametersAt (p : Place) (name : String) : List SyntaxTree → Option (Reading (List Param))
  | [] => none
  | ⟨k, start, stop, named, field, cs⟩ :: ts =>
    if field = some name then
      if k = "identifier" then some do
        return [{ name := ← textOf p.page ⟨k, start, stop, named, field, cs⟩ }]
      else some (readParams p cs)
    else parametersAt p name ts

/-- The parameters among some nodes. -/
def readParams (p : Place) : List SyntaxTree → Reading (List Param)
  | [] => return []
  | ⟨k, _, _, named, _, cs⟩ :: ts => do
    if !named || !(k = "required_parameter" || k = "optional_parameter") then readParams p ts
    else
      match ← (match SyntaxTree.at? "pattern" cs with
          | some pattern => parameterName p.page pattern
          | none => return none) with
      | none => readParams p ts
      | some (name, rest) =>
        let type ← slotAt p "type" cs
        let value ← textOf? p.page (SyntaxTree.at? "value" cs)
        let first : Param :=
          { name := name, type := type, optional := k = "optional_parameter", rest := rest,
            defaultValue := value }
        return first :: (← readParams p ts)

/-- The type parameters listed by the node in a field. -/
def typeParametersAt (p : Place) (name : String) : List SyntaxTree → Reading (List TypeParam)
  | [] => return []
  | ⟨_, _, _, _, field, cs⟩ :: ts =>
    if field = some name then readTypeParams p cs else typeParametersAt p name ts

/-- The type parameters among some nodes. -/
def readTypeParams (p : Place) : List SyntaxTree → Reading (List TypeParam)
  | [] => return []
  | ⟨k, _, _, named, _, cs⟩ :: ts => do
    if !named || k ≠ "type_parameter" then readTypeParams p ts
    else
      let name ← textAt p.page "name" cs
      let constraint ← slotAt p "constraint" cs
      let default ← slotAt p "value" cs
      return { name := name, constraint := constraint, default := default } ::
        (← readTypeParams p ts)

/-- The members of an object among some nodes; `before` is the named node before them. -/
def readObjectMembers (p : Place) (before : Option SyntaxTree) :
    List SyntaxTree → Reading (List Decl)
  | [] => return []
  | ⟨k, start, stop, named, field, cs⟩ :: ts => do
    let t : SyntaxTree := ⟨k, start, stop, named, field, cs⟩
    if !named then readObjectMembers p before ts
    else
      match MemberNode.ofKind k with
      | .property =>
        let (d, symbol) ← openMember p t before fun _ => .property
        let type ← slotAt (p.under symbol) "type" cs
        return { d with type := type } :: (← readObjectMembers p (some t) ts)
      | .method =>
        let (d, symbol) ← openMember p t before (methodKind t)
        let q := p.under symbol
        let s ← signatureOf (parametersAt q "parameters" cs) (parametersAt q "parameter" cs)
          (slotAt q "return_type" cs) (typeParametersAt q "type_parameters" cs)
        return { d with signature := some s } :: (← readObjectMembers p (some t) ts)
      | .call =>
        let d ← openDecl p.page .callSignature t before none none []
        let s ← signatureOf (parametersAt p "parameters" cs) (parametersAt p "parameter" cs)
          (slotAt p "return_type" cs) (typeParametersAt p "type_parameters" cs)
        return { d with signature := some s } :: (← readObjectMembers p (some t) ts)
      | .construct =>
        let d ← openDecl p.page .constructSignature t before none none []
        let s ← signatureOf (parametersAt p "parameters" cs) (parametersAt p "parameter" cs)
          (slotAt p "type" cs) (typeParametersAt p "type_parameters" cs)
        return { d with signature := some s } :: (← readObjectMembers p (some t) ts)
      | .index =>
        let modifiers ← readModifiers p.page [] cs
        let d ← openDecl p.page .indexSignature t before none none modifiers
        let ps ← indexParams p cs (typeAt p "index_type" cs)
        let result ← slotAt p "type" cs
        return { d with signature := some { parameters := ps, result := result } } ::
          (← readObjectMembers p (some t) ts)
      | .other => readObjectMembers p (some t) ts

end

/-- The signature of something that can be called, with its result in a field of some name. -/
def readSignature (p : Place) (result : String) (cs : List SyntaxTree) : Reading Signature :=
  signatureOf (parametersAt p "parameters" cs) (parametersAt p "parameter" cs)
    (slotAt p result cs) (typeParametersAt p "type_parameters" cs)

end ApiAtlas.Source.Reading
