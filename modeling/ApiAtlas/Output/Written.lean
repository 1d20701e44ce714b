import ApiAtlas.Atlas.Children
import ApiAtlas.Resolution.Links
import ApiAtlas.Ty.Json

/-!
# The written atlas

A resolved atlas as JSON, from the project down. A field is left out when there is nothing to say.
Inline declarations are children of nothing; they are written where a type points at them, and so
are the declarations in the layers of a hierarchy. An entry that holds itself can never be written
out; a nesting deeper than the number of entries is the sign of that.
-/

set_option autoImplicit false

namespace ApiAtlas

/-- A place in a source file as JSON. -/
def SourceRef.toJson (r : SourceRef) : Json :=
  .obj (("fileName", .str r.file) ::
    match r.line with
    | some n => [("line", .int n)]
    | none => [])

/-- The layers of a hierarchy as JSON, each with the next one inside it. -/
def layersToJson (expand : EntryId → Except Misuse Json) :
    List Layer → Except Misuse (List (String × Json))
  | [] => .ok []
  | layer :: layers => do
    let types ← Ty.toJsonListM expand layer.types
    let next ← layersToJson expand layers
    .ok ([("types", .arr types)] ++
      (if layer.isTarget then [("isTarget", .bool true)] else []) ++
      Json.field "next" (.obj next))

namespace Resolved

/-- The fields that every entry has. -/
def commonFields (id : EntryId) (e : Entry) : List (String × Json) :=
  [("id", .nat id), ("name", .str e.name), ("kind", .nat e.kind.bits),
    ("kindString", .str e.kind.text), ("flags", e.flags.toJson)] ++
    match e.comment with
    | some c => if c.isEmpty then [] else [("comment", c.toJson)]
    | none => []

/-- An optional type as JSON; null when there is none. -/
def typeJson (expand : EntryId → Except Misuse Json) : Option Ty → Except Misuse Json
  | some t => t.toJsonM expand
  | none => .ok .null

/-- Several entries as JSON. -/
def entriesJson (expand : EntryId → Except Misuse Json) (ids : List EntryId) :
    Except Misuse Json := do
  .ok (.arr (← ids.mapM expand))

/-- An optional entry as a field. -/
def entryField (expand : EntryId → Except Misuse Json) (key : String) :
    Option EntryId → Except Misuse (List (String × Json))
  | some id => do .ok [(key, ← expand id)]
  | none => .ok []

/-- An optional reference as JSON. -/
def referenceJson (expand : EntryId → Except Misuse Json) (r : Option Reference) :
    Except Misuse Json :=
  typeJson expand (r.map Reference.toTy)

/-- The fields of the links of a declaration. -/
def linkFields (expand : EntryId → Except Misuse Json) (l : Links) :
    Except Misuse (List (String × Json)) := do
  let extendedBy ← Ty.toJsonListM expand (l.extendedBy.map Reference.toTy)
  let implementedBy ← Ty.toJsonListM expand (l.implementedBy.map Reference.toTy)
  let inheritedFrom ← referenceJson expand l.inheritedFrom
  let overwrites ← referenceJson expand l.overwrites
  let implementationOf ← referenceJson expand l.implementationOf
  let layers ← layersToJson expand l.hierarchy
  .ok (Json.field "extendedBy" (.arr extendedBy) ++
    Json.field "implementedBy" (.arr implementedBy) ++
    Json.field "inheritedFrom" inheritedFrom ++ Json.field "overwrites" overwrites ++
    Json.field "implementationOf" implementationOf ++ Json.field "typeHierarchy" (.obj layers))

/-- The fields of the details of a declaration and of its links. -/
def detailFields (expand : EntryId → Except Misuse Json) (d : Details) (l : Links) :
    Except Misuse (List (String × Json)) := do
  let type ← typeJson expand d.type
  let typeParameters ← entriesJson expand d.typeParameters
  let signatures ← entriesJson expand d.signatures
  let index ← entryField expand "indexSignature" d.indexSignature
  let getter ← entryField expand "getSignature" d.getSignature
  let setter ← entryField expand "setSignature" d.setSignature
  let extended ← Ty.toJsonListM expand d.extended
  let implemented ← Ty.toJsonListM expand d.implemented
  let links ← linkFields expand l
  .ok (Json.field "type" type ++ Json.field "typeParameters" typeParameters ++
    Json.field "signatures" signatures ++ index ++ getter ++ setter ++
    Json.field "defaultValue" (Json.ofText? d.defaultValue) ++
    Json.field "extendedTypes" (.arr extended) ++
    Json.field "implementedTypes" (.arr implemented) ++ links ++
    Json.field "sources" (.arr (d.sources.map SourceRef.toJson)))

/-- The fields of a list of children. -/
def childFields (expand : EntryId → Except Misuse Json) (m : Members) :
    Except Misuse (List (String × Json)) := do
  .ok (Json.field "children" (← entriesJson expand m.ids))

/-- The fields that the form of an entry adds. -/
def bodyFields (expand : EntryId → Except Misuse Json) (l : Links) :
    Body → Except Misuse (List (String × Json))
  | .plain => .ok []
  | .container m => childFields expand m
  | .project m => childFields expand m
  | .declaration m d => do .ok ((← detailFields expand d l) ++ (← childFields expand m))
  | .signature s => do
    let typeParameters ← entriesJson expand s.typeParameters
    let parameters ← entriesJson expand s.parameters
    let type ← typeJson expand s.type
    .ok (Json.field "typeParameters" typeParameters ++ Json.field "parameters" parameters ++
      Json.field "type" type)
  | .parameter type value => do
    .ok (Json.field "type" (← typeJson expand type) ++
      Json.field "defaultValue" (Json.ofText? value))
  | .typeParameter constraint standard => do
    let limit ← typeJson expand constraint
    let default ← typeJson expand standard
    .ok (Json.field "type" limit ++ Json.field "default" default)

/-- An entry as JSON with everything in it, at most `depth` entries deep. -/
def writeAt (r : Resolved) : Nat → EntryId → Except Misuse Json
  | 0, _ => .error .endless
  | depth + 1, id => do
    let e ← r.atlas.fetch id
    let fields ← bodyFields (r.writeAt depth) (r.linksOf id) e.body
    .ok (.obj (commonFields id e ++ fields))

/-- An entry as JSON with everything in it. -/
def write (r : Resolved) (id : EntryId) : Except Misuse Json :=
  r.writeAt (r.atlas.size + 1) id

/-- The whole atlas as JSON. -/
def toJson (r : Resolved) : Except Misuse Json :=
  r.write Atlas.root

end Resolved

end ApiAtlas
