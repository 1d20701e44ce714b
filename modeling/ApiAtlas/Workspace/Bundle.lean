import ApiAtlas.Json.Parser
import ApiAtlas.Workspace.Basic

/-!
# Workspaces as data

A workspace can be handed over as one JSON object: `cwd` and `home` are paths, `folders` lists
paths, and `files` lists objects with a `path`, a `text` and a `tree`. A node of a tree has a
`kind`, the bytes `start` and `stop`, and, where they apply, `token`, `field` and `children`. What
is missing or of another type is left at its default.
-/

set_option autoImplicit false

namespace ApiAtlas

mutual

/-- The syntax tree in a value. -/
def Source.SyntaxTree.ofJson : Json → Source.SyntaxTree
  | .obj fields => treeWith { kind := "program", start := 0, stop := 0 } fields
  | _ => default

/-- A node completed by the fields of an object. -/
def treeWith (t : Source.SyntaxTree) : List (String × Json) → Source.SyntaxTree
  | [] => t
  | (key, value) :: fields =>
    let next : Source.SyntaxTree :=
      match value with
      | .str s =>
        if key = "kind" then { t with kind := s }
        else if key = "field" then { t with field := some s } else t
      | .int n =>
        if key = "start" then { t with start := n.toNat }
        else if key = "stop" then { t with stop := n.toNat } else t
      | .bool b => if key = "token" then { t with named := !b } else t
      | .arr items => if key = "children" then { t with children := treesOf items } else t
      | _ => t
    treeWith next fields

/-- The syntax trees in some values. -/
def treesOf : List Json → List Source.SyntaxTree
  | [] => []
  | v :: vs => Source.SyntaxTree.ofJson v :: treesOf vs

end

namespace Workspace

/-- A text in a field. -/
def textIn (key : String) (value : Json) : String :=
  match value.get? key with
  | some (.str s) => s
  | _ => ""

/-- The items of a list in a field. -/
def itemsIn (key : String) (value : Json) : List Json :=
  match value.get? key with
  | some (.arr items) => items
  | _ => []

/-- The workspace in a value. -/
def ofJson (value : Json) : Workspace :=
  let cwd := FilePath.parse (textIn "cwd" value)
  let place (path : String) : List String := ((FilePath.parse path).resolve cwd).names
  let folder? : Json → Option (List String)
    | .str s => some (place s)
    | _ => none
  let file (item : Json) : StoredFile :=
    { names := place (textIn "path" item), bytes := (textIn "text" item).toUTF8.toList
      tree := ((item.get? "tree").map Source.SyntaxTree.ofJson).getD default }
  { whereabouts := ⟨cwd, ⟨FilePath.parse (textIn "home" value), []⟩⟩
    folders := (itemsIn "folders" value).filterMap folder?
    files := (itemsIn "files" value).map file }

/-- The files of a workspace that are new or changed since an earlier one. -/
def changedSince (w earlier : Workspace) : List StoredFile :=
  w.files.filter fun f => !((earlier.file? f.names).any fun g => g.bytes == f.bytes)

end Workspace

end ApiAtlas
