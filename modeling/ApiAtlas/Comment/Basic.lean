import ApiAtlas.Json.Basic
import ApiAtlas.Text.Lowercase

/-!
# Doc comments

A doc comment is a summary followed by tags. A tag has a name, a text and, for the tags that
describe a named thing, the name of that thing. Tag names are looked up in lower case.
-/

set_option autoImplicit false

namespace ApiAtlas

/-- One tag of a doc comment; `param` is the name of the thing it describes. -/
structure Tag where
  name : String
  text : String
  param : Option String
  deriving DecidableEq, Repr, Inhabited

/-- A doc comment. -/
structure Comment where
  summary : String
  tags : List Tag
  deriving DecidableEq, Repr, Inhabited

namespace Comment

/-- The name under which a tag is looked up. -/
def tagKey (name : String) : String :=
  String.ofList (Text.lower name.toList)

/-- The first tag of a name, among those that describe a given thing if one is given. -/
def tag? (c : Comment) (name : String) (param : Option String) : Option Tag :=
  c.tags.find? fun t => t.name == tagKey name && (param.isNone || t.param == param)

/-- Whether the comment has a tag of this name. -/
def hasTag (c : Comment) (name : String) : Bool :=
  (c.tag? name none).isSome

/-- The comment without the tags of a name. -/
def removeTags (c : Comment) (name : String) : Comment :=
  { c with tags := c.tags.filter fun t => t.name != tagKey name }

/-- Whether the comment says nothing. -/
def isEmpty (c : Comment) : Bool :=
  c.summary.isEmpty && c.tags.isEmpty

end Comment

/-- A tag as JSON; the thing it describes is left out when it has no name. -/
def Tag.toJson (t : Tag) : Json :=
  .obj ([("tag", .str t.name), ("text", .str t.text)] ++
    match t.param with
    | some p => if p.isEmpty then [] else [("param", .str p)]
    | none => [])

/-- A comment as JSON, without the parts it does not have. -/
def Comment.toJson (c : Comment) : Json :=
  .obj ((if c.summary.isEmpty then [] else [("summary", .str c.summary)]) ++
    (if c.tags.isEmpty then [] else [("tags", .arr (c.tags.map Tag.toJson))]))

end ApiAtlas
