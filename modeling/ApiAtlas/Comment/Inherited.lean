import ApiAtlas.Comment.Basic

/-!
# Inherited documentation

What a declaration says when it inherits its documentation: the inherited comment, followed by
those of its own tags that the inherited comment does not have.
-/

set_option autoImplicit false

namespace ApiAtlas.Comment

/-- The tag that asks for inherited documentation. -/
def inheritTag : String := "inheritdoc"

/-- One more tag, unless the comment already has a tag of that name for the same thing. -/
def addTag (c : Comment) (t : Tag) : Comment :=
  if t.name == inheritTag || (c.tag? t.name t.param).isSome then c
  else { c with tags := c.tags ++ [t] }

/-- The inherited comment with the tags of a local comment added to it. -/
def inherit (inherited : Comment) (own : Option Comment) : Comment :=
  ((own.map (·.tags)).getD []).foldl addTag (inherited.removeTags inheritTag)

end ApiAtlas.Comment
