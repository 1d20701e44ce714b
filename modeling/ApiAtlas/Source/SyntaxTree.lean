/-!
# Syntax trees

The tree that a parser makes of a text: each node has a kind, the span of bytes that it covers, and
its children in order. Anonymous nodes are the bare tokens of the grammar; a child can stand in a
field of its parent, which tells its role.
-/

set_option autoImplicit false

namespace ApiAtlas.Source

/-- A node of a syntax tree with everything below it. -/
structure SyntaxTree where
  kind : String
  start : Nat
  stop : Nat
  named : Bool := true
  field : Option String := none
  children : List SyntaxTree := []

instance : Inhabited SyntaxTree := ⟨{ kind := "program", start := 0, stop := 0 }⟩

namespace SyntaxTree

/-- Whether a node is a part of what its parent says: neither a bare token nor a comment. -/
def isPart (t : SyntaxTree) : Bool :=
  t.named && t.kind != "comment"

/-- The parts among some nodes. -/
def parts (ts : List SyntaxTree) : List SyntaxTree :=
  ts.filter isPart

/-- The first node that stands in a field. -/
def at? (field : String) (ts : List SyntaxTree) : Option SyntaxTree :=
  ts.find? fun t => t.field == some field

/-- Whether a bare token of some kind is among the nodes. -/
def hasToken (kind : String) (ts : List SyntaxTree) : Bool :=
  ts.any fun t => !t.named && t.kind == kind

end SyntaxTree

end ApiAtlas.Source
