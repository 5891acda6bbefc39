import TypedTree.Text.Identifier
import TypedTree.Uuid

namespace TypedTree

inductive Source where
  | file (path : String)
  | named (name : String)
  | synthetic (uuid : Uuid)
deriving DecidableEq, Repr, Inhabited

namespace Source

def text : Source → String
  | .file path => path
  | .named name => name
  | .synthetic uuid => "synthetic:" ++ uuid.text

/-- Replaces every character that cannot stand in an identifier by a hyphen. -/
def sanitize (path : String) : String :=
  String.ofList (path.toList.map fun c => if Text.identifierPart.contains c then c else '-')

/-- The simple identifier of a source: a path made fit for identifiers, a name or a
unique identifier as it is. -/
def simpleId : Source → String
  | .file path => sanitize path
  | .named name => name
  | .synthetic uuid => uuid.text

end Source

end TypedTree
