import TypedTree.Forest.Basic
import TypedTree.Text.Quoted

namespace TypedTree.Forest

/-- The concept of a node, with its name in quotes if it has one. -/
def describe (forest : Forest) (node : NodeId) : String :=
  match forest.cell? node with
  | none => "<dropped>"
  | some cell =>
      match cell.name? with
      | some name => cell.concept.name ++ "(" ++ Text.quote name ++ ")"
      | none => cell.concept.name

def describeReference (forest : Forest) (link : Reference) : String :=
  let state := if forest.isResolved link then "resolved" else "unresolved"
  "Ref(" ++ link.name ++ " " ++ state ++ ")"

def describeOrigin (forest : Forest) : Origin → String
  | .foreign element => "Foreign(" ++ element.typeName ++ ")"
  | .node id => "Node(" ++ forest.describe id ++ ")"

end TypedTree.Forest
