import TypedTree.Forest.Basic

namespace TypedTree.Forest

/-- The first `count` ancestors, nearest first. -/
def ancestorsUpTo (forest : Forest) : (count : Nat) → NodeId → List NodeId
  | 0, _ => []
  | count + 1, node =>
      match forest.parent? node with
      | none => []
      | some parent => parent :: forest.ancestorsUpTo count parent

def ancestors (forest : Forest) (node : NodeId) : List NodeId :=
  forest.ancestorsUpTo forest.nextId node

def root (forest : Forest) (node : NodeId) : NodeId :=
  (forest.ancestors node).getLast?.getD node

/-- The source of a tree is recorded on its root. -/
def source? (forest : Forest) (node : NodeId) : Option Source :=
  (forest.cell? (forest.root node)).bind (·.source)

/-- The feature that holds the node in its parent, and the place within it. None for
a root and for a node that its parent does not contain. -/
def containingFeature? (forest : Forest) (node : NodeId) : Option (String × Nat) := do
  let parent ← forest.parent? node
  let cell ← forest.cell? parent
  cell.slots.findSome? fun slot =>
    (slot.2.contained.idxOf? node).map fun index => (slot.1, index)

/-- The node and what it contains to a depth of `depth` levels, every node before
what it contains. -/
def walkTo (forest : Forest) : (depth : Nat) → NodeId → List NodeId
  | 0, _ => []
  | depth + 1, node => node :: (forest.children node).flatMap (forest.walkTo depth)

def walk (forest : Forest) (node : NodeId) : List NodeId := forest.walkTo forest.nextId node

/-- The references of a tree that are set and lead nowhere. -/
def unresolvedReferences (forest : Forest) (node : NodeId) : List (NodeId × String) :=
  (forest.walk node).flatMap fun inner =>
    (forest.references inner).filterMap fun (feature, link) =>
      if forest.isResolved link then none else some (inner, feature)

end TypedTree.Forest
