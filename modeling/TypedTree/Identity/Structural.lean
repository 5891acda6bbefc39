import TypedTree.Dispatch
import TypedTree.Forest.Traversal

namespace TypedTree

/-! # Identifiers from the shape of a tree

The root of a tree is named after the tree's source. Every other node is named after
its container, followed by the feature that holds it and, except for the first one
there, by its place in the feature.
-/

inductive IdError where
  /-- The tree's root has no source. -/
  | missingSource (concept : String)
  /-- The node has a parent link but stands in no parent. -/
  | detachedNode (concept : String)
  /-- No rule gives the node an identifier. -/
  | noSemanticIdentity (concept : String)
  | unknownConcept (concept : String)
  /-- A failure that a rule reports itself. -/
  | rule (message : String)
  | dispatch (error : DispatchError)
deriving DecidableEq, Repr, Inhabited

def IdError.message : IdError → String
  | .missingSource concept => "Root node " ++ concept ++ " has no source"
  | .detachedNode concept =>
      "Node " ++ concept ++ " should not be root: it is not contained in its parent"
  | .noSemanticIdentity concept => "Node " ++ concept ++ " has no semantic identity"
  | .unknownConcept concept => "Unknown concept: " ++ concept
  | .rule message => message
  | .dispatch error => error.message

abbrev SourceIds := Source → Except IdError String

def SourceIds.simple : SourceIds := fun source => .ok source.simpleId

/-- Where a node stands, its container given by its identifier. -/
inductive Coordinates where
  | root
  | contained (container feature : String) (index : Nat)
deriving DecidableEq, Repr, Inhabited

namespace Structural

def containedId (container feature : String) (index : Nat) : String :=
  if index = 0 then container ++ "_" ++ feature
  else container ++ "_" ++ feature ++ "_" ++ index.repr

def idAt (sources : SourceIds) (forest : Forest) (node : NodeId) :
    Coordinates → Except IdError String
  | .root =>
      match (forest.cell? node).bind (·.source) with
      | some source => (sources source).map (· ++ "_root")
      | none => .error (.missingSource (forest.conceptName node))
  | .contained container feature index => .ok (containedId container feature index)

/-- The coordinates of a node whose ancestors are given, nearest first. -/
def coordinatesUnder (sources : SourceIds) (forest : Forest) (node : NodeId) :
    (ancestors : List NodeId) → Except IdError Coordinates
  | [] =>
      if forest.isRoot node then .ok .root
      else .error (.detachedNode (forest.conceptName node))
  | parent :: above =>
      if forest.isRoot node then .ok .root
      else
        match forest.containingFeature? node with
        | none => .error (.detachedNode (forest.conceptName node))
        | some (feature, index) => do
            let outer ← coordinatesUnder sources forest parent above
            let container ← idAt sources forest parent outer
            return .contained container feature index

def coordinates (sources : SourceIds) (forest : Forest) (node : NodeId) :
    Except IdError Coordinates :=
  coordinatesUnder sources forest node (forest.ancestors node)

def id (sources : SourceIds) (forest : Forest) (node : NodeId) : Except IdError String := do
  let place ← coordinates sources forest node
  idAt sources forest node place

end Structural

end TypedTree
