import TypedTree.Forest.Traversal
import TypedTree.Text.Split

namespace TypedTree.Forest

/-- The number that a place is written as: decimal digits, after a plus sign or none. -/
def parseIndex? (cs : List Char) : Option Nat :=
  let digits := if cs.head? = some '+' then cs.tail else cs
  if digits ≠ [] ∧ digits.all Char.isDigit then
    some (digits.foldl (fun value digit => 10 * value + (digit.toNat - '0'.toNat)) 0)
  else none

/-- The feature and the place that a step of a path names. -/
def parseStep? (step : String) : Option (String × Nat) :=
  let cs := step.toList.reverse
  match cs.dropWhile (· != '.') with
  | [] => none
  | _ :: feature =>
      (parseIndex? (cs.takeWhile (· != '.')).reverse).map fun index =>
        (String.ofList feature.reverse, index)

def descend? (forest : Forest) (node : NodeId) (step : String) : Option NodeId := do
  let (feature, index) ← parseStep? step
  (forest.childrenOf node feature)[index]?

/-- The node at an address: a handle and a path of features and places below it, as in
`unit/classes.0/members.2`. -/
def find? (forest : Forest) (address : String) : Option NodeId :=
  match (Text.splitChars '/' address.toList).map String.ofList with
  | [] => none
  | handle :: steps => do
      let start ← forest.handles.get? handle
      steps.foldlM forest.descend? start

def smallestHandle? (forest : Forest) (node : NodeId) : Option String :=
  let names := forest.handles.entries.filterMap fun (handle, held) =>
    if held = node then some handle else none
  (names.mergeSort fun first second => first ≤ second).head?

/-- The address of a node whose ancestors are given, nearest first. -/
def addressUnder (forest : Forest) (node : NodeId) : (ancestors : List NodeId) → String
  | [] =>
      match forest.smallestHandle? node with
      | some handle => handle
      | none => "~" ++ forest.conceptName node
  | parent :: above =>
      match forest.smallestHandle? node, forest.containingFeature? node with
      | some handle, _ => handle
      | none, some (feature, index) =>
          forest.addressUnder parent above ++ "/" ++ feature ++ "." ++ index.repr
      | none, none => forest.addressUnder parent above ++ "/?"

def address (forest : Forest) (node : NodeId) : String :=
  forest.addressUnder node (forest.ancestors node)

end TypedTree.Forest
