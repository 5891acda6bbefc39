import TypedTree.Forest.Basic

namespace TypedTree.Forest

/-! # Liveness

A node stays while a handle names it, something outside holds it, or a node that
stays contains it. Sweeping removes the others, outermost first: once a node is
gone, what it contained may have lost its last holder.
-/

def hold (forest : Forest) (handle : String) (node : NodeId) : Forest :=
  { forest with handles := forest.handles.insert handle node }

def release (forest : Forest) (handle : String) : Forest :=
  { forest with handles := forest.handles.erase handle }

def containedNodes (forest : Forest) : List NodeId :=
  forest.cells.toList.flatMap fun cell => (cell.map (·.children)).getD []

def population (forest : Forest) : Nat := forest.cells.toList.countP (·.isSome)

/-- Removes the nodes that are neither held nor contained at this moment. -/
def sweepOnce (held : NodeId → Bool) (forest : Forest) : Forest :=
  let contained := forest.containedNodes
  { forest with
    cells := forest.cells.mapIdx fun node cell =>
      if held node || contained.contains node then cell else none }

/-- Sweeps until nothing more goes, at most `rounds` times. -/
def sweepRounds (held : NodeId → Bool) : (rounds : Nat) → Forest → Forest
  | 0, forest => forest
  | rounds + 1, forest =>
      let swept := forest.sweepOnce held
      if swept.population = forest.population then forest else sweepRounds held rounds swept

/-- Removes every node that nothing keeps; `others` are held besides the handles. -/
def sweep (forest : Forest) (others : List NodeId) : Forest :=
  let held := forest.handles.values ++ others
  forest.sweepRounds held.contains (forest.nextId + 1)

/-- Gives up the nodes made since `mark` that nothing contains. -/
def discardSince (forest : Forest) (mark : NodeId) : Forest :=
  forest.sweepRounds (· < mark) (forest.nextId + 1)

end TypedTree.Forest
