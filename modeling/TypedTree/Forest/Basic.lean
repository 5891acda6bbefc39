import TypedTree.Foreign.Basic
import TypedTree.Schema.Basic
import TypedTree.Source

namespace TypedTree

/-! # Forests

A forest holds the nodes of all trees. A node is known by its number, which is
never used again after the node is gone, so a number kept elsewhere (as a parent,
as the target of a reference, as an origin) either leads to the node it meant or
nowhere. Containment is the only thing that keeps a node inside the forest; names
given from outside are kept in `handles`.
-/

abbrev NodeId := Nat

/-- A link by name, with the node it was resolved to. -/
structure Reference where
  name : String
  target : Option NodeId
deriving DecidableEq, Repr, Inhabited

inductive Slot where
  | attribute (value : Option Value)
  | child (node : Option NodeId)
  | children (nodes : List NodeId)
  | reference (link : Option Reference)
deriving DecidableEq, Repr, Inhabited

namespace Slot

def empty : FeatureType → Slot
  | .attribute => .attribute none
  | .child _ => .child none
  | .children _ => .children []
  | .reference _ => .reference none

def contained : Slot → List NodeId
  | .child node => node.toList
  | .children nodes => nodes
  | .attribute _ | .reference _ => []

def without (slot : Slot) (node : NodeId) : Slot :=
  match slot with
  | .child held => .child (held.filter (· != node))
  | .children nodes => .children (nodes.filter (· != node))
  | .attribute _ | .reference _ => slot

@[simp]
theorem contained_empty (type : FeatureType) : (empty type).contained = [] := by
  cases type <;> rfl

theorem contained_without (slot : Slot) (node : NodeId) :
    (slot.without node).contained = slot.contained.filter (· != node) := by
  match slot with
  | .child none => rfl
  | .child (some held) =>
      by_cases same : held = node <;> simp [without, contained, Option.filter, same]
  | .children _ | .attribute _ | .reference _ => rfl

end Slot

inductive Origin where
  | foreign (element : ForeignNode)
  | node (id : NodeId)

structure Cell where
  concept : Concept
  /-- One slot for each feature of the concept, in the order of the features. -/
  content : Registry String Slot
  parent : Option NodeId
  origin : Option Origin
  range : Option Span
  source : Option Source

namespace Cell

def blank (concept : Concept) : Cell where
  concept := concept
  content := .ofEntries (concept.features.map fun feature => (feature.name, .empty feature.type))
  parent := none
  origin := none
  range := none
  source := none

def slots (cell : Cell) : List (String × Slot) := cell.content.entries

def slot? (cell : Cell) (feature : String) : Option Slot := cell.content.get? feature

def changeSlot (cell : Cell) (feature : String) (change : Slot → Slot) : Cell :=
  { cell with content := cell.content.modify feature change }

def setSlot (cell : Cell) (feature : String) (content : Slot) : Cell :=
  cell.changeSlot feature fun _ => content

/-- The cell with `node` taken out of every slot. -/
def without (cell : Cell) (node : NodeId) : Cell :=
  { cell with content := cell.content.mapValues (·.without node) }

def attribute? (cell : Cell) (feature : String) : Option Value :=
  match cell.slot? feature with
  | some (.attribute value) => value
  | _ => none

def child? (cell : Cell) (feature : String) : Option NodeId :=
  match cell.slot? feature with
  | some (.child node) => node
  | _ => none

def reference? (cell : Cell) (feature : String) : Option Reference :=
  match cell.slot? feature with
  | some (.reference link) => link
  | _ => none

/-- The nodes that a feature contains, whether it holds one or many. -/
def childrenOf (cell : Cell) (feature : String) : List NodeId :=
  ((cell.slot? feature).map Slot.contained).getD []

/-- All contained nodes, in the order of the features. -/
def children (cell : Cell) : List NodeId := cell.slots.flatMap fun slot => slot.2.contained

/-- The references that are set, in the order of the features. -/
def references (cell : Cell) : List (String × Reference) :=
  cell.slots.filterMap fun slot =>
    match slot.2 with
    | .reference (some link) => some (slot.1, link)
    | _ => none

/-- The attribute `name`, if it is a text. -/
def name? (cell : Cell) : Option String := (cell.attribute? "name").bind Value.str?

def errorMessage? (cell : Cell) : Option String :=
  if cell.concept.isError then (cell.attribute? Concept.messageFeature.name).map Value.text
  else none

theorem slot?_changeSlot (cell : Cell) (feature other : String) (change : Slot → Slot) :
    (cell.changeSlot feature change).slot? other =
      if other = feature then (cell.slot? other).map change else cell.slot? other :=
  Registry.get?_modify cell.content feature other change

theorem slot?_setSlot (cell : Cell) (feature other : String) (content : Slot) :
    (cell.setSlot feature content).slot? other =
      if other = feature then (cell.slot? other).map fun _ => content else cell.slot? other :=
  cell.slot?_changeSlot feature other fun _ => content

theorem slot?_without (cell : Cell) (node : NodeId) (feature : String) :
    (cell.without node).slot? feature = (cell.slot? feature).map (·.without node) :=
  Registry.get?_mapValues cell.content feature (·.without node)

theorem childrenOf_changeSlot_of_ne (cell : Cell) {feature other : String}
    (different : other ≠ feature) (change : Slot → Slot) :
    (cell.changeSlot feature change).childrenOf other = cell.childrenOf other := by
  simp [childrenOf, slot?_changeSlot, different]

theorem childrenOf_changeSlot_self (cell : Cell) (feature : String) (change : Slot → Slot) :
    (cell.changeSlot feature change).childrenOf feature =
      ((cell.slot? feature).map fun slot => (change slot).contained).getD [] := by
  simp [childrenOf, slot?_changeSlot, Function.comp_def]

theorem childrenOf_without (cell : Cell) (node : NodeId) (feature : String) :
    (cell.without node).childrenOf feature =
      (cell.childrenOf feature).filter (· != node) := by
  cases found : cell.slot? feature with
  | none => simp [childrenOf, slot?_without, found]
  | some slot => simp [childrenOf, slot?_without, found, Slot.contained_without]

end Cell

structure Forest where
  /-- The cell of every node ever made; none where the node is gone. -/
  cells : Array (Option Cell)
  /-- The nodes that are named from outside. -/
  handles : Registry String NodeId

namespace Forest

def empty : Forest := ⟨#[], ∅⟩

instance : EmptyCollection Forest := ⟨empty⟩

instance : Inhabited Forest := ⟨empty⟩

def cell? (forest : Forest) (node : NodeId) : Option Cell := forest.cells[node]?.join

def isAlive (forest : Forest) (node : NodeId) : Bool := (forest.cell? node).isSome

def nextId (forest : Forest) : NodeId := forest.cells.size

def add (forest : Forest) (cell : Cell) : NodeId × Forest :=
  (forest.nextId, { forest with cells := forest.cells.push (some cell) })

/-- Changes the cell of a node; a node that is gone stays so. -/
def modify (forest : Forest) (node : NodeId) (change : Cell → Cell) : Forest :=
  match forest.cell? node with
  | some cell => { forest with cells := forest.cells.setIfInBounds node (some (change cell)) }
  | none => forest

def concept? (forest : Forest) (node : NodeId) : Option Concept :=
  (forest.cell? node).map (·.concept)

def conceptName (forest : Forest) (node : NodeId) : String :=
  ((forest.concept? node).map (·.name)).getD ""

def isA (forest : Forest) (node : NodeId) (concept : String) : Bool :=
  (forest.concept? node).any (·.isA concept)

def children (forest : Forest) (node : NodeId) : List NodeId :=
  ((forest.cell? node).map (·.children)).getD []

def childrenOf (forest : Forest) (node : NodeId) (feature : String) : List NodeId :=
  ((forest.cell? node).map (·.childrenOf feature)).getD []

def references (forest : Forest) (node : NodeId) : List (String × Reference) :=
  ((forest.cell? node).map (·.references)).getD []

/-- The parent, if it is still there. -/
def parent? (forest : Forest) (node : NodeId) : Option NodeId :=
  ((forest.cell? node).bind (·.parent)).filter forest.isAlive

/-- Whether the node has no parent link. A node whose parent is gone keeps the link
and is no root. -/
def isRoot (forest : Forest) (node : NodeId) : Bool :=
  (forest.cell? node).any (·.parent.isNone)

/-- The target of a reference, if it is resolved and still there. -/
def referred? (forest : Forest) (link : Reference) : Option NodeId :=
  link.target.filter forest.isAlive

def isResolved (forest : Forest) (link : Reference) : Bool := (forest.referred? link).isSome

/-- References are equal if they have one name and lead to the same place. -/
def sameReference (forest : Forest) (first second : Reference) : Bool :=
  first.name == second.name && forest.referred? first == forest.referred? second

theorem cell?_add_self (forest : Forest) (cell : Cell) :
    (forest.add cell).2.cell? (forest.add cell).1 = some cell := by
  simp [add, cell?, nextId]

theorem cell?_add_of_ne (forest : Forest) (cell : Cell) {node : NodeId}
    (different : node ≠ forest.nextId) :
    (forest.add cell).2.cell? node = forest.cell? node := by
  simp only [add, cell?, nextId] at *
  rw [Array.getElem?_push]
  simp [different]

theorem cell?_modify (forest : Forest) (node other : NodeId) (change : Cell → Cell) :
    (forest.modify node change).cell? other =
      if other = node then (forest.cell? other).map change else forest.cell? other := by
  unfold modify
  cases found : forest.cell? node with
  | none =>
      by_cases same : other = node
      · subst same
        simp [found]
      · simp [same]
  | some cell =>
      by_cases same : other = node
      · subst same
        have within : other < forest.cells.size := by
          refine Nat.lt_of_not_le fun outside => ?_
          simp [cell?, Array.getElem?_eq_none outside] at found
        rw [if_pos rfl, found]
        simp [cell?, within]
      · simp only [cell?, same, if_false]
        rw [Array.getElem?_setIfInBounds_ne (Ne.symm same)]

theorem childrenOf_modify_self (forest : Forest) (node : NodeId) (feature : String)
    (change : Cell → Cell) :
    (forest.modify node change).childrenOf node feature =
      ((forest.cell? node).map fun cell => (change cell).childrenOf feature).getD [] := by
  simp [childrenOf, cell?_modify, Function.comp_def]

theorem childrenOf_modify_of_ne (forest : Forest) {node other : NodeId}
    (different : other ≠ node) (feature : String) (change : Cell → Cell) :
    (forest.modify node change).childrenOf other feature = forest.childrenOf other feature := by
  simp [childrenOf, cell?_modify, different]

theorem childrenOf_modify_of_same (forest : Forest) (node other : NodeId) (feature : String)
    {change : Cell → Cell} (same : ∀ cell, (change cell).childrenOf feature = cell.childrenOf feature) :
    (forest.modify node change).childrenOf other feature = forest.childrenOf other feature := by
  by_cases here : other = node
  · subst here
    rw [childrenOf_modify_self, childrenOf]
    simp only [same]
  · exact forest.childrenOf_modify_of_ne here feature change

@[simp]
theorem nextId_modify (forest : Forest) (node : NodeId) (change : Cell → Cell) :
    (forest.modify node change).nextId = forest.nextId := by
  unfold modify
  split <;> simp [nextId]

@[simp]
theorem isAlive_modify (forest : Forest) (node other : NodeId) (change : Cell → Cell) :
    (forest.modify node change).isAlive other = forest.isAlive other := by
  simp only [isAlive, cell?_modify]
  split <;> simp

end Forest

end TypedTree
