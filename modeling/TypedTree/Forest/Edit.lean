import TypedTree.Forest.Traversal

namespace TypedTree

/-! # Edits

Every edit is checked against the schema before anything changes: the feature must
exist and be of the right kind, contained nodes must fit the feature's target, and
no node may come to contain itself. A node moves: putting it into a feature takes it
out of the place it had.
-/

inductive Rejection where
  | wrongKind (actual : FeatureType)
  | noReference
  | repeatedNode
  | selfOrAncestor
  | wrongType (expected actual : String)
  | singleNode
deriving DecidableEq, Repr, Inhabited

def Rejection.reason : Rejection → String
  | .wrongKind actual => "feature is a " ++ actual.label
  | .noReference => "no reference is set"
  | .repeatedNode => "the same node cannot appear twice"
  | .selfOrAncestor => "a node cannot contain itself or an ancestor"
  | .wrongType expected actual => "expected " ++ expected ++ ", got " ++ actual
  | .singleNode => "expected a list, got a single node"

inductive EditError where
  | unknownConcept (concept : String)
  | unknownFeature (concept feature : String)
  | rejected (concept feature : String) (rejection : Rejection)
  | noSuchNode (node : NodeId)
deriving DecidableEq, Repr, Inhabited

def EditError.message : EditError → String
  | .unknownConcept concept => "Unknown concept: " ++ concept
  | .unknownFeature concept feature => "Concept " ++ concept ++ " has no feature " ++ feature
  | .rejected concept feature rejection =>
      "Cannot assign to " ++ concept ++ "." ++ feature ++ ": " ++ rejection.reason
  | .noSuchNode node => "No such node: " ++ node.repr

namespace Cell

/-- The feature of that name, if it is of a kind that `accepts` allows. -/
def expectFeature (cell : Cell) (name : String) (accepts : FeatureType → Bool) :
    Except EditError Feature :=
  match cell.concept.feature? name with
  | none => .error (.unknownFeature cell.concept.name name)
  | some feature =>
      if accepts feature.type then .ok feature
      else .error (.rejected cell.concept.name name (.wrongKind feature.type))

end Cell

namespace Forest

def create (forest : Forest) (schema : Schema) (concept : String) :
    Except EditError (NodeId × Forest) :=
  match schema.concept? concept with
  | some concept => .ok (forest.add (.blank concept))
  | none => .error (.unknownConcept concept)

def createGeneric (forest : Forest) : NodeId × Forest := forest.add (.blank .generic)

def createError (forest : Forest) (message : String) : NodeId × Forest :=
  forest.add ((Cell.blank .error).setSlot Concept.messageFeature.name
    (.attribute (some (.str message))))

def expectCell (forest : Forest) (node : NodeId) : Except EditError Cell :=
  match forest.cell? node with
  | some cell => .ok cell
  | none => .error (.noSuchNode node)

def setAttribute (forest : Forest) (node : NodeId) (feature : String) (value : Option Value) :
    Except EditError Forest := do
  let cell ← forest.expectCell node
  discard (cell.expectFeature feature fun type => type matches .attribute)
  return forest.modify node (·.setSlot feature (.attribute value))

def setReference (forest : Forest) (node : NodeId) (feature : String)
    (link : Option Reference) : Except EditError Forest := do
  let cell ← forest.expectCell node
  discard (cell.expectFeature feature FeatureType.isReference)
  return forest.modify node (·.setSlot feature (.reference link))

/-- Points a reference that is set at `target`. -/
def resolveReference (forest : Forest) (node : NodeId) (feature : String) (target : NodeId) :
    Except EditError Forest := do
  let cell ← forest.expectCell node
  discard (cell.expectFeature feature FeatureType.isReference)
  match cell.reference? feature with
  | some link =>
      return forest.modify node
        (·.setSlot feature (.reference (some { link with target := some target })))
  | none => throw (.rejected cell.concept.name feature .noReference)

def setOrigin (forest : Forest) (node : NodeId) (origin : Option Origin) : Forest :=
  forest.modify node fun cell => { cell with origin := origin }

def setRange (forest : Forest) (node : NodeId) (range : Option Span) : Forest :=
  forest.modify node fun cell => { cell with range := range }

def setSource (forest : Forest) (node : NodeId) (source : Option Source) : Forest :=
  forest.modify node fun cell => { cell with source := source }

/-- Sets the parent link alone; no slot changes. -/
def setParent (forest : Forest) (node : NodeId) (parent : Option NodeId) : Forest :=
  forest.modify node fun cell => { cell with parent := parent }

/-- Whether `feature` of `node` may hold `child`. Placeholders fit everywhere. -/
def checkChild (forest : Forest) (node : NodeId) (cell : Cell) (feature : Feature)
    (child : NodeId) : Except EditError Unit :=
  if child = node || (forest.ancestors node).contains child then
    .error (.rejected cell.concept.name feature.name .selfOrAncestor)
  else
    match forest.concept? child, feature.type.target? with
    | none, _ => .error (.noSuchNode child)
    | some _, none => .ok ()
    | some concept, some target =>
        if concept.isPlaceholder || concept.isA target then .ok ()
        else .error (.rejected cell.concept.name feature.name (.wrongType target concept.name))

/-- Checks children from left to right, none of which may be among `seen`. -/
def checkChildren (forest : Forest) (node : NodeId) (cell : Cell) (feature : Feature)
    (seen : List NodeId) : List NodeId → Except EditError Unit
  | [] => .ok ()
  | child :: rest =>
      if child ∈ seen then .error (.rejected cell.concept.name feature.name .repeatedNode)
      else do
        forest.checkChild node cell feature child
        forest.checkChildren node cell feature (child :: seen) rest

/-- Takes the node out of its parent. -/
def detach (forest : Forest) (node : NodeId) : Forest :=
  match forest.parent? node with
  | none => forest
  | some parent => (forest.modify parent (·.without node)).setParent node none

end Forest

/-- Whether new nodes take the place of the old ones or follow them. -/
inductive Placement where
  | replace
  | append
deriving DecidableEq, Repr

namespace Slot

def place (slot : Slot) (incoming : List NodeId) : Placement → Slot
  | .append =>
      match slot with
      | .children nodes => .children (nodes ++ incoming)
      | _ => slot
  | .replace =>
      match slot with
      | .children _ => .children incoming
      | .child _ => .child incoming.head?
      | _ => slot

/-- The nodes that placing other ones here drives out. -/
def displaced (slot : Slot) : Placement → List NodeId
  | .append => []
  | .replace => slot.contained

end Slot

namespace Forest

/-- Moves `incoming` into a feature of `node`. Nodes that stood there and are not
coming in become roots. -/
def attach (forest : Forest) (node : NodeId) (feature : String) (incoming : List NodeId)
    (placement : Placement) : Forest :=
  let freed := incoming.foldl detach forest
  let displaced :=
    (((freed.cell? node).bind (·.slot? feature)).map (·.displaced placement)).getD []
  let placed := freed.modify node (·.changeSlot feature (·.place incoming placement))
  let orphaned := (displaced.filter (· ∉ incoming)).foldl (·.setParent · none) placed
  incoming.foldl (·.setParent · (some node)) orphaned

def setChild (forest : Forest) (node : NodeId) (feature : String) (child : Option NodeId) :
    Except EditError Forest := do
  let cell ← forest.expectCell node
  let declared ← cell.expectFeature feature fun type => type matches .child _
  child.toList.forM (forest.checkChild node cell declared)
  return forest.attach node feature child.toList .replace

def setChildren (forest : Forest) (node : NodeId) (feature : String) (children : List NodeId) :
    Except EditError Forest := do
  let cell ← forest.expectCell node
  let declared ← cell.expectFeature feature fun type => type matches .children _
  forest.checkChildren node cell declared [] children
  return forest.attach node feature children .replace

def addChild (forest : Forest) (node : NodeId) (feature : String) (child : NodeId) :
    Except EditError Forest := do
  let cell ← forest.expectCell node
  let declared ← cell.expectFeature feature fun type => type matches .children _
  forest.checkChild node cell declared child
  return forest.attach node feature [child] .append

end Forest

inductive Edit where
  | setAttribute (node : NodeId) (feature : String) (value : Option Value)
  | setReference (node : NodeId) (feature : String) (link : Option Reference)
  | resolveReference (node : NodeId) (feature : String) (target : NodeId)
  | setChild (node : NodeId) (feature : String) (child : Option NodeId)
  | setChildren (node : NodeId) (feature : String) (children : List NodeId)
  | addChild (node : NodeId) (feature : String) (child : NodeId)
  | setOrigin (node : NodeId) (origin : Option Origin)
  | setRange (node : NodeId) (range : Option Span)
  | setSource (node : NodeId) (source : Option Source)

def Forest.apply (forest : Forest) : Edit → Except EditError Forest
  | .setAttribute node feature value => forest.setAttribute node feature value
  | .setReference node feature link => forest.setReference node feature link
  | .resolveReference node feature target => forest.resolveReference node feature target
  | .setChild node feature child => forest.setChild node feature child
  | .setChildren node feature children => forest.setChildren node feature children
  | .addChild node feature child => forest.addChild node feature child
  | .setOrigin node origin => .ok (forest.setOrigin node origin)
  | .setRange node range => .ok (forest.setRange node range)
  | .setSource node source => .ok (forest.setSource node source)

end TypedTree
