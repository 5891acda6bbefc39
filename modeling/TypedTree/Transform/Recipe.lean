import TypedTree.Forest.Address
import TypedTree.Transform.Factory

namespace TypedTree

/-- How a constructor fills a feature itself. -/
inductive WireMode where
  | child
  | children
  /-- Adds the nodes of a list one by one. -/
  | add
  | attribute
deriving DecidableEq, Repr

structure Wire where
  feature : String
  /-- Where the value is read; without a path, as the factory's rule says. -/
  path : Option String
  mode : WireMode
  /-- The nodes are transformed without a parent. -/
  orphan : Bool

namespace Wire

def value (wire : Wire) (concept : Concept) (foreign : ForeignNode)
    (rules : ExtractionRules) : ForeignValue :=
  match wire.path with
  | some path => foreign.navigate path
  | none => rules.extract concept wire.feature foreign

def scalar? : ForeignValue → Option Value
  | .scalar value => some value
  | _ => none

def addEach (node : NodeId) (feature : String) : List NodeId → Construction Unit
  | [] => return ()
  | child :: rest => do
      Construction.edit (.addChild node feature child)
      addEach node feature rest

def apply (wire : Wire) (node : NodeId) (foreign : ForeignNode) (rules : ExtractionRules) :
    Construction Unit := do
  match (← Construction.look).concept? node with
  | none => return ()
  | some concept =>
      let value := wire.value concept foreign rules
      let parent := if wire.orphan then none else some node
      match wire.mode with
      | .child => do
          let child ← Construction.transform value parent
          Construction.edit (.setChild node wire.feature child)
      | .children => do
          let children ← Construction.transformList value parent
          Construction.edit (.setChildren node wire.feature children)
      | .add => do
          let children ← Construction.transformList value parent
          addEach node wire.feature children
      | .attribute => Construction.edit (.setAttribute node wire.feature (scalar? value))

def applyEach (node : NodeId) (foreign : ForeignNode) (rules : ExtractionRules) :
    List Wire → Construction Unit
  | [] => return ()
  | wire :: rest => do
      wire.apply node foreign rules
      applyEach node foreign rules rest

end Wire

structure NodeRecipe where
  concept : String
  range : Option Span
  source : Option Source
  /-- The address of the node that the new one comes from. -/
  origin : Option String
  attributes : List (String × Value)
  wires : List Wire

namespace NodeRecipe

def setAttributes (node : NodeId) : List (String × Value) → Construction Unit
  | [] => return ()
  | (feature, value) :: rest => do
      Construction.edit (.setAttribute node feature (some value))
      setAttributes node rest

def setOrigin (node : NodeId) : Option String → Construction Unit
  | none => return ()
  | some address => do
      match (← Construction.look).find? address with
      | some origin => Construction.edit (.setOrigin node (some (.node origin)))
      | none => .fail (.factory ("no node " ++ address))

def construct (recipe : NodeRecipe) (foreign : ForeignNode) (rules : ExtractionRules) :
    Construction NodeId := do
  let node ← Construction.create recipe.concept
  Construction.edit (.setRange node recipe.range)
  Construction.edit (.setSource node recipe.source)
  setOrigin node recipe.origin
  setAttributes node recipe.attributes
  Wire.applyEach node foreign rules recipe.wires
  return node

end NodeRecipe

/-- A message about a foreign node, whose type stands where the message says so. -/
def messageFor (message : String) (foreign : ForeignNode) : String :=
  message.replace "\x7btype\x7d" foreign.typeName

inductive Recipe where
  | nothing
  | fail (message : String)
  | generic
  | errorNode (message : String)
  /-- The node that a handle names. -/
  | existing (handle : String)
  /-- The node for the foreign value at a path. -/
  | delegate (path : String)
  | report (issue : Issue) (next : Recipe)
  /-- Goes by the text of the scalar at a path. -/
  | switch (path : String) (cases : List (String × Recipe)) (fallback : Recipe)
  | create (node : NodeRecipe)

namespace Recipe

mutual
def construct : Recipe → ForeignNode → ExtractionRules → Construction (Option NodeId)
  | .nothing, _, _ => return none
  | .fail message, foreign, _ => .fail (.factory (messageFor message foreign))
  | .generic, _, _ => do return some (← Construction.createGeneric)
  | .errorNode message, _, _ => do return some (← Construction.createError message)
  | .existing handle, _, _ => do
      match (← Construction.look).handles.get? handle with
      | some node => return some node
      | none => .fail (.factory ("no node " ++ handle))
  | .delegate path, foreign, _ => Construction.transform (foreign.navigate path) none
  | .report issue next, foreign, rules => do
      Construction.addIssue issue
      next.construct foreign rules
  | .switch path cases fallback, foreign, rules =>
      let key := ((Wire.scalar? (foreign.navigate path)).map Value.text).getD ""
      constructCase key cases foreign rules (fallback.construct foreign rules)
  | .create node, foreign, rules => do return some (← node.construct foreign rules)

def constructCase (key : String) : List (String × Recipe) → ForeignNode → ExtractionRules →
    Construction (Option NodeId) → Construction (Option NodeId)
  | [], _, _, otherwise => otherwise
  | (label, recipe) :: rest, foreign, rules, otherwise =>
      if label = key then recipe.construct foreign rules
      else constructCase key rest foreign rules otherwise
end

end Recipe

inductive FinishRecipe where
  | fail (message : String)
  /-- Sets an attribute to the foreign type and the number of children. -/
  | count (feature : String)
  | set (feature : String) (value : Value)

namespace FinishRecipe

def finish (recipe : FinishRecipe) (node : NodeId) (foreign : ForeignNode) : Finishing Unit :=
  match recipe with
  | .fail message => .fail (.factory (messageFor message foreign))
  | .count feature => do
      let count := ((← Finishing.look).children node).length
      let text := foreign.typeName ++ ":" ++ count.repr
      Finishing.edit (.setAttribute node feature (some (.str text)))
  | .set feature value => Finishing.edit (.setAttribute node feature (some value))

def finishAll : List FinishRecipe → NodeId → ForeignNode → Finishing Unit
  | [], _, _ => return ()
  | recipe :: rest, node, foreign => do
      recipe.finish node foreign
      finishAll rest node foreign

end FinishRecipe

end TypedTree
