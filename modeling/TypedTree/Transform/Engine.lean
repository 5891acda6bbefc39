import TypedTree.Forest.Liveness
import TypedTree.Transform.Lookup

namespace TypedTree

/-! # The transformation engine

The engine turns a foreign tree into nodes. For each foreign node it runs the
constructor of its factory, records where the node came from, fills the planned
features, which transforms the foreign nodes below, and runs the factory's hook.

A run ends with a result or an error, and with the forest as it then is; it has no
outcome only if `fuel`, the bound on nested foreign nodes, is used up. Functions that
transform further nodes take the way to do so as an argument, `recur`, and those that
put a node under a parent the way to do that, `adopt`.
-/

structure Engine where
  schema : Schema
  config : TransformConfig
  /-- Recorded on the roots that the engine makes. -/
  source : Option Source
  factories : Registry String Factory
  lookups : Lookups

structure Run where
  forest : Forest
  issues : List Issue
  memo : Memo

abbrev RunM := StateT Run Option

abbrev EngineM := ExceptT TransformError RunM

/-- How one foreign node is transformed under a parent. -/
abbrev Recur := ForeignNode → Option NodeId → EngineM (Option NodeId)

/-- How the node for a foreign node is put under a parent. -/
abbrev Adopt := NodeId → ForeignNode → Option NodeId → RunM Unit

namespace Engine

def outOfFuel {α : Type} : EngineM α := ExceptT.mk fun _ => none

def report (issue : Issue) : RunM Unit :=
  modify fun run => { run with issues := run.issues ++ [issue] }

def changeForest (change : Forest → Forest) : RunM Unit :=
  modify fun run => { run with forest := change run.forest }

def addNode (make : Forest → NodeId × Forest) : RunM NodeId :=
  modifyGet fun run =>
    let (node, forest) := make run.forest
    (node, { run with forest := forest })

def applyEdit (edit : Edit) : RunM (Except EditError Unit) :=
  modifyGet fun run =>
    match run.forest.apply edit with
    | .ok forest => (.ok (), { run with forest := forest })
    | .error error => (.error error, run)

def createNode (schema : Schema) (concept : String) : RunM (Except EditError NodeId) :=
  modifyGet fun run =>
    match run.forest.create schema concept with
    | .ok (node, forest) => (.ok node, { run with forest := forest })
    | .error error => (.error error, run)

def edit (edit : Edit) : EngineM Unit :=
  ExceptT.mk do
    let answer ← applyEdit edit
    return answer.mapError .edit

def answerTree (schema : Schema) : (request : TreeRequest) → RunM request.Answer
  | .look => do return (← get).forest
  | .create concept => createNode schema concept
  | .createGeneric => addNode Forest.createGeneric
  | .createError message => addNode (Forest.createError · message)
  | .edit edit => applyEdit edit

/-- Transforms a value that has to be a single node or absent. -/
def transformValue (recur : Recur) (value : ForeignValue) (parent : Option NodeId) :
    EngineM (Option NodeId) :=
  match value with
  | .null => return none
  | .node foreign => recur foreign parent
  | .list _ => throw (.unexpectedCollection .entry)
  | .scalar value => throw (.unexpectedValue .entry value.kindLabel)

def transformEach (recur : Recur) (parent : Option NodeId) :
    List ForeignValue → EngineM (List NodeId)
  | [] => return []
  | value :: rest => do
      let node ← transformValue recur value parent
      let nodes ← transformEach recur parent rest
      return node.toList ++ nodes

/-- Transforms the elements of a list, without the absent ones; a value that is no
list counts as its only element. -/
def transformAll (recur : Recur) (value : ForeignValue) (parent : Option NodeId) :
    EngineM (List NodeId) :=
  match value with
  | .list items => transformEach recur parent items
  | single => do return (← transformValue recur single parent).toList

def answerBuild (engine : Engine) (recur : Recur) :
    (request : BuildRequest) → RunM request.Answer
  | .tree request => answerTree engine.schema request
  | .config => return engine.config
  | .addIssue issue => report issue
  | .issues => do return (← get).issues
  | .takeIssues => modifyGet fun run => (run.issues, { run with issues := [] })
  | .transform value parent => (transformValue recur value parent).run
  | .transformList value parent => (transformAll recur value parent).run
  | .transformNode foreign parent => (recur foreign parent).run

def factoryFor (engine : Engine) (foreign : ForeignNode) : RunM (Option Factory) :=
  modifyGet fun run =>
    let (factory, memo) := engine.lookups.factory engine.factories foreign run.memo
    (factory, { run with memo := memo })

def planFor (engine : Engine) (factory : Factory) (concept : Concept) : RunM Plan :=
  modifyGet fun run =>
    let (plan, memo) := engine.lookups.plan factory concept run.memo
    (plan, { run with memo := memo })

/-- Records where a node came from. Origin, range and source stay if they are set; the
parent is always the given one, and only nodes without one get the source. -/
def attachMetadata (source : Option Source) (node : NodeId) (foreign : ForeignNode)
    (parent : Option NodeId) (forest : Forest) : Forest :=
  forest.modify node fun cell =>
    { cell with
      origin := cell.origin <|> some (.foreign foreign)
      range := cell.range <|> foreign.range
      parent := parent <|> cell.parent
      source := if parent.isSome then cell.source else cell.source <|> source }

def adopt (engine : Engine) : Adopt := fun node foreign parent =>
  changeForest (attachMetadata engine.source node foreign parent)

/-- The generic node for a type without a factory. -/
def substituteGeneric (engine : Engine) (adopt : Adopt) (foreign : ForeignNode)
    (parent : Option NodeId) : EngineM (Option NodeId) := do
  if engine.config.allowGeneric then
    let node ← addNode Forest.createGeneric
    report ⟨.translation, .info, "Source node not mapped: " ++ foreign.typeName, foreign.range⟩
    adopt node foreign parent
    return some node
  else
    throw (.unmappedType foreign.typeName)

/-- The error node for a failing constructor. What the constructor had made since
`mark` is given up. -/
def substituteError (adopt : Adopt) (mark : NodeId) (message : String)
    (foreign : ForeignNode) (parent : Option NodeId) : EngineM (Option NodeId) := do
  changeForest (·.discardSince mark)
  let node ← addNode (Forest.createError · message)
  report ⟨.translation, .error, "Failed to transform " ++ foreign.typeName ++ ": " ++ message,
    foreign.range⟩
  adopt node foreign parent
  return some node

/-- Transforms the elements for a feature that holds a list. -/
def transformElements (recur : Recur) (node : NodeId) (concept feature : String) :
    List ForeignValue → EngineM (List NodeId)
  | [] => return []
  | .null :: rest => transformElements recur node concept feature rest
  | .node foreign :: rest => do
      let child ← recur foreign (some node)
      let children ← transformElements recur node concept feature rest
      return child.toList ++ children
  | .list _ :: _ => throw (.unexpectedCollection (.insideFeature concept feature))
  | .scalar value :: _ => throw (.unexpectedValue (.ofFeature concept feature) value.kindLabel)

/-- Fills one feature of a node of `concept` from a foreign value. -/
def assign (recur : Recur) (node : NodeId) (concept : String) (feature : Feature)
    (value : ForeignValue) : EngineM Unit :=
  let place := Place.ofFeature concept feature.name
  match feature.type, value with
  | .attribute, .list _ | .reference _, .list _ | .child _, .list _ =>
      throw (.unexpectedCollection place)
  | .attribute, value => edit (.setAttribute node feature.name value.scalar?)
  | .reference _, value =>
      edit (.setReference node feature.name
        (value.scalar?.map fun scalar => ⟨scalar.text, none⟩))
  | .child _, .node foreign => do
      let child ← recur foreign (some node)
      edit (.setChild node feature.name child)
  | .child _, .null => edit (.setChild node feature.name none)
  | .children _, .list items => do
      let children ← transformElements recur node concept feature.name items
      edit (.setChildren node feature.name children)
  | .children _, .null => edit (.setChildren node feature.name [])
  | .child _, .scalar value | .children _, .scalar value =>
      throw (.unexpectedValue place value.kindLabel)
  | .children _, .node _ => throw (.edit (.rejected concept feature.name .singleNode))

def assignAll (recur : Recur) (node : NodeId) (concept : String) (foreign : ForeignNode) :
    Plan → EngineM Unit
  | [] => return ()
  | (feature, source) :: rest => do
      assign recur node concept feature (source.extract foreign)
      assignAll recur node concept foreign rest

/-- Fills the planned features of a new node, unless it is a placeholder. -/
def wire (engine : Engine) (recur : Recur) (factory : Factory) (foreign : ForeignNode)
    (node : NodeId) : EngineM Unit := do
  match (← get).forest.concept? node with
  | none => return ()
  | some concept =>
      if !factory.skipChildren && !concept.isPlaceholder then
        let plan ← engine.planFor factory concept
        assignAll recur node concept.name foreign plan

def runHook (engine : Engine) (factory : Factory) (foreign : ForeignNode) (node : NodeId) :
    EngineM Unit :=
  match factory.finish with
  | none => return ()
  | some hook => ExceptT.mk ((hook node foreign).run (answerTree engine.schema))

def construct (engine : Engine) (recur : Recur) (factory : Factory) (foreign : ForeignNode) :
    RunM (Except TransformError (Option NodeId)) :=
  (factory.construct foreign factory.rules).run (engine.answerBuild recur)

def transformWith (engine : Engine) (adopt : Adopt) (recur : Recur) : Recur :=
    fun foreign parent => do
  match ← engine.factoryFor foreign with
  | none => engine.substituteGeneric adopt foreign parent
  | some factory =>
      let mark := (← get).forest.nextId
      match ← ExceptT.lift (engine.construct recur factory foreign) with
      | .ok none => return none
      | .ok (some node) =>
          adopt node foreign parent
          engine.wire recur factory foreign node
          engine.runHook factory foreign node
          return some node
      | .error (.factory message) =>
          if engine.config.containFailures then
            substituteError adopt mark message foreign parent
          else throw (.factory message)
      | .error error => throw error

/-- Transforms a foreign node; foreign nodes may be nested to a depth of `fuel`. -/
def transformNode (engine : Engine) : (fuel : Nat) → Recur
  | 0 => fun _ _ => outOfFuel
  | fuel + 1 => fun foreign parent =>
      engine.transformWith engine.adopt (engine.transformNode fuel) foreign parent

def transform (engine : Engine) (fuel : Nat) (value : ForeignValue) (parent : Option NodeId) :
    EngineM (Option NodeId) :=
  transformValue (engine.transformNode fuel) value parent

def transformList (engine : Engine) (fuel : Nat) (value : ForeignValue)
    (parent : Option NodeId) : EngineM (List NodeId) :=
  transformAll (engine.transformNode fuel) value parent

end Engine

end TypedTree
