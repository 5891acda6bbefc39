import TypedTree.Identity.Structural

namespace TypedTree

abbrev IdRule := Forest → NodeId → Except IdError String

namespace Semantic

def addRule (rules : DispatchTable IdRule) (concept : String) (rule : IdRule) :
    Except IdError (DispatchTable IdRule) :=
  match rules.register concept rule with
  | .ok grown => .ok grown
  | .error (.unknownConcept unknown) => .error (.unknownConcept unknown)
  | .error error => .error (.dispatch error)

def ruleFor (rules : DispatchTable IdRule) (forest : Forest) (node : NodeId) :
    Except IdError (Option IdRule) :=
  match forest.concept? node with
  | none => .ok none
  | some concept => (rules.find concept).mapError .dispatch

def hasIdentity (rules : DispatchTable IdRule) (forest : Forest) (node : NodeId) :
    Except IdError Bool :=
  (ruleFor rules forest node).map Option.isSome

/-- The identifier that a rule gives, if one applies. -/
def id? (rules : DispatchTable IdRule) (forest : Forest) (node : NodeId) :
    Except IdError (Option String) := do
  match ← ruleFor rules forest node with
  | some rule => return some (← rule forest node)
  | none => return none

def id (rules : DispatchTable IdRule) (forest : Forest) (node : NodeId) :
    Except IdError String := do
  match ← id? rules forest node with
  | some found => return found
  | none => throw (.noSemanticIdentity (forest.conceptName node))

end Semantic

end TypedTree
