import TypedTree.Dispatch
import TypedTree.Forest.Edit
import TypedTree.Issue
import TypedTree.Program
import TypedTree.Scope

namespace TypedTree

/-! # Semantic rules

Scope rules say in which scope the references of a node are looked up, for one
reference feature or for all; type rules say what the type of a node is. The rules are
programs that may ask the same questions about other nodes.
-/

inductive SemanticError where
  | dispatch (error : DispatchError)
  | unknownFeature (concept feature : String)
  | notAReference (concept feature : String)
  /-- A failure that a rule reports itself. -/
  | rule (message : String)
  | edit (error : EditError)
deriving DecidableEq, Repr, Inhabited

def SemanticError.message : SemanticError → String
  | .dispatch error => error.message
  | .unknownFeature concept feature => "Concept " ++ concept ++ " has no feature " ++ feature
  | .notAReference concept feature =>
      "Feature " ++ concept ++ "." ++ feature ++ " is not a reference"
  | .rule message => message
  | .edit error => error.message

inductive RuleRequest where
  | look
  | scopeFor (node : NodeId) (feature : String)
  | resolveReference (node : NodeId) (feature : String)
  | typeFor (node : Option NodeId)
  | report (issue : Issue)
  | issues
  | takeIssues

abbrev RuleRequest.Answer : RuleRequest → Type
  | .look => Forest
  | .scopeFor _ _ => Except SemanticError Scope
  | .resolveReference _ _ => Except SemanticError (Option NodeId)
  | .typeFor _ => Except SemanticError (Option NodeId)
  | .report _ => Unit
  | .issues => List Issue
  | .takeIssues => List Issue

abbrev RuleProgram := Program RuleRequest RuleRequest.Answer SemanticError

namespace RuleProgram

def look : RuleProgram Forest := .request RuleRequest.look

def scopeFor (node : NodeId) (feature : String) : RuleProgram Scope := do
  let answer ← Program.request (RuleRequest.scopeFor node feature)
  .ofExcept answer

def resolveReference (node : NodeId) (feature : String) : RuleProgram (Option NodeId) := do
  let answer ← Program.request (RuleRequest.resolveReference node feature)
  .ofExcept answer

def typeFor (node : Option NodeId) : RuleProgram (Option NodeId) := do
  let answer ← Program.request (RuleRequest.typeFor node)
  .ofExcept answer

def report (issue : Issue) : RuleProgram Unit := .request (RuleRequest.report issue)

end RuleProgram

abbrev ScopeRule := NodeId → RuleProgram Scope

abbrev TypeRule := NodeId → RuleProgram (Option NodeId)

/-- The rules of a language. Rules for one reference feature are kept by the feature and
the concept that declares it. -/
structure Semantics where
  schema : Schema
  policy : DispatchPolicy
  featureRules : Registry (String × String) (DispatchTable ScopeRule)
  nodeRules : DispatchTable ScopeRule
  typeRules : DispatchTable TypeRule

namespace Semantics

def new (schema : Schema) (policy : DispatchPolicy) : Semantics where
  schema := schema
  policy := policy
  featureRules := ∅
  nodeRules := .new schema policy
  typeRules := .new schema policy

def referenceFeature (schema : Schema) (concept feature : String) :
    Except SemanticError Feature :=
  match schema.concept? concept with
  | none => .error (.dispatch (.unknownConcept concept))
  | some known =>
      match known.feature? feature with
      | none => .error (.unknownFeature concept feature)
      | some declared =>
          if declared.type.isReference then .ok declared
          else .error (.notAReference concept feature)

/-- Adds the scope rule for one reference feature of nodes that are a `concept`. -/
def addFeatureRule (semantics : Semantics) (concept feature : String) (rule : ScopeRule) :
    Except SemanticError Semantics := do
  let declared ← referenceFeature semantics.schema concept feature
  let key := (declared.owner, declared.name)
  let table := (semantics.featureRules.get? key).getD (.new semantics.schema semantics.policy)
  match table.register concept rule with
  | .ok grown => return { semantics with featureRules := semantics.featureRules.insert key grown }
  | .error (.duplicateRule _) => throw (.dispatch (.duplicateRule (concept ++ "." ++ feature)))
  | .error error => throw (.dispatch error)

/-- Adds the scope rule for all references of nodes that are a `concept`. -/
def addNodeRule (semantics : Semantics) (concept : String) (rule : ScopeRule) :
    Except SemanticError Semantics :=
  match semantics.nodeRules.register concept rule with
  | .ok grown => .ok { semantics with nodeRules := grown }
  | .error error => .error (.dispatch error)

def addTypeRule (semantics : Semantics) (concept : String) (rule : TypeRule) :
    Except SemanticError Semantics :=
  match semantics.typeRules.register concept rule with
  | .ok grown => .ok { semantics with typeRules := grown }
  | .error error => .error (.dispatch error)

/-- The scope rule for a reference of a node: one for the feature before one for the
node. -/
def scopeRule? (semantics : Semantics) (concept : Concept) (feature : Feature) :
    Except DispatchError (Option ScopeRule) := do
  let forFeature ←
    match semantics.featureRules.get? (feature.owner, feature.name) with
    | some table => table.find concept
    | none => pure none
  match forFeature with
  | some rule => return some rule
  | none => semantics.nodeRules.find concept

end Semantics

end TypedTree
