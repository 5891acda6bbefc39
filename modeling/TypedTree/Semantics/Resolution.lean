import TypedTree.Forest.Traversal
import TypedTree.Semantics.Rules

namespace TypedTree

/-! # Resolution

Resolving a reference computes its scope by rule, looks its name up there among the
nodes of the type that the feature asks for, and records what was found. A name that is
not found leaves the reference as it was.

Rules may depend on each other; `fuel` bounds how deep they do. A session has no
outcome only if it is used up.
-/

/-- What rules can change: the targets of references and the list of issues. -/
structure Session where
  forest : Forest
  issues : List Issue

abbrev SessionM := StateT Session Option

abbrev ResolveM := ExceptT SemanticError SessionM

/-- The answers that rules get about other nodes. -/
structure Services where
  scopeFor : NodeId → String → ResolveM Scope
  typeFor : NodeId → ResolveM (Option NodeId)

namespace Semantics

def outOfFuel {α : Type} : ResolveM α := ExceptT.mk fun _ => none

def expectConcept (node : NodeId) : ResolveM Concept := do
  match (← get).forest.concept? node with
  | some concept => return concept
  | none => throw (.edit (.noSuchNode node))

def expectReference (semantics : Semantics) (concept : Concept) (feature : String) :
    ResolveM Feature :=
  ExceptT.mk (pure (referenceFeature semantics.schema concept.name feature))

def edit (edit : Edit) : ResolveM Unit := do
  match (← get).forest.apply edit with
  | .ok forest => modify fun session => { session with forest := forest }
  | .error error => throw (.edit error)

def resolveReferenceWith (semantics : Semantics) (services : Services) (node : NodeId)
    (feature : String) : ResolveM (Option NodeId) := do
  let concept ← expectConcept node
  let declared ← semantics.expectReference concept feature
  match ((← get).forest.cell? node).bind (·.reference? feature) with
  | none => return none
  | some link =>
      let scope ← services.scopeFor node feature
      match scope.resolve (← get).forest link.name declared.type.target? with
      | none => return none
      | some target =>
          edit (.resolveReference node feature target)
          return some target

def typeForWith (services : Services) : Option NodeId → ResolveM (Option NodeId)
  | none => return none
  | some node => services.typeFor node

def answer (semantics : Semantics) (services : Services) :
    (request : RuleRequest) → SessionM request.Answer
  | .look => do return (← get).forest
  | .scopeFor node feature => (services.scopeFor node feature).run
  | .resolveReference node feature =>
      (semantics.resolveReferenceWith services node feature).run
  | .typeFor node => (typeForWith services node).run
  | .report issue => modify fun session => { session with issues := session.issues ++ [issue] }
  | .issues => do return (← get).issues
  | .takeIssues => modifyGet fun session => (session.issues, { session with issues := [] })

def runRule {α : Type} (semantics : Semantics) (services : Services)
    (program : RuleProgram α) : ResolveM α :=
  ExceptT.mk (program.run (semantics.answer services))

/-- The scope of a reference; without a rule it is empty. -/
def scopeWith (semantics : Semantics) (services : Services) (node : NodeId)
    (feature : String) : ResolveM Scope := do
  let concept ← expectConcept node
  let declared ← semantics.expectReference concept feature
  match semantics.scopeRule? concept declared with
  | .error error => throw (.dispatch error)
  | .ok none => return .new false
  | .ok (some rule) => semantics.runRule services (rule node)

/-- The type of a node; without a rule it has none. -/
def typeWith (semantics : Semantics) (services : Services) (node : NodeId) :
    ResolveM (Option NodeId) := do
  let concept ← expectConcept node
  match semantics.typeRules.find concept with
  | .error error => throw (.dispatch error)
  | .ok none => return none
  | .ok (some rule) => semantics.runRule services (rule node)

/-- The answers where rules may be nested to a depth of `fuel`. -/
def services (semantics : Semantics) : (fuel : Nat) → Services
  | 0 => ⟨fun _ _ => outOfFuel, fun _ => outOfFuel⟩
  | fuel + 1 =>
      { scopeFor := fun node feature => semantics.scopeWith (semantics.services fuel) node feature
        typeFor := fun node => semantics.typeWith (semantics.services fuel) node }

def scopeFor (semantics : Semantics) (fuel : Nat) (node : NodeId) (feature : String) :
    ResolveM Scope :=
  (semantics.services fuel).scopeFor node feature

def typeFor (semantics : Semantics) (fuel : Nat) (node : Option NodeId) :
    ResolveM (Option NodeId) :=
  typeForWith (semantics.services fuel) node

def resolveReference (semantics : Semantics) (fuel : Nat) (node : NodeId)
    (feature : String) : ResolveM (Option NodeId) :=
  semantics.resolveReferenceWith (semantics.services fuel) node feature

/-- The references of a tree, node by node from the root and in the order of the
features. -/
def referencesOf (forest : Forest) (root : NodeId) : List (NodeId × String) :=
  (forest.walk root).flatMap fun node =>
    (forest.references node).map fun (feature, _) => (node, feature)

def resolveEach (semantics : Semantics) (fuel : Nat) : List (NodeId × String) → ResolveM Unit
  | [] => return ()
  | (node, feature) :: rest => do
      let _ ← semantics.resolveReference fuel node feature
      semantics.resolveEach fuel rest

def resolveTree (semantics : Semantics) (fuel : Nat) (root : NodeId) : ResolveM Unit := do
  semantics.resolveEach fuel (referencesOf (← get).forest root)

end Semantics

end TypedTree
