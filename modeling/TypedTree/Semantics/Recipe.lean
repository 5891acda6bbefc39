import TypedTree.Forest.Describe
import TypedTree.Forest.Traversal
import TypedTree.Semantics.Rules

namespace TypedTree

inductive Stage where
  | root
  | parent
  | ancestors
  | children
  | walk
  | childrenOf (feature : String)
  | isA (concept : String)
  | named (name : String)
  /-- The targets of references that are resolved. -/
  | referred (feature : String)
  /-- The targets of references, which are resolved now. -/
  | resolve (feature : String)
  | type
  /-- Only what comes before the node that the rule is asked about. -/
  | before
  | first

namespace Stage

/-- Asks about each node and collects the answers that are nodes. -/
def gather (question : NodeId → RuleProgram (Option NodeId)) :
    List NodeId → RuleProgram (List NodeId)
  | [] => return []
  | node :: rest => do
      let answer ← question node
      let answers ← gather question rest
      return answer.toList ++ answers

def run (stage : Stage) (self : NodeId) (nodes : List NodeId) : RuleProgram (List NodeId) := do
  let forest ← RuleProgram.look
  match stage with
  | .root => return nodes.map forest.root
  | .parent => return nodes.filterMap forest.parent?
  | .ancestors => return nodes.flatMap forest.ancestors
  | .children => return nodes.flatMap forest.children
  | .walk => return nodes.flatMap forest.walk
  | .childrenOf feature => return nodes.flatMap fun node => forest.childrenOf node feature
  | .isA concept => return nodes.filter fun node => forest.isA node concept
  | .named name =>
      return nodes.filter fun node => (forest.cell? node).bind (·.name?) == some name
  | .referred feature =>
      return nodes.filterMap fun node =>
        ((forest.cell? node).bind (·.reference? feature)).bind forest.referred?
  | .resolve feature => gather (RuleProgram.resolveReference · feature) nodes
  | .type => gather (fun node => RuleProgram.typeFor (some node)) nodes
  | .before => return nodes.takeWhile (· != self)
  | .first => return nodes.take 1

def runAll (self : NodeId) : List Stage → List NodeId → RuleProgram (List NodeId)
  | [], nodes => return nodes
  | stage :: rest, nodes => do
      let selected ← stage.run self nodes
      runAll self rest selected

end Stage

abbrev Selection := List Stage

def Selection.run (selection : Selection) (self : NodeId) : RuleProgram (List NodeId) :=
  Stage.runAll self selection [self]

/-- A message about a node, which is described where the message says so. -/
def messageAt (message : String) (forest : Forest) (node : NodeId) : String :=
  message.replace "\x7bnode\x7d" (forest.describe node)

/-- An issue that a rule reports; it may take the range of the rule's node. -/
structure IssueRecipe where
  issue : Issue
  atNode : Bool

def IssueRecipe.report (recipe : IssueRecipe) (node : NodeId) : RuleProgram Unit := do
  let forest ← RuleProgram.look
  let range := if recipe.atNode then (forest.cell? node).bind (·.range) else recipe.issue.range
  let message := messageAt recipe.issue.message forest node
  RuleProgram.report { recipe.issue with message := message, range := range }

def failAt {α : Type} (message : String) (node : NodeId) : RuleProgram α := do
  let forest ← RuleProgram.look
  .fail (.rule (messageAt message forest node))

/-- Nodes to bind, under one name or each under its own. -/
structure Definition where
  selection : Selection
  name : Option String

def Definition.defineAll (self : NodeId) : List Definition → Scope → RuleProgram Scope
  | [], scope => return scope
  | definition :: rest, scope => do
      let nodes ← definition.selection.run self
      let forest ← RuleProgram.look
      let grown := match definition.name with
        | some name => nodes.foldl (fun grown node => grown.defineAs name node) scope
        | none => scope.defineAll forest nodes
      Definition.defineAll self rest grown

inductive ScopeRecipe where
  | fail (message : String)
  | report (issue : IssueRecipe) (next : ScopeRecipe)
  /-- The scope of a feature of the first selected node. -/
  | scopeOf (selection : Selection) (feature : String)
  | define (ignoreCase : Bool) (definitions : List Definition)
  /-- A scope inside another one, which is made after it. -/
  | inside (ignoreCase : Bool) (definitions : List Definition) (outer : ScopeRecipe)

def ScopeRecipe.rule : ScopeRecipe → ScopeRule
  | .fail message, node => failAt message node
  | .report issue next, node => do
      issue.report node
      next.rule node
  | .scopeOf selection feature, node => do
      match ← selection.run node with
      | first :: _ => RuleProgram.scopeFor first feature
      | [] => return .new false
  | .define ignoreCase definitions, node => Definition.defineAll node definitions (.new ignoreCase)
  | .inside ignoreCase definitions outer, node => do
      let scope ← Definition.defineAll node definitions (.new ignoreCase)
      return scope.withParent (← outer.rule node)

inductive TypeRecipe where
  | fail (message : String)
  | report (issue : IssueRecipe) (next : TypeRecipe)
  | select (selection : Selection)

def TypeRecipe.rule : TypeRecipe → TypeRule
  | .fail message, node => failAt message node
  | .report issue next, node => do
      issue.report node
      next.rule node
  | .select selection, node => do return (← selection.run node).head?

end TypedTree
