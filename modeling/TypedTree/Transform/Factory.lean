import TypedTree.Issue
import TypedTree.Program
import TypedTree.Text.Quoted
import TypedTree.Transform.Error
import TypedTree.Transform.Rules

namespace TypedTree

/-! # Factories

A factory makes the node for one foreign type. Its constructor is a program that
may read and edit the forest, use the engine's list of issues, and have other foreign
nodes transformed. Its hook runs when the node's children are in place and has only
the forest.
-/

/-- What happens to foreign nodes without a factory and to failing factories. -/
structure TransformConfig where
  /-- Make a generic node for a type without a factory, rather than fail. -/
  allowGeneric : Bool
  /-- Put an error node in the place of a failing factory's node, rather than fail. -/
  containFailures : Bool
deriving DecidableEq, Repr

namespace TransformConfig

def lenient : TransformConfig := ⟨true, true⟩

def strict : TransformConfig := ⟨false, false⟩

instance : Inhabited TransformConfig := ⟨lenient⟩

end TransformConfig

/-- Nodes are made of the concepts of the engine's own schema. -/
inductive TreeRequest where
  | look
  | create (concept : String)
  | createGeneric
  | createError (message : String)
  | edit (edit : Edit)

abbrev TreeRequest.Answer : TreeRequest → Type
  | .look => Forest
  | .create _ => Except EditError NodeId
  | .createGeneric => NodeId
  | .createError _ => NodeId
  | .edit _ => Except EditError Unit

/-- What a constructor may ask for. It cannot register further factories. -/
inductive BuildRequest where
  | tree (request : TreeRequest)
  | config
  | addIssue (issue : Issue)
  | issues
  | takeIssues
  | transform (value : ForeignValue) (parent : Option NodeId)
  | transformList (value : ForeignValue) (parent : Option NodeId)
  | transformNode (foreign : ForeignNode) (parent : Option NodeId)

abbrev BuildRequest.Answer : BuildRequest → Type
  | .tree request => request.Answer
  | .config => TransformConfig
  | .addIssue _ => Unit
  | .issues => List Issue
  | .takeIssues => List Issue
  | .transform _ _ => Except TransformError (Option NodeId)
  | .transformList _ _ => Except TransformError (List NodeId)
  | .transformNode _ _ => Except TransformError (Option NodeId)

/-- A program that makes a node. -/
abbrev Construction := Program BuildRequest BuildRequest.Answer TransformError

/-- A program that works on the forest alone. -/
abbrev Finishing := Program TreeRequest TreeRequest.Answer TransformError

namespace Finishing

def look : Finishing Forest := .request TreeRequest.look

def edit (edit : Edit) : Finishing Unit := do
  let answer ← Program.request (TreeRequest.edit edit)
  .ofExcept (answer.mapError .edit)

end Finishing

namespace Construction

def look : Construction Forest := .request (BuildRequest.tree .look)

def create (concept : String) : Construction NodeId := do
  let answer ← Program.request (BuildRequest.tree (.create concept))
  .ofExcept (answer.mapError .edit)

def createGeneric : Construction NodeId := .request (BuildRequest.tree .createGeneric)

def createError (message : String) : Construction NodeId :=
  .request (BuildRequest.tree (.createError message))

def edit (edit : Edit) : Construction Unit := do
  let answer ← Program.request (BuildRequest.tree (.edit edit))
  .ofExcept (answer.mapError .edit)

def addIssue (issue : Issue) : Construction Unit := .request (BuildRequest.addIssue issue)

def transform (value : ForeignValue) (parent : Option NodeId) :
    Construction (Option NodeId) := do
  let answer ← Program.request (BuildRequest.transform value parent)
  .ofExcept answer

def transformList (value : ForeignValue) (parent : Option NodeId) :
    Construction (List NodeId) := do
  let answer ← Program.request (BuildRequest.transformList value parent)
  .ofExcept answer

end Construction

structure Factory where
  sourceType : String
  construct : ForeignNode → ExtractionRules → Construction (Option NodeId)
  rules : ExtractionRules
  /-- The constructor takes care of the children itself. -/
  skipChildren : Bool
  finish : Option (NodeId → ForeignNode → Finishing Unit)

namespace Factory

/-- Makes a node of one concept and leaves its features to the engine. -/
def ofConcept (sourceType concept : String) : Factory where
  sourceType := sourceType
  construct _ _ := do return some (← Construction.create concept)
  rules := .empty
  skipChildren := false
  finish := none

def describe (factory : Factory) : String :=
  let keys := ", ".intercalate (factory.rules.sources.keys.map Text.quote)
  let skip := if factory.skipChildren then "true" else "false"
  "Factory \x7b source_type: " ++ Text.quote factory.sourceType ++ ", children: [" ++ keys ++
    "], skip_children: " ++ skip ++ " \x7d"

end Factory

end TypedTree
