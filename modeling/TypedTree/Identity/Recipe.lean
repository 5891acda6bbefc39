import TypedTree.Forest.Describe
import TypedTree.Identity.Semantic

namespace TypedTree

inductive IdPart where
  | concept
  | literal (text : String)
  /-- The text of an attribute, which has to be set. -/
  | attribute (feature : String)

def IdPart.text (part : IdPart) (forest : Forest) (node : NodeId) : Except IdError String :=
  match part with
  | .concept => .ok (forest.conceptName node)
  | .literal text => .ok text
  | .attribute feature =>
      match (forest.cell? node).bind (·.attribute? feature) with
      | some value => .ok value.text
      | none => .error (.rule ("missing " ++ feature))

inductive IdRecipe where
  | fail (message : String)
  /-- The texts of the parts, one after the other. -/
  | join (parts : List IdPart)

def IdRecipe.rule : IdRecipe → IdRule
  | .fail message, forest, node =>
      .error (.rule (message.replace "\x7bnode\x7d" (forest.describe node)))
  | .join parts, forest, node => do
      let texts ← parts.mapM fun part => part.text forest node
      return "".intercalate texts

/-- The source's own text after a fixed start. -/
def SourceIds.after (start : String) : SourceIds := fun source => .ok (start ++ source.text)

def SourceIds.failing (message : String) : SourceIds := fun _ => .error (.rule message)

end TypedTree
