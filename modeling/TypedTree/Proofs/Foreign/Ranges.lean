import TypedTree.Proofs.Foreign.Descent
import TypedTree.Proofs.LineIndex

namespace TypedTree

open Relation

namespace ParseTree

variable {start place : Nat} {tree : ParseTree} {trees : List ParseTree}

theorem exists_text_of_mem_placedFrom (placed : (place, tree) ∈ placedFrom start trees) :
    ∃ before after, textOfAll trees = before ++ tree.text ++ after ∧
      place = start + before.utf8ByteSize := by
  induction trees generalizing start with
  | nil => cases placed
  | cons first rest ih =>
      rcases List.mem_cons.mp placed with same | later
      · cases same
        exact ⟨"", textOfAll rest, by rw [textOfAll, String.empty_append], rfl⟩
      · obtain ⟨before, after, text, isPlace⟩ := ih later
        refine ⟨first.text ++ before, after, ?_, ?_⟩
        · rw [textOfAll, text]
          simp only [String.append_assoc]
        · rw [isPlace, length, String.utf8ByteSize_append, Nat.add_assoc]

end ParseTree

namespace ParseNode

variable {node child root : ParseNode}

theorem exists_text_of_mem_childNodes (member : child ∈ node.childNodes) :
    child.index = node.index ∧ ∃ before after, node.text = before ++ child.text ++ after ∧
      child.start = node.start + before.utf8ByteSize := by
  obtain ⟨⟨start, tree⟩, placed, isChild⟩ := List.mem_filterMap.mp member
  cases tree with
  | token kind text => cases isChild
  | node kind children =>
      cases isChild
      exact ⟨rfl, ParseTree.exists_text_of_mem_placedFrom placed⟩

/-- The first node is the second, or stands below it. -/
abbrev Within : ParseNode → ParseNode → Prop :=
  ReflTransGen fun child node => child ∈ node.childNodes

theorem Within.exists_text (within : node.Within root) :
    node.index = root.index ∧ ∃ before after, root.text = before ++ node.text ++ after ∧
      node.start = root.start + before.utf8ByteSize := by
  induction within with
  | refl => exact ⟨rfl, "", "", by simp, rfl⟩
  | tail _ member ih =>
      obtain ⟨same, inside, later, parts, start⟩ := ih
      obtain ⟨sameAbove, outside, last, whole, startAbove⟩ := exists_text_of_mem_childNodes member
      refine ⟨same.trans sameAbove, outside ++ inside, later ++ last, ?_, ?_⟩
      · rw [whole, parts]
        simp only [String.append_assoc]
      · rw [start, startAbove, String.utf8ByteSize_append, Nat.add_assoc]

theorem Within.encloses (within : node.Within root) : root.range.encloses node.range = true := by
  obtain ⟨same, before, after, parts, start⟩ := within.exists_text
  rw [range, range, same]
  refine LineIndex.span_encloses_span (start ▸ Nat.le_add_right _ _) ?_
  rw [stop, stop, start, parts, String.utf8ByteSize_append, String.utf8ByteSize_append]
  omega

end ParseNode

theorem ForeignNode.exists_within {inner : ForeignNode} {tree : ParseNode}
    (reached : ReflTransGen Inside inner (.parsed tree)) :
    ∃ node, inner = .parsed node ∧ node.Within tree := by
  induction reached using ReflTransGen.head_induction_on with
  | refl => exact ⟨tree, rfl, .refl⟩
  | head inside _ ih =>
      obtain ⟨node, rfl, within⟩ := ih
      cases inside with
      | child member => exact ⟨_, rfl, .head member within⟩

namespace ForeignValue

/-- All that the value presents are nodes of parse trees. -/
def Parsed (value : ForeignValue) : Prop :=
  ∀ foreign, value.Presents foreign → ∃ node, foreign = .parsed node

/-- As `Parsed`, and with ranges inside the span. -/
def ParsedIn (span : Span) (value : ForeignValue) : Prop :=
  ∀ foreign, value.Presents foreign →
    ∃ node, foreign = .parsed node ∧ span.encloses node.range = true

theorem parsedIn_navigate (tree : ParseNode) (path : String) :
    ((ForeignNode.parsed tree).navigate path).ParsedIn tree.range := by
  intro foreign presented
  obtain ⟨asked, isAsked, reached, _⟩ := presented.of_steps
  cases isAsked
  obtain ⟨node, rfl, within⟩ := ForeignNode.exists_within reached
  exact ⟨node, rfl, within.encloses⟩

end ForeignValue

end TypedTree
