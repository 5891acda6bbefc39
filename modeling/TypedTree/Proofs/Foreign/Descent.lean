import Mathlib.Logic.Relation
import TypedTree.Proofs.Foreign.Nesting

namespace TypedTree

open Relation

mutual
/-- The number of levels of a parse tree; tokens do not count. -/
def ParseTree.height : ParseTree → Nat
  | .node _ children => ParseTree.heightOfAll children + 1
  | .token _ _ => 0

def ParseTree.heightOfAll : List ParseTree → Nat
  | [] => 0
  | tree :: rest => max tree.height (ParseTree.heightOfAll rest)
end

def ParseNode.height (node : ParseNode) : Nat := ParseTree.heightOfAll node.children + 1

mutual
/-- The number of levels of nodes, the node itself included. -/
def ForeignNode.height : ForeignNode → Nat
  | .record _ _ fields _ _ => ForeignValue.heightOfFields fields + 1
  | .parsed node => node.height

def ForeignValue.height : ForeignValue → Nat
  | .node foreign => foreign.height
  | .list items => ForeignValue.heightOfItems items
  | .null => 0
  | .scalar _ => 0

def ForeignValue.heightOfItems : List ForeignValue → Nat
  | [] => 0
  | item :: rest => max item.height (ForeignValue.heightOfItems rest)

def ForeignValue.heightOfFields : List (String × ForeignValue) → Nat
  | [] => 0
  | (_, value) :: rest => max value.height (ForeignValue.heightOfFields rest)
end

namespace ForeignValue

variable {value : ForeignValue} {inner : ForeignNode}

/-- The node is the value itself or an element of it, at any nesting of lists. -/
inductive Presents (node : ForeignNode) : ForeignValue → Prop where
  | here : Presents node (.node node)
  | item {items value} (member : value ∈ items) (presented : Presents node value) :
      Presents node (.list items)

theorem Presents.tail {items : List ForeignValue} (presented : Presents inner (.list items)) :
    Presents inner (.list (value :: items)) := by
  cases presented with
  | item member presented => exact .item (List.mem_cons_of_mem value member) presented

end ForeignValue

namespace ParseNode

variable {node child : ParseNode}

end ParseNode

namespace ForeignNode

variable {inner foreign : ForeignNode} {accessor path : String}

/-- The first node stands in a field of the second, or is its child in a parse tree. -/
inductive Inside : ForeignNode → ForeignNode → Prop where
  | field {inner : ForeignNode} {type : String} {supertypes : List String}
      {fields : List (String × ForeignValue)} {range : Option Span} {text : Option String}
      {name : String} {value : ForeignValue} (member : (name, value) ∈ fields)
      (presented : ForeignValue.Presents inner value) :
      Inside inner (.record type supertypes fields range text)
  | child {child node : ParseNode} (member : child ∈ node.childNodes) :
      Inside (.parsed child) (.parsed node)

/-- The first node is reached from the second by one or more steps down. -/
abbrev Below : ForeignNode → ForeignNode → Prop := TransGen Inside

theorem inside_of_get (presented : ForeignValue.Presents inner (foreign.get accessor)) :
    inner.Inside foreign := by
  cases foreign with
  | record type supertypes fields range text =>
      simp only [get] at presented
      cases found : fields.reverse.find? fun field => field.1 = accessor with
      | none =>
          rw [found] at presented
          cases presented
      | some field =>
          rw [found] at presented
          exact .field (List.mem_reverse.mp (List.mem_of_find?_eq_some found)) presented
  | parsed node =>
      have listed {children : List ParseNode} (within : children ⊆ node.childNodes)
          (presented : ForeignValue.Presents inner
            (.list (children.map fun child => .node (.parsed child)))) :
          inner.Inside (.parsed node) := by
        cases presented with
        | item member presented =>
            obtain ⟨child, isChild, rfl⟩ := List.mem_map.mp member
            cases presented
            exact .child (within isChild)
      have ofKind (kind : String) : node.childrenOfKind kind ⊆ node.childNodes :=
        List.filter_sublist.subset
      simp only [get, ParseNode.get] at presented
      split at presented
      · cases presented
      · split at presented
        · exact listed (List.Subset.refl _) presented
        · split at presented
          · exact listed (ofKind _) presented
          · split at presented
            · next child first =>
                cases presented
                exact .child (ofKind _ (List.mem_of_mem_head? first))
            · cases presented
            · cases presented

end ForeignNode

namespace ForeignValue

variable {inner foreign : ForeignNode} {accessor path : String}

theorem Presents.of_step {value : ForeignValue} (presented : Presents inner (value.step accessor)) :
    ∃ asked, Presents asked value ∧ inner.Inside asked := by
  induction value with
  | null => cases presented
  | scalar => cases presented
  | node asked => exact ⟨asked, .here, ForeignNode.inside_of_get presented⟩
  | list items ih =>
      rw [step, stepAll_eq_map] at presented
      cases presented with
      | item member presented =>
          obtain ⟨item, inItems, rfl⟩ := List.mem_map.mp member
          obtain ⟨asked, isAsked, inside⟩ := ih item inItems presented
          exact ⟨asked, .item inItems isAsked, inside⟩

theorem Presents.of_steps {value : ForeignValue} {accessors : List String}
    (presented : Presents inner
      (accessors.foldl (fun current accessor => current.step accessor) value)) :
    ∃ asked, Presents asked value ∧ ReflTransGen ForeignNode.Inside inner asked ∧
      (accessors ≠ [] → inner.Below asked) := by
  induction accessors generalizing value with
  | nil => exact ⟨inner, presented, .refl, fun some => absurd rfl some⟩
  | cons accessor rest ih =>
      obtain ⟨middle, isMiddle, reached, _⟩ := ih presented
      obtain ⟨asked, isAsked, inside⟩ := isMiddle.of_step
      exact ⟨asked, isAsked, reached.tail inside, fun _ => .tail' reached inside⟩

/-- A path with an accessor in it leads strictly down. -/
theorem Presents.of_navigate (presented : Presents inner (foreign.navigate path))
    (proper : segments path ≠ []) : inner.Below foreign := by
  obtain ⟨asked, isAsked, _, below⟩ := presented.of_steps
  cases isAsked
  exact below proper

end ForeignValue

end TypedTree
