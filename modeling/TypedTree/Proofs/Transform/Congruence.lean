import TypedTree.Proofs.Foreign.Descent
import TypedTree.Transform.Engine

namespace TypedTree

/-! # What computations share

Several computations are often compared step by step: an engine and one that follows it, a
lenient engine and a strict one. If a property of such a family is kept whenever its members
take the same steps and go on alike, then it holds of everything the engine does with foreign
values, provided that it holds of the ways in which single foreign nodes are transformed.
-/

/-- Failures that factories report are the only errors an engine may contain. -/
def TransformError.isContainable : TransformError → Bool
  | .factory _ => true
  | .unexpectedCollection _ | .unexpectedValue _ _ | .unmappedType _ | .duplicateFactory _
  | .unknownChildRule _ _ | .edit _ => false

namespace Engine

/-- A property of families of computations that members which go on alike keep. -/
structure Congruent {ι : Type} (holds : {α : Type} → (ι → EngineM α) → Prop) : Prop where
  done : ∀ {α : Type} (answer : α), holds fun _ => pure answer
  failed : ∀ {α : Type} {error : TransformError}, error.isContainable = false →
    holds fun _ => (throw error : EngineM α)
  andThen : ∀ {α β : Type} {first : ι → EngineM α} {next : ι → α → EngineM β},
    holds first → (∀ answer, holds fun member => next member answer) →
      holds fun member => first member >>= next member

namespace Congruent

variable {ι : Type} {holds : {α : Type} → (ι → EngineM α) → Prop} (congruent : Congruent holds)
  (recur : ι → Recur)
include congruent

theorem transformValue_of {value : ForeignValue}
    (recursive : ∀ foreign, value.Presents foreign → ∀ parent,
      holds fun member => recur member foreign parent) (parent : Option NodeId) :
    holds fun member => Engine.transformValue (recur member) value parent := by
  match value with
  | .null => exact congruent.done none
  | .node foreign => exact recursive foreign .here parent
  | .list items => exact congruent.failed rfl
  | .scalar value => exact congruent.failed rfl

theorem transformEach_of {values : List ForeignValue}
    (recursive : ∀ foreign, (ForeignValue.list values).Presents foreign → ∀ parent,
      holds fun member => recur member foreign parent) (parent : Option NodeId) :
    holds fun member => Engine.transformEach (recur member) parent values := by
  induction values with
  | nil => exact congruent.done []
  | cons value rest ih =>
      have first := congruent.transformValue_of recur
        (fun foreign presented => recursive foreign (.item List.mem_cons_self presented)) parent
      refine congruent.andThen first fun node => ?_
      refine congruent.andThen (ih fun foreign presented => ?_) fun nodes => congruent.done _
      exact recursive foreign presented.tail

theorem transformAll_of {value : ForeignValue}
    (recursive : ∀ foreign, value.Presents foreign → ∀ parent,
      holds fun member => recur member foreign parent) (parent : Option NodeId) :
    holds fun member => Engine.transformAll (recur member) value parent := by
  match value with
  | .list items => exact congruent.transformEach_of recur recursive parent
  | .null | .node _ | .scalar _ =>
      refine congruent.andThen (congruent.transformValue_of recur recursive parent) fun node => ?_
      exact congruent.done _

theorem transformElements_of {values : List ForeignValue}
    (recursive : ∀ foreign, (ForeignValue.list values).Presents foreign → ∀ parent,
      holds fun member => recur member foreign parent) (node : NodeId)
    (concept feature : String) :
    holds fun member => Engine.transformElements (recur member) node concept feature values := by
  induction values with
  | nil => exact congruent.done []
  | cons value rest ih =>
      have later := ih fun foreign presented => recursive foreign presented.tail
      match value with
      | .null => exact later
      | .node foreign =>
          have first := recursive foreign (.item List.mem_cons_self .here) (some node)
          refine congruent.andThen first fun child => ?_
          exact congruent.andThen later fun children => congruent.done _
      | .list items => exact congruent.failed rfl
      | .scalar value => exact congruent.failed rfl

theorem assign_of (edits : ∀ change, holds fun _ => edit change) {feature : Feature}
    {value : ForeignValue}
    (recursive : feature.type.isContainment = true → ∀ foreign, value.Presents foreign →
      ∀ parent, holds fun member => recur member foreign parent)
    (node : NodeId) (concept : String) :
    holds fun member => Engine.assign (recur member) node concept feature value := by
  unfold Engine.assign
  cases kind : feature.type <;> cases value <;> try exact congruent.failed rfl
  all_goals try exact edits _
  all_goals rw [kind] at recursive
  case child.node target foreign =>
    exact congruent.andThen (recursive rfl foreign .here (some node)) fun child => edits _
  case children.list target items =>
    have all := congruent.transformElements_of recur (recursive rfl) node concept feature.name
    exact congruent.andThen all fun _ => edits _

theorem assignAll_of (edits : ∀ change, holds fun _ => edit change) {foreign : ForeignNode}
    {plan : Plan}
    (recursive : ∀ step ∈ plan, step.1.type.isContainment = true →
      ∀ inner, (step.2.extract foreign).Presents inner → ∀ parent,
        holds fun member => recur member inner parent)
    (node : NodeId) (concept : String) :
    holds fun member => Engine.assignAll (recur member) node concept foreign plan := by
  induction plan with
  | nil => exact congruent.done ()
  | cons step rest ih =>
      have first := congruent.assign_of recur edits (recursive step List.mem_cons_self) node concept
      exact congruent.andThen first fun _ =>
        ih fun other member => recursive other (List.mem_cons_of_mem step member)

section

variable (recursive : ∀ foreign parent, holds fun member => recur member foreign parent)
include recursive

theorem transformValue (value : ForeignValue) (parent : Option NodeId) :
    holds fun member => transformValue (recur member) value parent :=
  congruent.transformValue_of recur (fun foreign _ => recursive foreign) parent

theorem transformAll (value : ForeignValue) (parent : Option NodeId) :
    holds fun member => transformAll (recur member) value parent :=
  congruent.transformAll_of recur (fun foreign _ => recursive foreign) parent

theorem transformElements (node : NodeId) (concept feature : String)
    (values : List ForeignValue) :
    holds fun member => transformElements (recur member) node concept feature values :=
  congruent.transformElements_of recur (fun foreign _ => recursive foreign) node concept feature

variable (edits : ∀ change, holds fun _ => edit change)
include edits

theorem assign (node : NodeId) (concept : String) (feature : Feature) (value : ForeignValue) :
    holds fun member => assign (recur member) node concept feature value :=
  congruent.assign_of recur edits (fun _ inner _ => recursive inner) node concept

theorem assignAll (node : NodeId) (concept : String) (foreign : ForeignNode) (plan : Plan) :
    holds fun member => assignAll (recur member) node concept foreign plan :=
  congruent.assignAll_of recur edits (fun _ _ _ inner _ => recursive inner) node concept

end

end Congruent

end Engine

end TypedTree
