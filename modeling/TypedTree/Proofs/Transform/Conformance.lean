import TypedTree.Proofs.Forest.Fitting
import TypedTree.Proofs.Transform.Inspection

namespace TypedTree

variable {decls : List ConceptDecl} {schema : Schema} {forest : Forest}

theorem Forest.stable_conformant (built : Schema.build decls = .ok schema) :
    Stable schema (·.Conformant schema) where
  create conformant created := conformant.create built created
  createGeneric conformant := conformant.createGeneric
  createError conformant message := conformant.createError message
  apply conformant applied := conformant.apply applied
  discardSince conformant _ := conformant.swept (swept_sweepRounds _ _)
  attachMetadata conformant _ _ _ _ := conformant.setMetadata (fun _ => rfl) fun _ => rfl

namespace Transformer

/-- The forests that come out of operations and of calls of any transformers for the
schema, whether these succeed or fail. -/
inductive Produced (schema : Schema) : Forest → Prop where
  | empty : Produced schema ∅
  | operate {forest : Forest} (before : Produced schema forest) (operation : Operation) :
      Produced schema (forest.perform schema operation)
  | transform {forest : Forest} (before : Produced schema forest) (transformer : Transformer)
      (same : transformer.engine.schema = schema) {fuel : Nat} {value : ForeignValue}
      {parent : Option NodeId} {outcome : Outcome (Option NodeId)}
      (ended : transformer.transform fuel forest value parent = some outcome) :
      Produced schema outcome.forest
  | transformList {forest : Forest} (before : Produced schema forest) (transformer : Transformer)
      (same : transformer.engine.schema = schema) {fuel : Nat} {value : ForeignValue}
      {parent : Option NodeId} {outcome : Outcome (List NodeId)}
      (ended : transformer.transformList fuel forest value parent = some outcome) :
      Produced schema outcome.forest
  | transformNode {forest : Forest} (before : Produced schema forest) (transformer : Transformer)
      (same : transformer.engine.schema = schema) {fuel : Nat} {foreign : ForeignNode}
      {parent : Option NodeId} {outcome : Outcome (Option NodeId)}
      (ended : transformer.perform forest (·.transformNode fuel foreign parent) = some outcome) :
      Produced schema outcome.forest

section

variable {transformer : Transformer} {rule : Forest → Bool}
  (built : Schema.build decls = .ok schema) (same : transformer.engine.schema = schema)
  (accepts : ∀ forest : Forest, forest.Conformant schema → rule forest = true)
  (conformant : forest.Conformant schema) (fuel : Nat) (parent : Option NodeId)
include built same accepts

theorem simulatesRecur_inspectNode (fuel : Nat) :
    Engine.SimulatesRecur (Engine.SameWith (·.Conformant schema) fun _ => True)
      (transformer.engine.transformNode fuel) (transformer.engine.inspectNode rule fuel) := by
  subst same
  refine Engine.simulates_inspectNode
    (Engine.follows_stable (Forest.stable_conformant built)) (fun run other related => ?_) fuel
  rw [related.1]
  exact accepts run.forest related.2.1

include conformant

theorem inspected_transform {value : ForeignValue} {outcome : Outcome (Option NodeId)}
    (ended : transformer.transform fuel forest value parent = some outcome) :
    transformer.perform forest (fun engine =>
        Engine.transformValue (engine.inspectNode rule fuel) value parent) = some outcome ∧
      outcome.forest.Conformant schema :=
  perform_inspected (·.Conformant schema)
    ((simulatesRecur_inspectNode built same accepts fuel).transformValue value parent)
    conformant ended

theorem inspected_transformList {value : ForeignValue} {outcome : Outcome (List NodeId)}
    (ended : transformer.transformList fuel forest value parent = some outcome) :
    transformer.perform forest (fun engine =>
        Engine.transformAll (engine.inspectNode rule fuel) value parent) = some outcome ∧
      outcome.forest.Conformant schema :=
  perform_inspected (·.Conformant schema)
    ((simulatesRecur_inspectNode built same accepts fuel).transformAll value parent)
    conformant ended

theorem inspected_transformNode {foreign : ForeignNode} {outcome : Outcome (Option NodeId)}
    (ended : transformer.perform forest (·.transformNode fuel foreign parent) = some outcome) :
    transformer.perform forest (·.inspectNode rule fuel foreign parent) = some outcome ∧
      outcome.forest.Conformant schema :=
  perform_inspected (·.Conformant schema)
    (simulatesRecur_inspectNode built same accepts fuel foreign parent) conformant ended

end

theorem Produced.conformant (built : Schema.build decls = .ok schema)
    (produced : Produced schema forest) : forest.Conformant schema := by
  have anything (forest : Forest) (_ : forest.Conformant schema) : true = true := rfl
  induction produced with
  | empty => exact Forest.conformant_empty schema
  | operate _ operation ih => exact ih.perform built operation
  | transform _ _ same ended ih => exact (inspected_transform built same anything ih _ _ ended).2
  | transformList _ _ same ended ih =>
      exact (inspected_transformList built same anything ih _ _ ended).2
  | transformNode _ _ same ended ih =>
      exact (inspected_transformNode built same anything ih _ _ ended).2

/-- Every forest that is produced conforms to the schema, and every call on it ends under
the strictest inspection as it does without. -/
theorem conformant_throughout (built : Schema.build decls = .ok schema)
    (produced : Produced schema forest) :
    forest.Conformant schema ∧
    ∀ (transformer : Transformer) (rule : Forest → Bool), transformer.engine.schema = schema →
      (∀ other : Forest, other.Conformant schema → rule other = true) →
      ∀ (fuel : Nat) (parent : Option NodeId),
        (∀ value outcome, transformer.transform fuel forest value parent = some outcome →
          transformer.perform forest (fun engine =>
            Engine.transformValue (engine.inspectNode rule fuel) value parent) = some outcome) ∧
        (∀ value outcome, transformer.transformList fuel forest value parent = some outcome →
          transformer.perform forest (fun engine =>
            Engine.transformAll (engine.inspectNode rule fuel) value parent) = some outcome) ∧
        ∀ foreign outcome,
          transformer.perform forest (·.transformNode fuel foreign parent) = some outcome →
          transformer.perform forest (·.inspectNode rule fuel foreign parent) = some outcome := by
  have conformant := produced.conformant built
  refine ⟨conformant, fun transformer rule same accepts fuel parent => ⟨?_, ?_, ?_⟩⟩
  · intro value outcome ended
    exact (inspected_transform built same accepts conformant fuel parent ended).1
  · intro value outcome ended
    exact (inspected_transformList built same accepts conformant fuel parent ended).1
  · intro foreign outcome ended
    exact (inspected_transformNode built same accepts conformant fuel parent ended).1

def shelfDecls : List ConceptDecl :=
  [(ConceptDecl.named "Shelf").addFeature "items" (.children "Book"), .named "Book", .named "Lamp"]

/-- The constructor of a shelf puts a book on it, then the engine goes on with all that
stands on the foreign shelf. -/
def stocking (schema : Schema) : Transformer :=
  let shelf : Factory :=
    { Factory.ofConcept "Shelf" "Shelf" with
      construct := fun _ _ => do
        let node ← Construction.create "Shelf"
        let book ← Construction.create "Book"
        Construction.edit (.addChild node "items" book)
        return some node
      rules := ExtractionRules.empty.add "items" (.path "items") }
  let transformer := Transformer.new schema .lenient none
  { transformer with
    engine :=
      { transformer.engine with
        factories := .ofEntries [("Shelf", shelf), ("Lamp", .ofConcept "Lamp" "Lamp")] } }

def litShelf : ForeignValue :=
  .node (.record "Shelf" [] [("items", .list [.node (.record "Lamp" [] [] none none)])] none none)

open Classical in
theorem conformant_throughout_shelf :
    ∃ schema, Schema.build shelfDecls = .ok schema ∧
      ∃ outcome, (stocking schema).transform 2 ∅ litShelf none = some outcome ∧
        outcome.result = .error (.edit (.rejected "Shelf" "items" (.wrongType "Book" "Lamp"))) ∧
        1 ∈ outcome.forest.childrenOf 0 "items" ∧ outcome.forest.Conformant schema ∧
        (stocking schema).perform ∅ (fun engine =>
          Engine.transformValue (engine.inspectNode (fun forest =>
            decide (forest.Conformant schema)) 2) litShelf none) = some outcome := by
  have evaluated : ((Schema.build shelfDecls).toOption.any fun schema =>
      ((stocking schema).transform 2 ∅ litShelf none).any fun outcome =>
        decide (outcome.result =
          .error (.edit (.rejected "Shelf" "items" (.wrongType "Book" "Lamp")))) &&
        (outcome.forest.childrenOf 0 "items").contains 1) = true := by
    decide +kernel
  cases built : Schema.build shelfDecls with
  | error reason =>
      rw [built] at evaluated
      cases evaluated
  | ok schema =>
      rw [built, Except.toOption, Option.any_some] at evaluated
      obtain ⟨outcome, ended, both⟩ := (Option.any_eq_true _ _).mp evaluated
      obtain ⟨refused, held⟩ := (Bool.and_eq_true _ _).mp both
      have produced : Produced schema outcome.forest :=
        .transform .empty (stocking schema) rfl ended
      have inspected := (conformant_throughout built .empty).2 (stocking schema)
        (fun forest => decide (forest.Conformant schema)) rfl (by simp) 2 none
      exact ⟨schema, rfl, outcome, ended, of_decide_eq_true refused, by simpa using held,
        (conformant_throughout built produced).1, inspected.1 litShelf outcome ended⟩

end Transformer

end TypedTree
