import TypedTree.Proofs.Forest.Planting
import TypedTree.Proofs.Forest.Typing
import TypedTree.Proofs.Transform.Running

namespace TypedTree

/-- Whether the request is about nodes and asks nothing of the engine. -/
def BuildRequest.isTree : BuildRequest → Bool
  | .tree _ => true
  | .config | .addIssue _ | .issues | .takeIssues | .transform _ _ | .transformList _ _
  | .transformNode _ _ => false

/-- The program makes and edits nodes, and asks nothing of the engine. -/
def Construction.Detached {α : Type} : Construction α → Prop
  | .done _ | .fail _ => True
  | .ask request next => request.isTree = true ∧ ∀ answer, Detached (next answer)

namespace Engine

variable {engine : Engine} {recur : Recur} {factory : Factory} {run after : Run} {α : Type}

/-- A node that a constructor has made just now: it has no children and is no placeholder. -/
structure New (node : NodeId) (run after : Run) : Prop where
  later : run.forest.nextId ≤ node
  proper : ∃ cell, after.forest.cell? node = some cell ∧
    cell.concept.isPlaceholder = false ∧ cell.children = []

/-- The factory has no hook, and its constructor makes a new node or answers with none or a
failure. It asks nothing of the engine and leaves the nodes made since `floor` alone. -/
structure Modest (engine : Engine) (floor : NodeId) (factory : Factory) : Prop where
  unfinished : factory.finish = none
  detached : ∀ foreign, Construction.Detached (factory.construct foreign factory.rules)
  keeps : ∀ {recur foreign run made after}, run.forest.TypedIn engine.schema →
    floor ≤ run.forest.nextId →
    (engine.construct recur factory foreign).run run = some (made, after) →
    Forest.Keeps floor run.forest after.forest
  makes : ∀ {recur foreign run node after}, run.forest.TypedIn engine.schema →
    floor ≤ run.forest.nextId →
    (engine.construct recur factory foreign).run run = some (.ok (some node), after) →
    New node run after

/-- Of a run, such a program changes the forest only. -/
theorem forest_of_detached {program : Construction α} (detached : program.Detached)
    {result : Except TransformError α}
    (ran : (program.run (engine.answerBuild recur)).run run = some (result, after)) :
    ∃ forest, after = { run with forest := forest } := by
  induction program generalizing run with
  | done answer =>
      cases ran
      exact ⟨_, rfl⟩
  | fail error =>
      cases ran
      exact ⟨_, rfl⟩
  | ask request next ih =>
      obtain ⟨isTree, each⟩ := detached
      rw [Program.run, StateT.run_bind] at ran
      obtain ⟨⟨answer, middle⟩, answered, ran⟩ := Option.bind_eq_some_iff.mp ran
      cases request with
      | tree request =>
          obtain ⟨forest, rfl⟩ := forest_of_answerTree answered
          have later := ih answer (each answer) ran
          exact later
      | _ => cases isTree

/-- Making a node of one concept is all that these constructors do. -/
theorem modest_ofConcept {made : String}
    (constructs : factory.construct = (Factory.ofConcept factory.sourceType made).construct)
    (unfinished : factory.finish = none)
    (proper : ∀ concept, engine.schema.concept? made = some concept →
      concept.isPlaceholder = false) (floor : NodeId) : engine.Modest floor factory where
  unfinished := unfinished
  detached foreign := by
    rw [constructs]
    refine And.intro rfl fun answer => ?_
    cases answer <;> exact trivial
  keeps {recur foreign run answer after} _ _ ran := by
    rw [run_construct_ofConcept constructs] at ran
    split at ran
    · cases ran
      exact (Forest.Keeps.refl _ _).add _
    · cases ran
      exact .refl _ _
  makes {recur foreign run node after} _ _ ran := by
    rw [run_construct_ofConcept constructs] at ran
    split at ran
    · next concept declared =>
        cases ran
        refine ⟨Nat.le_refl _, .blank concept, run.forest.cell?_add_self _,
          proper concept declared, (Cell.bare_blank concept).children_eq⟩
    · cases ran

theorem modest_of_fails {message : String}
    (constructs : factory.construct = fun _ _ => .fail (.factory message))
    (unfinished : factory.finish = none) (floor : NodeId) : engine.Modest floor factory where
  unfinished := unfinished
  detached foreign := by
    rw [constructs]
    exact trivial
  keeps {recur foreign run answer after} _ _ ran := by
    rw [construct, constructs] at ran
    cases ran
    exact .refl _ _
  makes {recur foreign run node after} _ _ ran := by
    rw [construct, constructs] at ran
    cases ran

end Engine

end TypedTree
