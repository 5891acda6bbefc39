import TypedTree.Proofs.Forest.Lifetime
import TypedTree.Proofs.Forest.Typing
import TypedTree.Proofs.Transform.Outcomes

namespace TypedTree

/-- A property of forests that every step of an engine keeps. -/
structure Forest.Stable (schema : Schema) (holds : Forest → Prop) : Prop where
  create : ∀ {forest node after} {concept : String}, holds forest →
    forest.create schema concept = .ok (node, after) → holds after
  createGeneric : ∀ {forest}, holds forest → holds forest.createGeneric.2
  createError : ∀ {forest}, holds forest → ∀ message, holds (forest.createError message).2
  apply : ∀ {forest after} {edit : Edit}, holds forest →
    forest.apply edit = .ok after → holds after
  discardSince : ∀ {forest}, holds forest → ∀ mark, holds (forest.discardSince mark)
  attachMetadata : ∀ {forest}, holds forest → ∀ source node foreign parent,
    holds (Engine.attachMetadata source node foreign parent forest)

theorem Forest.stable_typedIn {decls : List ConceptDecl} {schema : Schema}
    (built : Schema.build decls = .ok schema) : Stable schema (·.TypedIn schema) where
  create typed created := typed.create built created
  createGeneric typed := typed.createGeneric
  createError typed message := typed.createError message
  apply typed applied := typed.apply applied
  discardSince typed _ := typed.swept (swept_sweepRounds _ _)
  attachMetadata typed _ _ _ _ := typed.setMetadata (fun _ => rfl) fun _ => rfl

theorem Forest.stable_nextId (schema : Schema) (mark : NodeId) :
    Stable schema (mark ≤ ·.nextId) where
  create reached created := by
    unfold Forest.create at created
    split at created
    · cases created
      exact Nat.le_trans reached later_add.nextId
    · cases created
  createGeneric reached := Nat.le_trans reached later_add.nextId
  createError reached _ := Nat.le_trans reached later_add.nextId
  apply reached applied := Nat.le_trans reached (later_apply applied).nextId
  discardSince reached _ := Nat.le_trans reached (swept_sweepRounds _ _).later.nextId
  attachMetadata reached _ _ _ _ := Nat.le_trans reached (later_modify _ _).nextId

namespace Engine

variable {engine : Engine} {holds : Forest → Prop} {valid : Memo → Prop} {run after : Run}
  {fuel : Nat}

/-- One run, whose forest and memo each have a property, seen twice. -/
def SameWith (holds : Forest → Prop) (valid : Memo → Prop) (run other : Run) : Prop :=
  other = run ∧ holds run.forest ∧ valid run.memo

theorem shares_stable (stable : Forest.Stable engine.schema holds) (valid : Memo → Prop) :
    Shares (SameWith holds valid) engine engine engine.adopt engine.adopt where
  schema := rfl
  config := rfl
  compatible :=
    { forest := fun related => related.1 ▸ rfl
      issues := fun related => related.1 ▸ rfl
      setIssues := fun related _ => ⟨related.1 ▸ rfl, related.2⟩
      create := fun ⟨same, held, memo⟩ _ _ _ created =>
        ⟨same ▸ rfl, stable.create held created, memo⟩
      createGeneric := fun ⟨same, held, memo⟩ => ⟨same ▸ rfl, stable.createGeneric held, memo⟩
      createError := fun ⟨same, held, memo⟩ message =>
        ⟨same ▸ rfl, stable.createError held message, memo⟩
      apply := fun ⟨same, held, memo⟩ _ _ applied =>
        ⟨same ▸ rfl, stable.apply held applied, memo⟩
      discardSince := fun ⟨same, held, memo⟩ mark =>
        ⟨same ▸ rfl, stable.discardSince held mark, memo⟩ }
  adopts node foreign parent := simulates_modify fun _ _ ⟨same, held, memo⟩ =>
    ⟨same ▸ rfl, stable.attachMetadata held _ node foreign parent, memo⟩

theorem holds_of_simulates {α : Type} {computation : RunM α} {answer : α}
    (kept : Simulates (SameWith holds valid) computation computation) (before : holds run.forest)
    (memo : valid run.memo) (ran : computation.run run = some (answer, after)) :
    holds after.forest ∧ valid after.memo := by
  obtain ⟨_, _, _, afterwards⟩ := kept _ _ _ _ ⟨rfl, before, memo⟩ ran
  exact afterwards

theorem follows_stable (stable : Forest.Stable engine.schema holds) :
    Follows (SameWith holds fun _ => True) engine engine engine.adopt engine.adopt where
  toShares := shares_stable stable _
  factoryFor _ := simulates_modifyGet fun _ _ related =>
    ⟨related.1 ▸ rfl, related.1 ▸ rfl, related.2⟩
  planFor _ _ := simulates_modifyGet fun _ _ related =>
    ⟨related.1 ▸ rfl, related.1 ▸ rfl, related.2⟩

theorem simulatesRecur_stable (stable : Forest.Stable engine.schema holds) (fuel : Nat) :
    SimulatesRecur (SameWith holds fun _ => True) (engine.transformNode fuel)
      (engine.transformNode fuel) := by
  induction fuel with
  | zero =>
      intro foreign parent run other answer after related ended
      cases ended
  | succ fuel ih => exact (follows_stable stable).transformWith ih

theorem holds_of_construct (stable : Forest.Stable engine.schema holds) {factory : Factory}
    {foreign : ForeignNode} {made : Except TransformError (Option NodeId)}
    (before : holds run.forest)
    (ran : (engine.construct (engine.transformNode fuel) factory foreign).run run =
      some (made, after)) : holds after.forest :=
  (holds_of_simulates (simulates_program
    ((follows_stable stable).answerBuild (simulatesRecur_stable stable fuel)) _) before
      trivial ran).1

theorem holds_of_transformElements (stable : Forest.Stable engine.schema holds) {node : NodeId}
    {concept feature : String} {values : List ForeignValue}
    {result : Except TransformError (List NodeId)} (before : holds run.forest)
    (ran : (transformElements (engine.transformNode fuel) node concept feature values).run.run run =
      some (result, after)) : holds after.forest :=
  (holds_of_simulates ((congruent_simulates _).transformElements
    (fun _ => engine.transformNode fuel) (simulatesRecur_stable stable fuel) node concept feature
      values) before trivial ran).1

theorem holds_of_transformNode (stable : Forest.Stable engine.schema holds)
    {foreign : ForeignNode} {parent : Option NodeId}
    {result : Except TransformError (Option NodeId)} (before : holds run.forest)
    (ran : (engine.transformNode fuel foreign parent).run.run run = some (result, after)) :
    holds after.forest :=
  (holds_of_simulates (simulatesRecur_stable stable fuel foreign parent) before trivial ran).1

end Engine

end TypedTree
