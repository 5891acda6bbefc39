import TypedTree.Proofs.Transform.Stability

namespace TypedTree

namespace Engine

/-- Shows the forest to the rule after a step. -/
def inspected {α : Type} (rule : Forest → Bool) (step : RunM α) : RunM α := do
  let answer ← step
  let run ← get
  if rule run.forest then return answer else failure

/-- Shows the forest before the node is put under its parent and after. -/
def inspectAdopt (engine : Engine) (rule : Forest → Bool) : Adopt := fun node foreign parent => do
  inspected rule (pure ())
  inspected rule (engine.adopt node foreign parent)

def inspectAll (rule : Forest → Bool) (recur : Recur) (node : NodeId) (concept : String)
    (foreign : ForeignNode) : Plan → EngineM Unit
  | [] => return ()
  | (feature, source) :: rest => do
      ExceptT.mk (inspected rule
        (assign recur node concept feature (source.extract foreign)).run)
      inspectAll rule recur node concept foreign rest

def inspectWire (engine : Engine) (rule : Forest → Bool) (recur : Recur) (factory : Factory)
    (foreign : ForeignNode) (node : NodeId) : EngineM Unit := do
  match (← get).forest.concept? node with
  | none => return ()
  | some concept =>
      if !factory.skipChildren && !concept.isPlaceholder then
        let plan ← engine.planFor factory concept
        inspectAll rule recur node concept.name foreign plan

def inspectHook (engine : Engine) (rule : Forest → Bool) (factory : Factory)
    (foreign : ForeignNode) (node : NodeId) : EngineM Unit :=
  match factory.finish with
  | none => return ()
  | some hook =>
      ExceptT.mk ((hook node foreign).run fun request =>
        inspected rule (answerTree engine.schema request))

def inspectConstruct (engine : Engine) (rule : Forest → Bool) (recur : Recur)
    (factory : Factory) (foreign : ForeignNode) : RunM (Except TransformError (Option NodeId)) :=
  (factory.construct foreign factory.rules).run fun request =>
    inspected rule (engine.answerBuild recur request)

/-- As `transformWith`, with a look at the forest after each step. -/
def inspectWith (engine : Engine) (rule : Forest → Bool) (recur : Recur) : Recur :=
    fun foreign parent => do
  match ← engine.factoryFor foreign with
  | none => engine.substituteGeneric (engine.inspectAdopt rule) foreign parent
  | some factory =>
      let mark := (← get).forest.nextId
      match ← ExceptT.lift (engine.inspectConstruct rule recur factory foreign) with
      | .ok none => return none
      | .ok (some node) =>
          engine.inspectAdopt rule node foreign parent
          engine.inspectWire rule recur factory foreign node
          engine.inspectHook rule factory foreign node
          return some node
      | .error (.factory message) =>
          if engine.config.containFailures then
            substituteError (engine.inspectAdopt rule) mark message foreign parent
          else throw (.factory message)
      | .error error => throw error

def inspectNode (engine : Engine) (rule : Forest → Bool) : (fuel : Nat) → Recur
  | 0 => fun _ _ => outOfFuel
  | fuel + 1 => fun foreign parent =>
      engine.inspectWith rule (engine.inspectNode rule fuel) foreign parent

variable {α : Type} {R : Run → Run → Prop} {rule : Forest → Bool} {engine : Engine}
  {recur following : Recur}

theorem simulates_inspected {first second : RunM α}
    (seen : ∀ run other, R run other → rule other.forest = true)
    (here : Simulates R first second) : Simulates R first (inspected rule second) := by
  intro run other answer after related ended
  obtain ⟨otherAfter, otherEnded, relatedAfter⟩ := here _ _ _ _ related ended
  refine ⟨otherAfter, ?_, relatedAfter⟩
  have accepted := seen after otherAfter relatedAfter
  rw [inspected, StateT.run_bind, otherEnded]
  simp [accepted]

section

variable (follows : Follows R engine engine engine.adopt engine.adopt)
  (seen : ∀ run other, R run other → rule other.forest = true)
include follows seen

theorem simulates_inspectAdopt (node : NodeId) (foreign : ForeignNode) (parent : Option NodeId) :
    Simulates R (engine.adopt node foreign parent)
      (engine.inspectAdopt rule node foreign parent) :=
  simulates_bind (simulates_inspected seen (simulates_pure ())) fun _ =>
    simulates_inspected seen (follows.adopts node foreign parent)

theorem shares_inspectAdopt :
    Shares R engine engine engine.adopt (engine.inspectAdopt rule) where
  schema := rfl
  config := rfl
  compatible := follows.compatible
  adopts := simulates_inspectAdopt follows seen

theorem simulates_inspectHook (factory : Factory) (foreign : ForeignNode) (node : NodeId) :
    Simulates R (engine.runHook factory foreign node).run
      (engine.inspectHook rule factory foreign node).run := by
  unfold runHook inspectHook
  cases factory.finish with
  | none => exact simulates_ok ()
  | some hook =>
      refine simulates_program (fun request => ?_) (hook node foreign)
      exact simulates_inspected seen (follows.compatible.simulates_answerTree request)

variable (recursive : SimulatesRecur R recur following)
include recursive

theorem simulates_inspectAll (node : NodeId) (concept : String) (foreign : ForeignNode)
    (plan : Plan) :
    Simulates R (assignAll recur node concept foreign plan).run
      (inspectAll rule following node concept foreign plan).run := by
  induction plan with
  | nil => exact simulates_ok ()
  | cons step rest ih =>
      refine simulates_andThen (simulates_inspected seen ?_) fun _ => ih
      exact (congruent_simulates R).assign (bif · then recur else following) recursive
        follows.compatible.simulates_edit node concept step.1 (step.2.extract foreign)

theorem simulates_inspectWire (factory : Factory) (foreign : ForeignNode) (node : NodeId) :
    Simulates R (engine.wire recur factory foreign node).run
      (engine.inspectWire rule following factory foreign node).run := by
  refine simulates_get_andThen fun run other related => ?_
  rw [← follows.compatible.forest related]
  cases run.forest.concept? node with
  | none => exact simulates_ok ()
  | some concept =>
      by_cases filled : (!factory.skipChildren && !concept.isPlaceholder) = true
      · simp only [filled, if_true]
        refine simulates_andThen (simulates_lift (follows.planFor factory concept)) fun plan => ?_
        exact simulates_inspectAll follows seen recursive node concept.name foreign plan
      · simp only [filled]
        exact simulates_ok ()

theorem simulates_inspectConstruct (factory : Factory) (foreign : ForeignNode) :
    Simulates R (engine.construct recur factory foreign)
      (engine.inspectConstruct rule following factory foreign) := by
  refine simulates_program (fun request => ?_) (factory.construct foreign factory.rules)
  exact simulates_inspected seen (follows.answerBuild recursive request)

theorem simulates_inspectWith :
    SimulatesRecur R (engine.transformWith engine.adopt recur)
      (engine.inspectWith rule following) := by
  intro foreign parent
  have shares := shares_inspectAdopt follows seen
  refine simulates_andThen (simulates_lift (follows.factoryFor foreign)) fun found => ?_
  cases found with
  | none => exact shares.substituteGeneric foreign parent
  | some factory =>
      refine simulates_get_andThen fun run other related => ?_
      rw [follows.compatible.forest related]
      refine simulates_andThen (simulates_lift
        (simulates_inspectConstruct follows seen recursive factory foreign)) fun made => ?_
      match made with
      | .ok none => exact simulates_ok none
      | .ok (some node) =>
          refine simulates_andThen (simulates_lift (shares.adopts node foreign parent))
            fun _ => ?_
          refine simulates_andThen
            (simulates_inspectWire follows seen recursive factory foreign node) fun _ => ?_
          refine simulates_andThen (simulates_inspectHook follows seen factory foreign node)
            fun _ => ?_
          exact simulates_ok (some node)
      | .error (.factory message) =>
          by_cases contained : engine.config.containFailures = true
          · simp only [contained, if_true]
            exact shares.substituteError _ message foreign parent
          · simp only [contained]
            exact simulates_throw _
      | .error (.unexpectedCollection _) | .error (.unexpectedValue _ _)
      | .error (.unmappedType _) | .error (.duplicateFactory _)
      | .error (.unknownChildRule _ _) | .error (.edit _) => exact simulates_throw _

end

theorem simulates_inspectNode (follows : Follows R engine engine engine.adopt engine.adopt)
    (seen : ∀ run other, R run other → rule other.forest = true) (fuel : Nat) :
    SimulatesRecur R (engine.transformNode fuel) (engine.inspectNode rule fuel) := by
  induction fuel with
  | zero =>
      intro foreign parent run other answer after related ended
      cases ended
  | succ fuel ih => exact simulates_inspectWith follows seen ih

end Engine

namespace Transformer

variable {α : Type} {transformer : Transformer} {forest : Forest}
  {inspection action : Engine → EngineM α} {outcome : Outcome α}

/-- If what every step keeps is all that the rule asks for, inspection changes nothing. -/
theorem perform_inspected (holds : Forest → Prop)
    (simulated : Engine.Simulates (Engine.SameWith holds fun _ => True)
      (action transformer.engine).run (inspection transformer.engine).run)
    (here : holds forest) (ended : transformer.perform forest action = some outcome) :
    transformer.perform forest inspection = some outcome ∧ holds outcome.forest := by
  obtain ⟨run, ran, same⟩ := perform_eq_some ended
  obtain ⟨_, otherRan, rfl, after, _⟩ := simulated _ _ _ _ ⟨rfl, here, trivial⟩ ran
  rw [same]
  exact ⟨perform_of_ran otherRan, after⟩

end Transformer

end TypedTree
