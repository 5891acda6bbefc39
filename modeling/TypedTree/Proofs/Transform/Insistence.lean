import TypedTree.Proofs.Transform.Failures
import TypedTree.Proofs.Transform.Strictness
import TypedTree.Proofs.Transform.Termination

namespace TypedTree

/-! # Runs in which nodes can be filled

Filling a node can fail, and what becomes of the failure depends on who asked for the node: a
constructor may drop it, and an engine that contains failures may answer it further up. The
insisting engine does not go on from such a failure. If constructors hand on the errors they
are answered with, and no hook reports a failure that would be contained, then it does the
same as the engine in every call that succeeds.
-/

/-- Where a transformation that the program asks for fails, the program fails likewise. Unlike a
`Forthright` one it may ask for the configuration. -/
inductive Construction.HandsOn {α : Type} : Construction α → Prop where
  | done (result : α) : HandsOn (.done result)
  | fail (error : TransformError) : HandsOn (.fail error)
  | ask {request : BuildRequest} {next : request.Answer → Construction α}
      (stops : ∀ answer error, request.failure? answer = some error →
        (next answer).Propagates error)
      (later : ∀ answer, HandsOn (next answer)) : HandsOn (.ask request next)

/-- Whatever it is answered, the program fails with errors of a kind only. -/
inductive Program.FailsOnly {Q : Type} {Answer : Q → Type} {ε α : Type} (kind : ε → Prop) :
    Program Q Answer ε α → Prop where
  | done (result : α) : FailsOnly kind (.done result)
  | fail {error : ε} (allowed : kind error) : FailsOnly kind (.fail error)
  | ask {question : Q} {next : Answer question → Program Q Answer ε α}
      (later : ∀ answer, FailsOnly kind (next answer)) : FailsOnly kind (.ask question next)

theorem Program.FailsOnly.of_run {Q : Type} {Answer : Q → Type} {ε α : Type} {kind : ε → Prop}
    {program : Program Q Answer ε α} (failsOnly : program.FailsOnly kind)
    {respond : (question : Q) → RunM (Answer question)} {run after : Run} {error : ε}
    (ran : (program.run respond).run run = some (.error error, after)) : kind error := by
  induction failsOnly generalizing run with
  | done result => cases ran
  | fail allowed =>
      cases ran
      exact allowed
  | ask later ih =>
      obtain ⟨⟨answer, middle⟩, _, ran⟩ := Option.bind_eq_some_iff.mp ran
      exact ih answer ran

/-- An error that is not answered with an error node. -/
def TransformConfig.Lasting (config : TransformConfig) (error : TransformError) : Prop :=
  config.containFailures = true → error.isContainable = false

/-- The constructor hands on errors, and those of the hook are not contained either. -/
structure Factory.HandsOn (config : TransformConfig) (factory : Factory) : Prop where
  constructs : ∀ foreign, (factory.construct foreign factory.rules).HandsOn
  finishes : ∀ hook, factory.finish = some hook → ∀ node foreign,
    (hook node foreign).FailsOnly config.Lasting

def Engine.HandsOn (engine : Engine) : Prop :=
  ∀ name factory, engine.factories.get? name = some factory → factory.HandsOn engine.config

namespace Engine

/-- What becomes of a foreign node once its factory is found. -/
def transformFor (engine : Engine) (adopt : Adopt) (recur : Recur) (factory : Factory) : Recur :=
    fun foreign parent => do
  let mark := (← get).forest.nextId
  match ← ExceptT.lift (engine.construct recur factory foreign) with
  | .ok none => return none
  | .ok (some node) =>
      adopt node foreign parent
      engine.wire recur factory foreign node
      engine.runHook factory foreign node
      return some node
  | .error (.factory message) =>
      if engine.config.containFailures then
        substituteError adopt mark message foreign parent
      else throw (.factory message)
  | .error error => throw error

theorem transformWith_eq (engine : Engine) (adopt : Adopt) (recur : Recur)
    (foreign : ForeignNode) (parent : Option NodeId) :
    engine.transformWith adopt recur foreign parent = (do
      match ← engine.factoryFor foreign with
      | none => engine.substituteGeneric adopt foreign parent
      | some factory => engine.transformFor adopt recur factory foreign parent) := rfl

/-- As `wire`, but without an outcome if filling a node for `type` fails. -/
def insistWire (engine : Engine) (type : String) (recur : Recur) (factory : Factory)
    (foreign : ForeignNode) (node : NodeId) : EngineM Unit :=
  ExceptT.mk do
    match ← (engine.wire recur factory foreign node).run with
    | .ok done => return .ok done
    | .error error => if factory.sourceType = type then failure else return .error error

/-- As `transformFor`, for as long as nodes for `type` can be filled. -/
def insistFor (engine : Engine) (type : String) (adopt : Adopt) (recur : Recur)
    (factory : Factory) : Recur := fun foreign parent => do
  let mark := (← get).forest.nextId
  match ← ExceptT.lift (engine.construct recur factory foreign) with
  | .ok none => return none
  | .ok (some node) =>
      adopt node foreign parent
      engine.insistWire type recur factory foreign node
      engine.runHook factory foreign node
      return some node
  | .error (.factory message) =>
      if engine.config.containFailures then
        substituteError adopt mark message foreign parent
      else throw (.factory message)
  | .error error => throw error

/-- As `transformWith`, for as long as nodes for `type` can be filled. -/
def insistWith (engine : Engine) (type : String) (adopt : Adopt) (recur : Recur) : Recur :=
    fun foreign parent => do
  match ← engine.factoryFor foreign with
  | none => engine.substituteGeneric adopt foreign parent
  | some factory => engine.insistFor type adopt recur factory foreign parent

def insistNode (engine : Engine) (type : String) : (fuel : Nat) → Recur
  | 0 => fun _ _ => outOfFuel
  | fuel + 1 => fun foreign parent =>
      engine.insistWith type engine.adopt (engine.insistNode type fuel) foreign parent

/-- As `transform`, for as long as nodes for `type` can be filled. -/
def insist (engine : Engine) (type : String) (fuel : Nat) (value : ForeignValue)
    (parent : Option NodeId) : EngineM (Option NodeId) :=
  transformValue (engine.insistNode type fuel) value parent

variable {engine : Engine} {type : String} {recur following : Recur}

theorem run_insistFor {adopt : Adopt} {factory : Factory} {foreign : ForeignNode}
    {parent : Option NodeId} {node : NodeId} {run middle : Run}
    (made : (engine.construct recur factory foreign).run run = some (.ok (some node), middle)) :
    (engine.insistFor type adopt recur factory foreign parent).run.run run =
      (do
        adopt node foreign parent
        engine.insistWire type recur factory foreign node
        engine.runHook factory foreign node
        return some node : EngineM (Option NodeId)).run.run middle := by
  unfold insistFor
  rw [run_get_bind, ExceptT.run_bind_lift, StateT.run_bind, made]
  rfl

theorem run_transformFor {adopt : Adopt} {factory : Factory} {foreign : ForeignNode}
    {parent : Option NodeId} {node : NodeId} {run middle : Run}
    (made : (engine.construct recur factory foreign).run run = some (.ok (some node), middle)) :
    (engine.transformFor adopt recur factory foreign parent).run.run run =
      (do
        adopt node foreign parent
        engine.wire recur factory foreign node
        engine.runHook factory foreign node
        return some node : EngineM (Option NodeId)).run.run middle := by
  unfold transformFor
  rw [run_get_bind, ExceptT.run_bind_lift, StateT.run_bind, made]
  rfl

theorem run_adopt (engine : Engine) (node : NodeId) (foreign : ForeignNode)
    (parent : Option NodeId) (run : Run) :
    (engine.adopt node foreign parent).run run = some ((), { run with
      forest := attachMetadata engine.source node foreign parent run.forest }) := rfl

theorem run_insistWire_eq_some {factory : Factory} {foreign : ForeignNode} {node : NodeId}
    {run after : Run} {result : Except TransformError Unit}
    (ran : (engine.insistWire type recur factory foreign node).run.run run =
      some (result, after)) :
    (engine.wire recur factory foreign node).run.run run = some (result, after) ∧
      (factory.sourceType = type → result = .ok ()) := by
  unfold insistWire at ran
  rw [ExceptT.run_mk, StateT.run_bind, Option.bind_eq_bind, Option.bind_eq_some_iff] at ran
  obtain ⟨⟨ended | ended, middle⟩, wired, ran⟩ := ran
  · dsimp only at ran
    split at ran
    · cases ran
    · next other =>
        cases ran
        exact ⟨wired, fun same => absurd same other⟩
  · cases ran
    exact ⟨wired, fun _ => rfl⟩

/-- What comes to its end while nodes can be filled ends the same way otherwise. -/
theorem simulatesRecur_insistNode (engine : Engine) (type : String) (fuel : Nat) :
    SimulatesRecur Eq (engine.insistNode type fuel) (engine.transformNode fuel) := by
  induction fuel with
  | zero =>
      intro foreign parent run other answer after related ended
      cases ended
  | succ fuel ih =>
      intro foreign parent
      have follows := engine.follows_eq
      refine simulates_andThen (simulates_lift (follows.factoryFor foreign)) fun found => ?_
      cases found with
      | none => exact follows.substituteGeneric foreign parent
      | some factory =>
          refine simulates_get_andThen fun run other related => ?_
          rw [related]
          refine simulates_andThen (simulates_lift ?_) fun made => ?_
          · exact simulates_program (follows.answerBuild ih)
              (factory.construct foreign factory.rules)
          · match made with
            | .ok none => exact simulates_ok none
            | .ok (some node) =>
                refine simulates_andThen (simulates_lift (follows.adopts node foreign parent))
                  fun _ => ?_
                have wired : Simulates Eq
                    (engine.insistWire type (engine.insistNode type fuel) factory foreign node).run
                    (engine.wire (engine.transformNode fuel) factory foreign node).run := by
                  intro run other answer after related ended
                  exact (follows.tracks anything).wire ih trivial foreign node run other answer
                    after related (run_insistWire_eq_some ended).1
                refine simulates_andThen wired fun _ => ?_
                refine simulates_andThen (follows.runHook factory foreign node) fun _ => ?_
                exact simulates_ok (some node)
            | .error (.factory message) =>
                dsimp only
                split
                · exact follows.substituteError _ message foreign parent
                · exact simulates_throw _
            | .error (.unexpectedCollection _) | .error (.unexpectedValue _ _)
            | .error (.unmappedType _) | .error (.duplicateFactory _)
            | .error (.unknownChildRule _ _) | .error (.edit _) => exact simulates_throw _

section

variable {α β : Type}

/-- Where `first` succeeds, so does `second`, and in the same way; where `first` fails, its
error lasts. -/
def Upholds (engine : Engine) (first second : EngineM α) : Prop :=
  ∀ run answer after, engine.Tidy run → first.run.run run = some (answer, after) →
    engine.Tidy after ∧
      match answer with
      | .ok _ => second.run.run run = some (answer, after)
      | .error error => engine.config.Lasting error

theorem upholds_ok (answer : α) : engine.Upholds (pure answer) (pure answer) := by
  intro run result after tidy ended
  cases ended
  exact ⟨tidy, rfl⟩

theorem upholds_throw {error : TransformError} (lasting : engine.config.Lasting error)
    (second : EngineM α) : engine.Upholds (throw error) second := by
  intro run result after tidy ended
  cases ended
  exact ⟨tidy, lasting⟩

theorem upholds_andThen {first second : EngineM α} {next following : α → EngineM β}
    (here : engine.Upholds first second)
    (later : ∀ answer, engine.Upholds (next answer) (following answer)) :
    engine.Upholds (first >>= next) (second >>= following) := by
  intro run result after tidy ended
  rcases run_bind_eq_some_iff.mp ended with ⟨answer, middle, begun, ended⟩ | ⟨error, begun, rfl⟩
  · obtain ⟨tidy, alike⟩ := here run _ middle tidy begun
    obtain ⟨tidy, alikeAfter⟩ := later answer middle result after tidy ended
    refine ⟨tidy, ?_⟩
    cases result with
    | error error => exact alikeAfter
    | ok result => exact (run_bind_of_ok alike).trans alikeAfter
  · exact here run _ after tidy begun

theorem congruent_upholds (engine : Engine) :
    Congruent fun computation : Bool → EngineM _ =>
      engine.Upholds (computation true) (computation false) where
  done answer := upholds_ok answer
  failed uncontained := upholds_throw (fun _ => uncontained) _
  andThen here later := upholds_andThen here later

theorem upholds_self {computation : EngineM α}
    (kept : Simulates engine.SameTidy computation.run computation.run)
    (lasting : ∀ run error after, computation.run.run run = some (.error error, after) →
      engine.config.Lasting error) : engine.Upholds computation computation := by
  intro run answer after tidy ended
  refine ⟨tidy.of_simulates kept ended, ?_⟩
  cases answer with
  | ok answer => exact ended
  | error error => exact lasting run error after ended

theorem upholds_of_avoids {computation : EngineM α}
    (kept : Simulates engine.SameTidy computation.run computation.run)
    (avoids : ∀ message, Avoids message computation.run) :
    engine.Upholds computation computation := by
  refine upholds_self kept fun run error after ended _ => ?_
  cases error with
  | factory message => exact absurd ended (avoids message run after)
  | unexpectedCollection | unexpectedValue | unmappedType | duplicateFactory | unknownChildRule
  | edit => rfl

theorem upholds_lift {step : RunM α} (kept : Simulates engine.SameTidy step step) :
    engine.Upholds (liftM step) (liftM step) :=
  upholds_of_avoids (simulates_lift kept) fun _ => avoids_lift step

/-- Whatever `first` answers, `second` answers too, unless `first` ends with an error that
lasts. -/
def Attends (engine : Engine) (first second : RunM (Except TransformError α)) : Prop :=
  ∀ run answer after, engine.Tidy run → first.run run = some (answer, after) →
    engine.Tidy after ∧
      (second.run run = some (answer, after) ∨
        ∃ error, answer = .error error ∧ engine.config.Lasting error)

theorem Upholds.attends {first second : EngineM α} (upholds : engine.Upholds first second) :
    engine.Attends first.run second.run := by
  intro run answer after tidy ended
  obtain ⟨tidy, alike⟩ := upholds run answer after tidy ended
  refine ⟨tidy, ?_⟩
  cases answer with
  | ok answer => exact .inl alike
  | error error => exact .inr ⟨error, rfl, alike⟩

theorem Attends.andThen {first second : RunM (Except TransformError α)}
    {next following : Except TransformError α → EngineM β} (here : engine.Attends first second)
    (stops : ∀ error, engine.config.Lasting error → next (.error error) = throw error)
    (later : ∀ answer, engine.Upholds (next answer) (following answer)) :
    engine.Upholds (liftM first >>= next) (liftM second >>= following) := by
  intro run result after tidy ended
  obtain ⟨answer, middle, begun, ended⟩ := run_lift_bind_eq_some ended
  obtain ⟨tidy, alike | ⟨error, rfl, lasting⟩⟩ := here run answer middle tidy begun
  · obtain ⟨tidy, alikeAfter⟩ := later answer middle result after tidy ended
    refine ⟨tidy, ?_⟩
    cases result with
    | error error => exact alikeAfter
    | ok result => exact (run_lift_bind alike).trans alikeAfter
  · rw [stops error lasting] at ended
    cases ended
    exact ⟨tidy, lasting⟩

end

namespace Orderly

variable (orderly : engine.Orderly)
include orderly

theorem upholds_edit (change : Edit) : engine.Upholds (edit change) (edit change) :=
  upholds_of_avoids (orderly.shares.compatible.simulates_edit change) fun _ => avoids_edit change

theorem upholds_runHook {factory : Factory} (handsOn : factory.HandsOn engine.config)
    (foreign : ForeignNode) (node : NodeId) :
    engine.Upholds (engine.runHook factory foreign node)
      (engine.runHook factory foreign node) := by
  refine upholds_self (orderly.shares.runHook factory foreign node) fun run error after ended => ?_
  unfold runHook at ended
  cases isHook : factory.finish with
  | none =>
      rw [isHook] at ended
      cases ended
  | some hook =>
      rw [isHook] at ended
      exact (handsOn.finishes hook isHook node foreign).of_run ended

section

variable (recursive : ∀ foreign parent,
  engine.Upholds (recur foreign parent) (following foreign parent))
include recursive

/-- An answer is the same, unless it is an error that lasts. -/
theorem answerBuild_of_upholds {run after : Run} (tidy : engine.Tidy run)
    (request : BuildRequest) {answer : request.Answer}
    (answered : (engine.answerBuild recur request).run run = some (answer, after)) :
    engine.Tidy after ∧
      ((engine.answerBuild following request).run run = some (answer, after) ∨
        ∃ error, request.failure? answer = some error ∧ engine.config.Lasting error) := by
  have congruent := congruent_upholds engine
  match request with
  | .transform value parent =>
      obtain ⟨tidy, alike⟩ := (congruent.transformValue (bif · then recur else following)
        recursive value parent).attends run answer after tidy answered
      exact ⟨tidy, alike.imp_right fun ⟨error, failed, lasting⟩ => ⟨error, failed ▸ rfl, lasting⟩⟩
  | .transformList value parent =>
      obtain ⟨tidy, alike⟩ := (congruent.transformAll (bif · then recur else following)
        recursive value parent).attends run answer after tidy answered
      exact ⟨tidy, alike.imp_right fun ⟨error, failed, lasting⟩ => ⟨error, failed ▸ rfl, lasting⟩⟩
  | .transformNode foreign parent =>
      obtain ⟨tidy, alike⟩ := (recursive foreign parent).attends run answer after tidy answered
      exact ⟨tidy, alike.imp_right fun ⟨error, failed, lasting⟩ => ⟨error, failed ▸ rfl, lasting⟩⟩
  | .tree request =>
      have kept := orderly.shares.compatible.simulates_answerTree request
      exact ⟨tidy.of_simulates kept answered, .inl answered⟩
  | .addIssue issue =>
      have kept := orderly.shares.compatible.simulates_report issue
      exact ⟨tidy.of_simulates kept answered, .inl answered⟩
  | .config | .issues | .takeIssues =>
      cases answered
      exact ⟨⟨tidy.typed, tidy.recalls⟩, .inl rfl⟩

theorem attends_program {α : Type} {program : Construction α} (handsOn : program.HandsOn) :
    engine.Attends (program.run (engine.answerBuild recur))
      (program.run (engine.answerBuild following)) := by
  have kept : SimulatesRecur engine.SameTidy recur recur := by
    intro foreign parent run _ answer after related ended
    obtain ⟨rfl, typed, recalls⟩ := related
    obtain ⟨tidy, _⟩ := recursive foreign parent _ answer after ⟨typed, recalls⟩ ended
    exact ⟨after, ended, rfl, tidy.typed, tidy.recalls⟩
  induction handsOn with
  | done result =>
      intro run answer after tidy ended
      exact ⟨by cases ended; exact tidy, .inl ended⟩
  | fail error =>
      intro run answer after tidy ended
      exact ⟨by cases ended; exact tidy, .inl ended⟩
  | @ask request next stops later ih =>
      intro run answer after tidy ended
      obtain ⟨⟨reply, middle⟩, answered, ended⟩ := Option.bind_eq_some_iff.mp ended
      obtain ⟨tidy, alike | ⟨error, failed, lasting⟩⟩ :=
        orderly.answerBuild_of_upholds recursive tidy request answered
      · obtain ⟨tidy, alikeAfter⟩ := ih reply middle answer after tidy ended
        refine ⟨tidy, alikeAfter.imp_left fun ended => ?_⟩
        exact Option.bind_eq_some_iff.mpr ⟨(reply, middle), alike, ended⟩
      · -- The program may still tidy up, but the error stays the same.
        obtain ⟨_, stopped⟩ := run_of_propagates (stops reply error failed) engine recur middle
        have tidied := simulates_program (orderly.shares.answerBuild kept) (next reply)
        refine ⟨tidy.of_simulates tidied ended, .inr ⟨error, ?_, lasting⟩⟩
        exact congrArg Prod.fst (Option.some.inj (ended.symm.trans stopped))

theorem upholds_wire {factory : Factory}
    (registered : engine.factories.get? factory.sourceType = some factory)
    (foreign : ForeignNode) (node : NodeId) :
    engine.Upholds (engine.wire recur factory foreign node)
      (engine.wire following factory foreign node) := by
  intro run answer after tidy ended
  unfold wire at ended ⊢
  rw [run_get_bind] at ended ⊢
  cases kind : run.forest.concept? node with
  | none =>
      rw [kind] at ended
      exact upholds_ok () run answer after tidy ended
  | some concept =>
      rw [kind] at ended
      by_cases filled : (!factory.skipChildren && !concept.isPlaceholder) = true
      · have proper : concept.isPlaceholder = false := by simp_all
        obtain ⟨memo, planned, tidy⟩ := orderly.plan tidy registered kind proper
        simp only [filled, if_true] at ended ⊢
        rw [run_lift_bind planned] at ended ⊢
        exact (congruent_upholds engine).assignAll (bif · then recur else following) recursive
          orderly.upholds_edit node concept.name foreign _ _ answer after tidy ended
      · simp only [filled] at ended ⊢
        exact upholds_ok () run answer after tidy ended

theorem upholds_insistWire {factory : Factory}
    (registered : engine.factories.get? factory.sourceType = some factory)
    (foreign : ForeignNode) (node : NodeId) :
    engine.Upholds (engine.wire recur factory foreign node)
      (engine.insistWire type following factory foreign node) := by
  intro run answer after tidy ended
  obtain ⟨tidy, alike⟩ :=
    orderly.upholds_wire recursive registered foreign node run answer after tidy ended
  refine ⟨tidy, ?_⟩
  cases answer with
  | error error => exact alike
  | ok done =>
      unfold insistWire
      rw [ExceptT.run_mk, StateT.run_bind, alike]
      rfl

theorem upholds_insistFor {factory : Factory} (handsOn : factory.HandsOn engine.config)
    (registered : engine.factories.get? factory.sourceType = some factory)
    (foreign : ForeignNode) (parent : Option NodeId) :
    engine.Upholds (engine.transformFor engine.adopt recur factory foreign parent)
      (engine.insistFor type engine.adopt following factory foreign parent) := by
  intro run result after tidy ended
  unfold transformFor at ended
  unfold insistFor
  rw [run_get_bind] at ended ⊢
  have constructed := orderly.attends_program recursive (handsOn.constructs foreign)
  refine constructed.andThen (fun error lasting => ?_) (fun made => ?_) run result after tidy ended
  · -- A lasting error goes up from here, whatever the constructor was answered.
    cases error with
    | factory message =>
        have uncontained : ¬ engine.config.containFailures = true := fun contained => by
          cases lasting contained
        dsimp only
        rw [if_neg uncontained]
    | unexpectedCollection | unexpectedValue | unmappedType | duplicateFactory
    | unknownChildRule | edit => rfl
  · match made with
    | .ok none => exact upholds_ok none
    | .ok (some node) =>
        refine upholds_andThen (upholds_lift (orderly.shares.adopts node foreign parent))
          fun _ => ?_
        refine upholds_andThen (orderly.upholds_insistWire recursive registered foreign node)
          fun _ => ?_
        refine upholds_andThen (orderly.upholds_runHook handsOn foreign node) fun _ => ?_
        exact upholds_ok (some node)
    | .error (.factory message) =>
        dsimp only
        split
        · exact upholds_of_avoids
            (orderly.shares.substituteError _ message foreign parent)
            fun _ => avoids_substituteError _ _ message foreign parent
        · next uncontained => exact upholds_throw (fun contained => absurd contained uncontained) _
    | .error (.unexpectedCollection _) | .error (.unexpectedValue _ _)
    | .error (.unmappedType _) | .error (.duplicateFactory _)
    | .error (.unknownChildRule _ _) | .error (.edit _) => exact upholds_throw (fun _ => rfl) _

theorem upholds_insistWith (handsOn : engine.HandsOn) (foreign : ForeignNode)
    (parent : Option NodeId) :
    engine.Upholds (engine.transformWith engine.adopt recur foreign parent)
      (engine.insistWith type engine.adopt following foreign parent) := by
  intro run result after tidy ended
  obtain ⟨found, memo, looked, isFound, tidy⟩ := orderly.factory tidy foreign
  rw [transformWith_eq, run_lift_bind looked] at ended
  unfold insistWith
  rw [run_lift_bind looked]
  cases found with
  | none =>
      exact upholds_of_avoids (orderly.shares.substituteGeneric foreign parent)
        (fun _ => avoids_substituteGeneric engine.adopt foreign parent) _ result after tidy ended
  | some factory =>
      have registered := isFound factory rfl
      exact orderly.upholds_insistFor recursive (handsOn _ factory registered) registered foreign
        parent _ result after tidy ended

end

theorem upholds_insistNode (handsOn : engine.HandsOn) (fuel : Nat) (foreign : ForeignNode)
    (parent : Option NodeId) :
    engine.Upholds (engine.transformNode fuel foreign parent)
      (engine.insistNode type fuel foreign parent) := by
  induction fuel generalizing foreign parent with
  | zero =>
      intro run answer after tidy ended
      cases ended
  | succ fuel ih => exact orderly.upholds_insistWith ih handsOn foreign parent

end Orderly

end Engine

namespace Transformer

variable {transformer : Transformer} {forest : Forest} {type : String} {fuel : Nat}
  {value : ForeignValue} {parent : Option NodeId} {outcome : Outcome (Option NodeId)}

theorem transform_of_insist
    (ended : transformer.perform forest (·.insist type fuel value parent) = some outcome) :
    transformer.transform fuel forest value parent = some outcome :=
  perform_of_watched ((transformer.engine.simulatesRecur_insistNode type fuel).transformValue
    value parent) ended

/-- A call that succeeds needs no node that cannot be filled, if errors are handed on. -/
theorem insist_of_transform {made : Option NodeId} (orderly : transformer.engine.Orderly)
    (tidy : transformer.engine.Tidy ⟨forest, transformer.issues, transformer.memo⟩)
    (handsOn : transformer.engine.HandsOn) (succeeds : outcome.result = .ok made)
    (ended : transformer.transform fuel forest value parent = some outcome) :
    transformer.perform forest (·.insist type fuel value parent) = some outcome := by
  obtain ⟨run, ran, same⟩ := perform_eq_some ended
  have upheld := (Engine.congruent_upholds transformer.engine).transformValue
    (bif · then transformer.engine.transformNode fuel else transformer.engine.insistNode type fuel)
    (orderly.upholds_insistNode handsOn fuel) value parent
  rw [succeeds] at ran
  obtain ⟨_, insisted⟩ := upheld _ _ _ tidy ran
  rw [same, succeeds]
  exact perform_of_ran insisted

theorem handsOn_new (schema : Schema) (config : TransformConfig) (source : Option Source) :
    (new schema config source).engine.HandsOn := fun _ _ registered => by cases registered

theorem handsOn_register {after : Transformer} {factory : Factory}
    (handsOn : transformer.engine.HandsOn)
    (also : factory.HandsOn transformer.engine.config)
    (registered : transformer.register factory = .ok after) : after.engine.HandsOn := by
  obtain rfl := register_eq_ok registered
  intro name found looked
  rw [Registry.get?_insert] at looked
  split at looked
  · cases looked
    exact also
  · exact handsOn name found looked

/-- Registers factories one by one. -/
def registerAll (transformer : Transformer) (factories : List Factory) :
    Except TransformError Transformer :=
  factories.foldlM register transformer

theorem registerAll_cons_eq_ok {after : Transformer} {factory : Factory}
    {rest : List Factory} (registered : transformer.registerAll (factory :: rest) = .ok after) :
    ∃ begun, transformer.register factory = .ok begun ∧ begun.registerAll rest = .ok after := by
  rw [registerAll, List.foldlM_cons] at registered
  cases isBegun : transformer.register factory with
  | error reason =>
      rw [isBegun] at registered
      cases registered
  | ok begun =>
      rw [isBegun] at registered
      exact ⟨begun, rfl, registered⟩

theorem handsOn_registerAll {after : Transformer} {factories : List Factory}
    (handsOn : transformer.engine.HandsOn)
    (also : ∀ factory ∈ factories, factory.HandsOn transformer.engine.config)
    (registered : transformer.registerAll factories = .ok after) : after.engine.HandsOn := by
  induction factories generalizing transformer with
  | nil =>
      cases registered
      exact handsOn
  | cons factory rest ih =>
      obtain ⟨begun, isBegun, registered⟩ := registerAll_cons_eq_ok registered
      obtain ⟨here, others⟩ := List.forall_mem_cons.mp also
      have config : begun.engine.config = transformer.engine.config := by
        rw [register_eq_ok isBegun]
      exact ih (handsOn_register handsOn here isBegun) (config ▸ others) registered

end Transformer

end TypedTree
