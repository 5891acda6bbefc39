import TypedTree.Proofs.Transform.Lookup
import TypedTree.Proofs.Transform.Outcomes

namespace TypedTree

/-! # Strict and lenient engines

A lenient engine puts placeholders where a strict one fails. As long as no placeholder is
needed, both do the same. Once one is needed the strict engine stops, and its error passes
through every constructor that is at work, provided that constructors hand on the errors of
what they have transformed and do not ask which kind of engine they are working for.
-/

/-- The errors with which a strict engine stops in place of a placeholder. -/
def TransformError.stopsStrict : TransformError → Bool
  | .unmappedType _ | .factory _ => true
  | .unexpectedCollection _ | .unexpectedValue _ _ | .duplicateFactory _
  | .unknownChildRule _ _ | .edit _ => false

namespace BuildRequest

/-- The error of a transformation that was asked for. -/
def failure? : (request : BuildRequest) → request.Answer → Option TransformError
  | .transform _ _, .error error => some error
  | .transformList _ _, .error error => some error
  | .transformNode _ _, .error error => some error
  | _, _ => none

/-- Requests that neither have anything transformed nor ask for the configuration. -/
def isPlain : BuildRequest → Bool
  | .tree _ | .addIssue _ | .issues | .takeIssues => true
  | .config | .transform _ _ | .transformList _ _ | .transformNode _ _ => false

end BuildRequest

namespace Construction

variable {α : Type}

/-- The program may still tidy up, and ends with `error`. -/
def Propagates (error : TransformError) : Construction α → Prop
  | .done _ => False
  | .fail reason => reason = error
  | .ask request next => request.isPlain = true ∧ ∀ answer, Propagates error (next answer)

/-- The program does not ask for the configuration, and hands on every error of what it has
transformed. -/
def Forthright : Construction α → Prop
  | .done _ | .fail _ => True
  | .ask request next =>
      request ≠ .config ∧ ∀ answer,
        match request.failure? answer with
        | some error => Propagates error (next answer)
        | none => Forthright (next answer)

end Construction

def Factory.Forthright (factory : Factory) : Prop :=
  ∀ foreign, Construction.Forthright (factory.construct foreign factory.rules)

/-- All factories that are remembered are known. -/
abbrev Memo.Knows (known : Factory → Prop) : Memo → Prop :=
  Memo.Finds fun _ found => ∀ factory ∈ found, known factory

namespace Engine

/-- A lenient engine, one that is watched to see whether it needs a placeholder, and a
strict one. -/
inductive Mode where
  | lenient
  | unaided
  | strict

namespace Mode

def config : Mode → TransformConfig
  | .lenient | .unaided => .lenient
  | .strict => .strict

def rule : Mode → Event → Bool
  | .lenient | .strict => anything
  | .unaided => fun event => !event.isSubstituted

end Mode

def inMode (engine : Engine) (mode : Mode) : Engine := { engine with config := mode.config }

theorem factoryFor_inMode (engine : Engine) (mode : Mode) :
    (engine.inMode mode).factoryFor = engine.factoryFor := rfl

theorem planFor_inMode (engine : Engine) (mode : Mode) :
    (engine.inMode mode).planFor = engine.planFor := rfl

theorem runHook_inMode (engine : Engine) (mode : Mode) :
    (engine.inMode mode).runHook = engine.runHook := rfl

variable {α β : Type} {known : Factory → Prop}

/-- The three runs are the same, or the lenient one needs a placeholder and the strict one
stops. -/
def Parallel (known : Factory → Prop) (computation : Mode → RunM (Except TransformError α)) :
    Prop :=
  ∀ run : Run, run.memo.Knows known →
    (∃ ended, (∀ mode, (computation mode).run run = ended) ∧
      ∀ answer after, ended = some (answer, after) → after.memo.Knows known) ∨
    (computation .unaided).run run = none ∧
      ∃ error after, (computation .strict).run run = some (.error error, after) ∧
        error.stopsStrict = true

theorem parallel_const {computation : RunM (Except TransformError α)}
    (keeps : ∀ run answer after, run.memo.Knows known →
      computation.run run = some (answer, after) → after.memo.Knows known) :
    Parallel known fun _ => computation :=
  fun run knows => Or.inl
    ⟨computation.run run, fun _ => rfl, fun answer after => keeps run answer after knows⟩

theorem parallel_pure (answer : Except TransformError α) :
    Parallel known fun _ => pure answer := by
  refine parallel_const fun run answer after knows same => ?_
  cases same
  exact knows

/-- What all three do alike; what is known of its answers may be used afterwards. -/
theorem parallel_step_of {step : RunM α} {next : Mode → α → RunM (Except TransformError β)}
    {fact : α → Prop}
    (keeps : ∀ run answer after, run.memo.Knows known → step.run run = some (answer, after) →
      fact answer ∧ after.memo.Knows known)
    (later : ∀ answer, fact answer → Parallel known fun mode => next mode answer) :
    Parallel known fun mode => step >>= next mode := by
  intro run knows
  cases stepped : step.run run with
  | none =>
      refine Or.inl ⟨none, fun mode => ?_, nofun⟩
      rw [StateT.run_bind, stepped]
      rfl
  | some result =>
      obtain ⟨answer, middle⟩ := result
      obtain ⟨isFact, knowsMiddle⟩ := keeps run answer middle knows stepped
      have rest (mode : Mode) : (step >>= next mode).run run = (next mode answer).run middle := by
        rw [StateT.run_bind, stepped]
        rfl
      simp only [rest]
      exact later answer isFact middle knowsMiddle

theorem parallel_step {step : RunM α} {next : Mode → α → RunM (Except TransformError β)}
    (keeps : ∀ run answer after, run.memo.Knows known → step.run run = some (answer, after) →
      after.memo.Knows known)
    (later : ∀ answer, Parallel known fun mode => next mode answer) :
    Parallel known fun mode => step >>= next mode :=
  parallel_step_of
    (fun run answer after knows stepped => ⟨trivial, keeps run answer after knows stepped⟩)
    fun answer _ => later answer

theorem Parallel.bind {first : Mode → RunM (Except TransformError α)}
    {next : Mode → Except TransformError α → RunM (Except TransformError β)}
    (here : Parallel known first)
    (later : ∀ answer, Parallel known fun mode => next mode answer)
    (stops : ∀ error, error.stopsStrict = true → ∀ run, ∃ after,
      (next .strict (.error error)).run run = some (.error error, after)) :
    Parallel known fun mode => first mode >>= next mode := by
  intro run knows
  rcases here run knows with same | diverged
  · obtain ⟨ended, same, knowsAfter⟩ := same
    cases ended with
    | none =>
        refine Or.inl ⟨none, fun mode => ?_, nofun⟩
        rw [StateT.run_bind, same mode]
        rfl
    | some result =>
        obtain ⟨answer, middle⟩ := result
        have rest (mode : Mode) :
            (first mode >>= next mode).run run = (next mode answer).run middle := by
          rw [StateT.run_bind, same mode]
          rfl
        simp only [rest]
        exact later answer middle (knowsAfter answer middle rfl)
  · obtain ⟨unaided, error, middle, stopped, kind⟩ := diverged
    obtain ⟨after, ended⟩ := stops error kind middle
    refine Or.inr ⟨?_, error, after, ?_, kind⟩
    · rw [StateT.run_bind, unaided]
      rfl
    · rw [StateT.run_bind, stopped]
      exact ended

theorem parallel_lift {step : RunM α}
    (keeps : ∀ run answer after, run.memo.Knows known → step.run run = some (answer, after) →
      after.memo.Knows known) :
    Parallel known fun _ => (liftM step : EngineM α).run := by
  change Parallel known fun _ => step >>= fun answer => pure (Except.ok answer)
  exact parallel_step keeps fun answer => parallel_pure (.ok answer)

theorem congruent_parallel (known : Factory → Prop) :
    Congruent fun computation : Mode → EngineM _ =>
      Parallel known fun mode => (computation mode).run where
  done answer := parallel_pure (.ok answer)
  failed _ := parallel_pure (.error _)
  andThen here later := by
    refine Parallel.bind here (fun answer => ?_) fun error _ run => ⟨run, rfl⟩
    cases answer with
    | ok answer => exact later answer
    | error error => exact parallel_pure (.error error)

section

variable {schema : Schema} {run after : Run}

theorem memo_of_finishing {program : Finishing α} {answer : Except TransformError α}
    (ran : (program.run (answerTree schema)).run run = some (answer, after)) :
    after.memo = run.memo := by
  induction program generalizing run with
  | done result =>
      cases ran
      rfl
  | fail error =>
      cases ran
      rfl
  | ask request next ih =>
      rw [Program.run, StateT.run_bind] at ran
      obtain ⟨⟨reply, middle⟩, answered, ran⟩ := Option.bind_eq_some_iff.mp ran
      obtain ⟨forest, rfl⟩ := forest_of_answerTree answered
      have later := ih reply ran
      exact later

theorem memo_of_plain {engine : Engine} {recur : Recur} {request : BuildRequest}
    {answer : request.Answer} (plain : request.isPlain = true)
    (answered : (engine.answerBuild recur request).run run = some (answer, after)) :
    after.memo = run.memo := by
  cases request with
  | tree request =>
      obtain ⟨forest, rfl⟩ := forest_of_answerTree answered
      rfl
  | addIssue issue =>
      cases answered
      rfl
  | issues =>
      cases answered
      rfl
  | takeIssues =>
      cases answered
      rfl
  | _ => cases plain

end

section

variable {engine : Engine} {recur : Mode → Recur}

theorem parallel_edit (change : Edit) : Parallel known fun _ => (edit change).run := by
  refine parallel_step (fun run answer after knows applied => ?_) fun answer => parallel_pure _
  obtain ⟨forest, rfl⟩ := forest_of_applyEdit applied
  exact knows

theorem exists_answer_of_plain {recur : Recur} {request : BuildRequest}
    (plain : request.isPlain = true) (run : Run) :
    ∃ answer after, (engine.answerBuild recur request).run run = some (answer, after) := by
  cases request with
  | tree request => cases request <;> exact ⟨_, _, rfl⟩
  | addIssue issue => exact ⟨_, _, rfl⟩
  | issues => exact ⟨_, _, rfl⟩
  | takeIssues => exact ⟨_, _, rfl⟩
  | _ => cases plain

theorem answerBuild_of_plain {request : BuildRequest} (plain : request.isPlain = true)
    (mode : Mode) :
    (engine.inMode mode).answerBuild (recur mode) request =
      engine.answerBuild (recur .strict) request := by
  cases request with
  | tree request => rfl
  | addIssue issue => rfl
  | issues => rfl
  | takeIssues => rfl
  | _ => cases plain

theorem parallel_plain {request : BuildRequest} (plain : request.isPlain = true)
    {next : request.Answer → Construction α}
    (later : ∀ answer, Parallel known fun mode =>
      (next answer).run ((engine.inMode mode).answerBuild (recur mode))) :
    Parallel known fun mode =>
      (Program.ask request next).run ((engine.inMode mode).answerBuild (recur mode)) := by
  simp only [Program.run, answerBuild_of_plain plain]
  refine parallel_step (fun run answer after knows answered => ?_) later
  rwa [memo_of_plain plain answered]

theorem run_of_propagates {error : TransformError} {program : Construction α}
    (propagates : Construction.Propagates error program) (engine : Engine) (recur : Recur)
    (run : Run) :
    ∃ after, (program.run (engine.answerBuild recur)).run run = some (.error error, after) := by
  induction program generalizing run with
  | done result => exact propagates.elim
  | fail reason => exact ⟨run, by rw [show reason = error from propagates]; rfl⟩
  | ask request next ih =>
      obtain ⟨plain, each⟩ := propagates
      obtain ⟨answer, middle, answered⟩ := exists_answer_of_plain plain run
      obtain ⟨after, ended⟩ := ih answer (each answer) middle
      refine ⟨after, ?_⟩
      rw [Program.run, StateT.run_bind, answered]
      exact ended

theorem parallel_of_propagates {error : TransformError} {program : Construction α}
    (propagates : Construction.Propagates error program) :
    Parallel known fun mode =>
      program.run ((engine.inMode mode).answerBuild (recur mode)) := by
  induction program with
  | done result => exact parallel_pure _
  | fail reason => exact parallel_pure _
  | ask request next ih =>
      exact parallel_plain propagates.1 fun answer => ih answer (propagates.2 answer)

/-- A constructor goes on with what it had transformed, or hands on the error. -/
theorem Parallel.nested {first : Mode → RunM (Except TransformError β)}
    (here : Parallel known first) {next : Except TransformError β → Construction α}
    (later : ∀ answer, Parallel known fun mode =>
      (next (.ok answer)).run ((engine.inMode mode).answerBuild (recur mode)))
    (handsOn : ∀ error, Construction.Propagates error (next (.error error))) :
    Parallel known fun mode => first mode >>= fun answer =>
      (next answer).run ((engine.inMode mode).answerBuild (recur mode)) := by
  refine here.bind (fun answer => ?_) fun error _ run => run_of_propagates (handsOn error) _ _ run
  cases answer with
  | ok answer => exact later answer
  | error error => exact parallel_of_propagates (handsOn error)

variable (recursive : ∀ foreign parent, Parallel known fun mode => (recur mode foreign parent).run)
include recursive

theorem parallel_of_forthright {program : Construction α}
    (forthright : Construction.Forthright program) :
    Parallel known fun mode =>
      program.run ((engine.inMode mode).answerBuild (recur mode)) := by
  have congruent := congruent_parallel known
  induction program with
  | done result => exact parallel_pure _
  | fail reason => exact parallel_pure _
  | ask request next ih =>
      obtain ⟨unconfigured, each⟩ := forthright
      cases request with
      | tree request => exact parallel_plain rfl fun answer => ih answer (each answer)
      | addIssue issue => exact parallel_plain rfl fun answer => ih answer (each answer)
      | issues => exact parallel_plain rfl fun answer => ih answer (each answer)
      | takeIssues => exact parallel_plain rfl fun answer => ih answer (each answer)
      | config => exact absurd rfl unconfigured
      | transform value parent =>
          exact Parallel.nested (congruent.transformValue recur recursive value parent)
            (fun answer => ih (.ok answer) (each (.ok answer))) fun error => each (.error error)
      | transformList value parent =>
          exact Parallel.nested (congruent.transformAll recur recursive value parent)
            (fun answer => ih (.ok answer) (each (.ok answer))) fun error => each (.error error)
      | transformNode foreign parent =>
          exact Parallel.nested (recursive foreign parent)
            (fun answer => ih (.ok answer) (each (.ok answer))) fun error => each (.error error)

omit recursive in
theorem parallel_get {next : Mode → Run → EngineM α}
    (later : ∀ run, Parallel known fun mode => (next mode run).run) :
    Parallel known fun mode => (get >>= next mode : EngineM α).run :=
  fun run knows => later run run knows

omit recursive in
theorem parallel_lift_andThen_of {step : RunM α} {next : Mode → α → EngineM β} {fact : α → Prop}
    (keeps : ∀ run answer after, run.memo.Knows known → step.run run = some (answer, after) →
      fact answer ∧ after.memo.Knows known)
    (later : ∀ answer, fact answer → Parallel known fun mode => (next mode answer).run) :
    Parallel known fun mode => (liftM step >>= next mode : EngineM β).run := by
  change Parallel known fun mode => (ExceptT.lift step >>= next mode).run
  simp only [ExceptT.run_bind_lift]
  exact parallel_step_of keeps later

omit recursive in
theorem parallel_runHook (factory : Factory) (foreign : ForeignNode) (node : NodeId) :
    Parallel known fun mode => ((engine.inMode mode).runHook factory foreign node).run := by
  simp only [runHook_inMode]
  refine parallel_const fun run answer after knows ran => ?_
  unfold runHook at ran
  cases hooked : factory.finish with
  | none =>
      rw [hooked] at ran
      cases ran
      exact knows
  | some hook =>
      rw [hooked] at ran
      rwa [memo_of_finishing ran]

omit recursive in
theorem parallel_heed {event : Event} (allowed : ∀ mode : Mode, mode.rule event = true) :
    Parallel known fun mode => (liftM (heed mode.rule event) : EngineM Unit).run := by
  have unnoticed (mode : Mode) : heed mode.rule event = pure () := if_pos (allowed mode)
  simp only [unnoticed]
  exact parallel_pure (.ok ())

theorem parallel_wire (memoized : engine.lookups = .memoized) (factory : Factory)
    (foreign : ForeignNode) (node : NodeId) :
    Parallel known fun mode =>
      ((engine.inMode mode).wire (recur mode) factory foreign node).run := by
  have congruent := congruent_parallel known
  refine parallel_get fun run => ?_
  cases run.forest.concept? node with
  | none => exact parallel_pure _
  | some concept =>
      by_cases filled : (!factory.skipChildren && !concept.isPlaceholder) = true
      · simp only [filled, if_true, planFor_inMode]
        refine congruent.andThen (parallel_lift fun run plan after knows planned => ?_)
          fun plan => congruent.assignAll recur recursive parallel_edit node _ foreign plan
        have remembered := congrArg (·.2.memo.factories) (Option.some.inj planned)
        dsimp only at remembered
        rw [memoized, Lookups.factories_memoized_plan] at remembered
        rwa [Memo.Knows, Memo.Finds, ← remembered]
      · simp only [filled]
        exact parallel_pure _

omit recursive in
theorem knows_factoryFor {foreign : ForeignNode} (memoized : engine.lookups = .memoized)
    (registered : ∀ type factory, engine.factories.get? type = some factory → known factory)
    (run : Run) (found : Option Factory) (after : Run) (knows : run.memo.Knows known)
    (looked : (engine.factoryFor foreign).run run = some (found, after)) :
    (∀ factory ∈ found, known factory) ∧ after.memo.Knows known := by
  have holds : ∀ factory ∈ findFactory engine.factories foreign, known factory := by
    intro factory isFound
    obtain ⟨type, isRegistered⟩ := get?_of_findFactory isFound
    exact registered type factory isRegistered
  obtain ⟨answer, memo, stepped, foundKnown, knowsAfter, _⟩ :=
    Lookups.memoized_factory knows holds
  have ran : (engine.factoryFor foreign).run run = some (answer, { run with memo := memo }) := by
    unfold factoryFor
    rw [memoized]
    exact congrArg (fun result => some (result.1, { run with memo := result.2 })) stepped
  cases ran.symm.trans looked
  exact ⟨foundKnown, knowsAfter⟩

theorem parallel_watchWith (memoized : engine.lookups = .memoized)
    (registered : ∀ type factory, engine.factories.get? type = some factory → known factory)
    (forthright : ∀ factory, known factory → factory.Forthright)
    (foreign : ForeignNode) (parent : Option NodeId) :
    Parallel known fun mode =>
      ((engine.inMode mode).watchWith mode.rule engine.adopt (recur mode) foreign parent).run := by
  have congruent := congruent_parallel known
  have met (mode : Mode) : mode.rule (.meets foreign) = true := by cases mode <;> rfl
  refine congruent.andThen (parallel_heed met) fun _ => ?_
  simp only [factoryFor_inMode]
  refine parallel_lift_andThen_of (knows_factoryFor memoized registered) fun found isKnown => ?_
  · cases found with
    | none =>
        -- Here the watched engine has no outcome and the strict one has its error.
        exact fun run _ => Or.inr ⟨rfl, .unmappedType foreign.typeName, run, rfl, rfl⟩
    | some factory =>
        refine parallel_get fun before => ?_
        simp only [ExceptT.run_bind_lift]
        refine Parallel.bind (parallel_of_forthright recursive
          (forthright factory (isKnown factory rfl) foreign)) (fun made => ?_) fun error kind run => ?_
        · match made with
          | .ok none => exact parallel_pure _
          | .ok (some node) =>
              refine congruent.andThen (parallel_lift fun run answer after knows adopted => ?_)
                fun _ => ?_
              · cases adopted
                exact knows
              · refine congruent.andThen (parallel_wire recursive memoized factory foreign node)
                  fun _ => ?_
                have unwatched (mode : Mode) :
                    (engine.inMode mode).watchHook mode.rule factory foreign node =
                      (engine.inMode mode).runHook factory foreign node :=
                  watchHook_eq (fun _ => by cases mode <;> rfl) _ _ _ _
                simp only [unwatched]
                exact congruent.andThen (parallel_runHook factory foreign node)
                  fun _ => parallel_pure _
          | .error (.factory message) =>
              exact fun run _ => Or.inr ⟨rfl, .factory message, run, rfl, rfl⟩
          | .error (.unexpectedCollection _) | .error (.unexpectedValue _ _)
          | .error (.unmappedType _) | .error (.duplicateFactory _)
          | .error (.unknownChildRule _ _) | .error (.edit _) => exact parallel_pure _
        · cases error with
          | unmappedType type => exact ⟨run, rfl⟩
          | factory message => exact ⟨run, rfl⟩
          | _ => cases kind

end

theorem parallel_watchNode {engine : Engine} (memoized : engine.lookups = .memoized)
    (registered : ∀ type factory, engine.factories.get? type = some factory → known factory)
    (forthright : ∀ factory, known factory → factory.Forthright) (fuel : Nat)
    (foreign : ForeignNode) (parent : Option NodeId) :
    Parallel known fun mode =>
      ((engine.inMode mode).watchNode mode.rule fuel foreign parent).run := by
  induction fuel generalizing foreign parent with
  | zero =>
      refine parallel_const fun run answer after _ ended => ?_
      cases ended
  | succ fuel ih =>
      exact parallel_watchWith ih memoized registered forthright foreign parent

end Engine

namespace Transformer

variable {schema : Schema} {factories : Registry String Factory} {source : Option Source}

/-- A transformer that has these factories and has not been used yet. -/
def fresh (schema : Schema) (factories : Registry String Factory) (source : Option Source)
    (config : TransformConfig) : Transformer :=
  let new := Transformer.new schema config source
  { new with engine := { new.engine with factories := factories } }

/-- The outcome of a call that needs no placeholder. -/
def unaided (transformer : Transformer) (fuel : Nat) (forest : Forest) (value : ForeignValue)
    (parent : Option NodeId) : Option (Outcome (Option NodeId)) :=
  transformer.perform forest (·.watch (fun event => !event.isSubstituted) fuel value parent)

/-- What a call shows: its result, the forest and the issues. -/
def Outcome.seen {α : Type} (outcome : Outcome α) :
    Except TransformError α × Forest × List Issue :=
  (outcome.result, outcome.forest, outcome.transformer.issues)

theorem perform_eq_map {α : Type} (transformer : Transformer) (forest : Forest)
    (action : Engine → EngineM α) :
    transformer.perform forest action =
      ((action transformer.engine).run.run ⟨forest, transformer.issues, transformer.memo⟩).map
        fun ended => ⟨ended.1, ended.2.forest,
          { transformer with issues := ended.2.issues, memo := ended.2.memo }⟩ :=
  Option.map_eq_bind.symm

/-- Without a placeholder all calls show the same, and else the strict call stops. -/
theorem same_or_stopped
    (forthright : ∀ type factory, factories.get? type = some factory → factory.Forthright)
    (fuel : Nat) (forest : Forest) (value : ForeignValue) (parent : Option NodeId) :
    (∃ outcome,
      (fresh schema factories source .lenient).transform fuel forest value parent = outcome ∧
      (fresh schema factories source .lenient).unaided fuel forest value parent = outcome ∧
      ((fresh schema factories source .strict).transform fuel forest value parent).map
        Outcome.seen = outcome.map Outcome.seen) ∨
    (fresh schema factories source .lenient).unaided fuel forest value parent = none ∧
      ∃ failed error,
        (fresh schema factories source .strict).transform fuel forest value parent =
          some failed ∧ failed.result = .error error ∧ error.stopsStrict = true := by
  let engine := (fresh schema factories source .lenient).engine
  have nodes : ∀ foreign parent,
      Engine.Parallel (fun factory => ∃ type, factories.get? type = some factory) fun mode =>
        ((engine.inMode mode).watchNode mode.rule fuel foreign parent).run :=
    Engine.parallel_watchNode rfl (fun type factory registered => ⟨type, registered⟩)
      (fun factory ⟨type, registered⟩ => forthright type factory registered) fuel
  have calls := (Engine.congruent_parallel _).transformValue
    (fun mode => (engine.inMode mode).watchNode mode.rule fuel) nodes value parent
    ⟨forest, [], .empty⟩ (Memo.finds_empty _)
  simp only [transform, unaided, perform_eq_map, Engine.transform, Engine.watch,
    ← Engine.watchNode_anything]
  rcases calls with ⟨ended, same, _⟩ | ⟨unaided, error, after, stopped, kind⟩
  · refine Or.inl ⟨_, rfl, ?_, ?_⟩
    · exact congrArg (Option.map _) ((same .unaided).trans (same .lenient).symm)
    · rw [Option.map_map, Option.map_map]
      exact congrArg (Option.map _) ((same .strict).trans (same .lenient).symm)
  · refine Or.inr ⟨congrArg (Option.map _) unaided, _, error, congrArg (Option.map _) stopped,
      rfl, kind⟩

/-- A strict call succeeds exactly if the lenient call succeeds and needs no placeholder, and
then shows the same. If the lenient call needs one, the strict call fails with an unmapped
type or the failure of a factory. If it needs none, both calls show the same, also where they
fail. -/
theorem strict_iff_unaided
    (forthright : ∀ type factory, factories.get? type = some factory → factory.Forthright)
    (fuel : Nat) (forest : Forest) (value : ForeignValue) (parent : Option NodeId) :
    let lenient := (fresh schema factories source .lenient).transform fuel forest value parent
    let unaided := (fresh schema factories source .lenient).unaided fuel forest value parent
    let strict := (fresh schema factories source .strict).transform fuel forest value parent
    (∀ node after issues, strict.map Outcome.seen = some (.ok node, after, issues) ↔
      lenient.map Outcome.seen = some (.ok node, after, issues) ∧ unaided.isSome = true) ∧
    (lenient.isSome = true → unaided = none → ∃ failed, strict = some failed ∧
      ((∃ type, failed.result = .error (.unmappedType type)) ∨
        ∃ message, failed.result = .error (.factory message))) ∧
    (unaided.isSome = true →
      lenient = unaided ∧ strict.map Outcome.seen = lenient.map Outcome.seen) := by
  intro lenient unaided strict
  have outcomes : (∃ outcome, lenient = outcome ∧ unaided = outcome ∧
        strict.map Outcome.seen = outcome.map Outcome.seen) ∨
      unaided = none ∧ ∃ failed error, strict = some failed ∧
        failed.result = .error error ∧ error.stopsStrict = true :=
    same_or_stopped forthright fuel forest value parent
  clear_value lenient unaided strict
  rcases outcomes with ⟨outcome, rfl, rfl, same⟩ | ⟨rfl, failed, error, rfl, result, kind⟩
  · refine ⟨fun node after issues => ?_, fun ended needed => ?_, fun _ => ⟨rfl, same⟩⟩
    · rw [same]
      refine ⟨fun ended => ⟨ended, ?_⟩, fun ended => ended.1⟩
      obtain ⟨outcome, isOutcome, _⟩ := Option.map_eq_some_iff.mp ended
      exact Option.isSome_iff_exists.mpr ⟨outcome, isOutcome⟩
    · rw [needed] at ended
      cases ended
  · refine ⟨fun node after issues => ?_, fun _ _ => ⟨failed, rfl, ?_⟩, nofun⟩
    · refine ⟨fun ended => ?_, fun ended => by cases ended.2⟩
      have succeeded : failed.result = .ok node :=
        congrArg (fun seen : _ × _ => seen.1) (Option.some.inj ended)
      cases result.symm.trans succeeded
    · cases error with
      | unmappedType type => exact Or.inl ⟨type, result⟩
      | factory message => exact Or.inr ⟨message, result⟩
      | _ => cases kind

def wrapDecls : List ConceptDecl := [(ConceptDecl.named "Wrap").addFeature "inner" (.child "Node")]

/-- Has the content of a foreign wrapping transformed before it makes the node. -/
def wrapping : Factory where
  sourceType := "Wrap"
  construct foreign _ := do
    let content ← Construction.transform (foreign.get "inner") none
    let node ← Construction.create "Wrap"
    Construction.edit (.setChild node "inner" content)
    return some node
  rules := .empty
  skipChildren := true
  finish := none

theorem wrapping_forthright : wrapping.Forthright := by
  intro foreign
  refine And.intro nofun fun content => ?_
  cases content with
  | error error => exact rfl
  | ok content =>
      refine And.intro nofun fun created => ?_
      cases created with
      | error error => exact trivial
      | ok node =>
          refine And.intro nofun fun edited => ?_
          cases edited <;> exact trivial

def wrapped (content : ForeignValue) : ForeignValue :=
  .node (.record "Wrap" [] [("inner", content)] none none)

/-- Nothing in two wrappings, and a coin, for which there is no factory, in one. -/
theorem strict_iff_unaided_wrapped :
    ∃ schema factories, Schema.build wrapDecls = .ok schema ∧
      (∀ type factory, factories.get? type = some factory → factory.Forthright) ∧
      ((fresh schema factories none .strict).transform 3 ∅ (wrapped (wrapped .null)) none).map
          Outcome.seen =
        ((fresh schema factories none .lenient).transform 3 ∅ (wrapped (wrapped .null)) none).map
          Outcome.seen ∧
      ∃ failed, (fresh schema factories none .strict).transform 3 ∅
          (wrapped (.node (.record "Coin" [] [] none none))) none = some failed ∧
        ((∃ type, failed.result = .error (.unmappedType type)) ∨
          ∃ message, failed.result = .error (.factory message)) := by
  let factories := (∅ : Registry String Factory).insert "Wrap" wrapping
  have forthright : ∀ type factory, factories.get? type = some factory → factory.Forthright := by
    intro type factory registered
    rw [Registry.get?_insert] at registered
    split at registered
    · cases registered
      exact wrapping_forthright
    · cases registered
  have computed : ((Schema.build wrapDecls).toOption.any fun schema =>
      let transformer := fresh schema factories none .lenient
      let coin := wrapped (.node (.record "Coin" [] [] none none))
      (transformer.unaided 3 ∅ (wrapped (wrapped .null)) none).isSome &&
        (transformer.transform 3 ∅ coin none).isSome &&
        (transformer.unaided 3 ∅ coin none).isNone) = true := by
    decide +kernel
  cases built : Schema.build wrapDecls with
  | error reason =>
      rw [built] at computed
      cases computed
  | ok schema =>
      rw [built, Except.toOption, Option.any_some, Bool.and_eq_true, Bool.and_eq_true,
        Option.isNone_iff_eq_none] at computed
      obtain ⟨⟨unaided, ended⟩, needed⟩ := computed
      refine ⟨schema, factories, rfl, forthright, ?_, ?_⟩
      · exact ((strict_iff_unaided forthright 3 ∅ _ none).2.2 unaided).2
      · exact (strict_iff_unaided forthright 3 ∅ _ none).2.1 ended needed

end Transformer

end TypedTree
