import TypedTree.Proofs.Transform.Congruence
import TypedTree.Proofs.Transform.Watching

namespace TypedTree.Engine

/-! # Runs that follow each other

A computation simulates another over a relation of runs if, started from related runs,
it has the same answer whenever the first one has one, and the runs are related again.
The engine is built from a few primitive steps; if those are simulated, so is every
transformation, whatever the constructors and hooks ask for.
-/

variable {R : Run → Run → Prop} {α β : Type}

/-- Whatever `first` answers, `second` answers too from every related run. -/
def Simulates (R : Run → Run → Prop) (first second : RunM α) : Prop :=
  ∀ run other answer after, R run other → first.run run = some (answer, after) →
    ∃ otherAfter, second.run other = some (answer, otherAfter) ∧ R after otherAfter

theorem simulates_pure (answer : α) : Simulates R (pure answer) (pure answer) := by
  intro run other result after related ended
  cases ended
  exact ⟨other, rfl, related⟩

/-- What is known of the answers of the first part may be used for the second. -/
theorem simulates_bind_of {first second : RunM α} {next following : α → RunM β}
    {known : α → Prop} (here : Simulates R first second)
    (answers : ∀ run other answer after, R run other →
      first.run run = some (answer, after) → known answer)
    (later : ∀ answer, known answer → Simulates R (next answer) (following answer)) :
    Simulates R (first >>= next) (second >>= following) := by
  intro run other answer after related ended
  rw [StateT.run_bind, Option.bind_eq_bind, Option.bind_eq_some_iff] at ended
  obtain ⟨⟨middle, between⟩, begun, ended⟩ := ended
  obtain ⟨otherBetween, otherBegun, relatedBetween⟩ := here _ _ _ _ related begun
  obtain ⟨otherAfter, otherEnded, relatedAfter⟩ :=
    later middle (answers _ _ _ _ related begun) _ _ _ _ relatedBetween ended
  refine ⟨otherAfter, ?_, relatedAfter⟩
  rw [StateT.run_bind, otherBegun]
  exact otherEnded

theorem simulates_bind {first second : RunM α} {next following : α → RunM β}
    (here : Simulates R first second)
    (later : ∀ answer, Simulates R (next answer) (following answer)) :
    Simulates R (first >>= next) (second >>= following) :=
  simulates_bind_of here (fun _ _ _ _ _ _ => trivial) fun answer _ => later answer

theorem simulates_modifyGet {first second : Run → α × Run}
    (step : ∀ run other, R run other →
      (first run).1 = (second other).1 ∧ R (first run).2 (second other).2) :
    Simulates R (modifyGet first) (modifyGet second) := by
  intro run other answer after related ended
  obtain ⟨sameAnswer, relatedAfter⟩ := step run other related
  have stepped : first run = (answer, after) := Option.some.inj ended
  rw [stepped] at sameAnswer relatedAfter
  have answered : second other = (answer, (second other).2) := Prod.ext sameAnswer.symm rfl
  exact ⟨(second other).2, congrArg some answered, relatedAfter⟩

theorem simulates_modify {first second : Run → Run}
    (step : ∀ run other, R run other → R (first run) (second other)) :
    Simulates R (modify first) (modify second) := by
  refine simulates_modifyGet fun run other related => ?_
  exact ⟨rfl, step run other related⟩

theorem simulates_get {next following : Run → RunM α}
    (later : ∀ run other, R run other → Simulates R (next run) (following other)) :
    Simulates R (get >>= next) (get >>= following) := by
  intro run other answer after related ended
  exact later run other related run other answer after related ended

theorem simulates_ok (answer : α) :
    Simulates R (pure answer : EngineM α).run (pure answer : EngineM α).run :=
  simulates_pure (Except.ok answer)

theorem simulates_throw (error : TransformError) :
    Simulates R (throw error : EngineM α).run (throw error : EngineM α).run :=
  simulates_pure (Except.error error)

theorem simulates_lift {first second : RunM α} (here : Simulates R first second) :
    Simulates R (liftM first : EngineM α).run (liftM second : EngineM α).run :=
  simulates_bind here fun answer => simulates_pure (Except.ok answer)

theorem simulates_andThen {first second : EngineM α} {next following : α → EngineM β}
    (here : Simulates R first.run second.run)
    (later : ∀ answer, Simulates R (next answer).run (following answer).run) :
    Simulates R (first >>= next).run (second >>= following).run := by
  refine simulates_bind here fun answer => ?_
  cases answer with
  | ok answer => exact later answer
  | error error => exact simulates_pure (Except.error error)

theorem simulates_lift_andThen_of {first second : RunM α} {next following : α → EngineM β}
    {known : α → Prop} (here : Simulates R first second)
    (answers : ∀ run other answer after, R run other →
      first.run run = some (answer, after) → known answer)
    (later : ∀ answer, known answer →
      Simulates R (next answer).run (following answer).run) :
    Simulates R (liftM first >>= next : EngineM β).run
      (liftM second >>= following : EngineM β).run := by
  change Simulates R (ExceptT.lift first >>= next).run (ExceptT.lift second >>= following).run
  rw [ExceptT.run_bind_lift, ExceptT.run_bind_lift]
  exact simulates_bind_of here answers later

theorem simulates_get_andThen {next following : Run → EngineM α}
    (later : ∀ run other, R run other → Simulates R (next run).run (following other).run) :
    Simulates R (get >>= next : EngineM α).run (get >>= following : EngineM α).run := by
  intro run other answer after related ended
  exact later run other related run other answer after related ended

theorem simulates_program {Q : Type} {Answer : Q → Type} {ε : Type}
    {respond answerOther : (question : Q) → RunM (Answer question)}
    (each : ∀ question, Simulates R (respond question) (answerOther question))
    (program : Program Q Answer ε α) :
    Simulates R (program.run respond) (program.run answerOther) := by
  induction program with
  | done result => exact simulates_pure _
  | fail error => exact simulates_pure _
  | ask question next ih => exact simulates_bind (each question) ih

/-- A relation that the steps open to constructors and hooks do not leave. -/
structure Compatible (schema : Schema) (R : Run → Run → Prop) : Prop where
  forest : ∀ {run other}, R run other → run.forest = other.forest
  issues : ∀ {run other}, R run other → run.issues = other.issues
  setIssues : ∀ {run other}, R run other → ∀ issues,
    R { run with issues := issues } { other with issues := issues }
  create : ∀ {run other}, R run other → ∀ {concept node forest},
    run.forest.create schema concept = .ok (node, forest) →
      R { run with forest := forest } { other with forest := forest }
  createGeneric : ∀ {run other}, R run other →
    R { run with forest := run.forest.createGeneric.2 }
      { other with forest := run.forest.createGeneric.2 }
  createError : ∀ {run other}, R run other → ∀ message,
    R { run with forest := (run.forest.createError message).2 }
      { other with forest := (run.forest.createError message).2 }
  apply : ∀ {run other}, R run other → ∀ {edit forest}, run.forest.apply edit = .ok forest →
    R { run with forest := forest } { other with forest := forest }
  discardSince : ∀ {run other}, R run other → ∀ mark,
    R { run with forest := run.forest.discardSince mark }
      { other with forest := run.forest.discardSince mark }

namespace Compatible

variable {schema : Schema} (compatible : Compatible schema R)
include compatible

theorem simulates_report (issue : Issue) : Simulates R (report issue) (report issue) := by
  refine simulates_modify fun run other related => ?_
  rw [compatible.issues related]
  exact compatible.setIssues related _

theorem simulates_applyEdit (edit : Edit) :
    Simulates R (applyEdit edit) (applyEdit edit) := by
  refine simulates_modifyGet fun run other related => ?_
  rw [← compatible.forest related]
  cases applied : run.forest.apply edit with
  | error reason => exact ⟨rfl, related⟩
  | ok forest => exact ⟨rfl, compatible.apply related applied⟩

theorem simulates_edit (edit : Edit) :
    Simulates R (Engine.edit edit).run (Engine.edit edit).run :=
  simulates_bind (compatible.simulates_applyEdit edit) fun _ => simulates_pure _

theorem simulates_answerTree (request : TreeRequest) :
    Simulates R (answerTree schema request) (answerTree schema request) := by
  match request with
  | .look =>
      refine simulates_get fun run other related => ?_
      rw [compatible.forest related]
      exact simulates_pure _
  | .create concept =>
      refine simulates_modifyGet fun run other related => ?_
      rw [← compatible.forest related]
      cases created : run.forest.create schema concept with
      | error reason => exact ⟨rfl, related⟩
      | ok result => exact ⟨rfl, compatible.create related created⟩
  | .createGeneric =>
      refine simulates_modifyGet fun run other related => ?_
      rw [← compatible.forest related]
      exact ⟨rfl, compatible.createGeneric related⟩
  | .createError message =>
      refine simulates_modifyGet fun run other related => ?_
      rw [← compatible.forest related]
      exact ⟨rfl, compatible.createError related message⟩
  | .edit edit => exact compatible.simulates_applyEdit edit

end Compatible

/-- The second way to transform foreign nodes follows the first. -/
def SimulatesRecur (R : Run → Run → Prop) (recur following : Recur) : Prop :=
  ∀ foreign parent, Simulates R (recur foreign parent).run (following foreign parent).run

theorem congruent_simulates (R : Run → Run → Prop) :
    Congruent fun computation : Bool → EngineM _ =>
      Simulates R (computation true).run (computation false).run where
  done answer := simulates_ok answer
  failed _ := simulates_throw _
  andThen here later := simulates_andThen here later

namespace SimulatesRecur

variable {recur following : Recur} (recursive : SimulatesRecur R recur following)
include recursive

theorem transformValue (value : ForeignValue) (parent : Option NodeId) :
    Simulates R (transformValue recur value parent).run
      (Engine.transformValue following value parent).run :=
  (congruent_simulates R).transformValue (bif · then recur else following) recursive value parent

theorem transformAll (value : ForeignValue) (parent : Option NodeId) :
    Simulates R (transformAll recur value parent).run
      (Engine.transformAll following value parent).run :=
  (congruent_simulates R).transformAll (bif · then recur else following) recursive value parent

theorem assignAll {schema : Schema} (compatible : Compatible schema R) (node : NodeId)
    (concept : String) (foreign : ForeignNode) (plan : Plan) :
    Simulates R (assignAll recur node concept foreign plan).run
      (Engine.assignAll following node concept foreign plan).run :=
  (congruent_simulates R).assignAll (bif · then recur else following) recursive
    compatible.simulates_edit node concept foreign plan

end SimulatesRecur

/-- Two engines that differ at most in their lookups, and ways to adopt nodes of which the
second follows the first. -/
structure Shares (R : Run → Run → Prop) (first second : Engine) (adopt adoptOther : Adopt) :
    Prop where
  schema : second.schema = first.schema
  config : second.config = first.config
  compatible : Compatible first.schema R
  adopts : ∀ node foreign parent,
    Simulates R (adopt node foreign parent) (adoptOther node foreign parent)

namespace Shares

variable {first second : Engine} {adopt adoptOther : Adopt} {recur following : Recur}
  (shares : Shares R first second adopt adoptOther)
include shares

theorem answerBuild (recursive : SimulatesRecur R recur following) (request : BuildRequest) :
    Simulates R (first.answerBuild recur request) (second.answerBuild following request) := by
  match request with
  | .tree request =>
      unfold Engine.answerBuild
      rw [shares.schema]
      exact shares.compatible.simulates_answerTree request
  | .config =>
      unfold Engine.answerBuild
      rw [shares.config]
      exact simulates_pure _
  | .addIssue issue => exact shares.compatible.simulates_report issue
  | .issues =>
      refine simulates_get fun run other related => ?_
      rw [shares.compatible.issues related]
      exact simulates_pure _
  | .takeIssues =>
      refine simulates_modifyGet fun run other related => ?_
      exact ⟨shares.compatible.issues related, shares.compatible.setIssues related []⟩
  | .transform value parent => exact recursive.transformValue value parent
  | .transformList value parent => exact recursive.transformAll value parent
  | .transformNode foreign parent => exact recursive foreign parent

theorem substituteGeneric (foreign : ForeignNode) (parent : Option NodeId) :
    Simulates R (first.substituteGeneric adopt foreign parent).run
      (second.substituteGeneric adoptOther foreign parent).run := by
  unfold Engine.substituteGeneric
  rw [shares.config]
  by_cases allowed : first.config.allowGeneric = true
  · rw [if_pos allowed, if_pos allowed]
    refine simulates_andThen (simulates_lift ?_) fun node => ?_
    · exact shares.compatible.simulates_answerTree .createGeneric
    · refine simulates_andThen (simulates_lift (shares.compatible.simulates_report _)) fun _ => ?_
      refine simulates_andThen (simulates_lift (shares.adopts node foreign parent)) fun _ => ?_
      exact simulates_ok _
  · rw [if_neg allowed, if_neg allowed]
    exact simulates_throw _

theorem substituteError (mark : NodeId) (message : String) (foreign : ForeignNode)
    (parent : Option NodeId) :
    Simulates R (substituteError adopt mark message foreign parent).run
      (Engine.substituteError adoptOther mark message foreign parent).run := by
  refine simulates_andThen (simulates_lift (simulates_modify ?_)) fun _ => ?_
  · intro run other related
    rw [← shares.compatible.forest related]
    exact shares.compatible.discardSince related mark
  · refine simulates_andThen (simulates_lift ?_) fun node => ?_
    · exact shares.compatible.simulates_answerTree (.createError message)
    · refine simulates_andThen (simulates_lift (shares.compatible.simulates_report _)) fun _ => ?_
      refine simulates_andThen (simulates_lift (shares.adopts node foreign parent)) fun _ => ?_
      exact simulates_ok _

theorem runHook (factory : Factory) (foreign : ForeignNode) (node : NodeId) :
    Simulates R (first.runHook factory foreign node).run
      (second.runHook factory foreign node).run := by
  unfold Engine.runHook
  rw [shares.schema]
  cases factory.finish with
  | none => exact simulates_ok ()
  | some hook =>
      exact simulates_program shares.compatible.simulates_answerTree (hook node foreign)

end Shares

section Watched

variable {rule weaker : Event → Bool}

theorem simulates_heed (implied : ∀ event, rule event = true → weaker event = true)
    (event : Event) : Simulates R (heed rule event) (heed weaker event) := by
  by_cases allowed : rule event = true
  · rw [heed, heed, if_pos allowed, if_pos (implied event allowed)]
    exact simulates_pure ()
  · rw [heed, if_neg allowed]
    intro run other answer after related ended
    cases ended

/-- Goes on only where the event is allowed. -/
theorem simulates_heed_andThen {event : Event} {next following : Unit → EngineM α}
    (implied : ∀ event, rule event = true → weaker event = true)
    (later : rule event = true → Simulates R (next ()).run (following ()).run) :
    Simulates R (liftM (heed rule event) >>= next : EngineM α).run
      (liftM (heed weaker event) >>= following : EngineM α).run := by
  by_cases allowed : rule event = true
  · rw [heed_bind allowed, heed_bind (implied event allowed)]
    exact later allowed
  · rw [heed, if_neg allowed]
    intro run other answer after related ended
    cases ended

end Watched

/-- One engine follows another for as long as a rule is kept. Plans are compared only for
factories that are found, which are `known`, and for concepts of nodes to be filled. -/
structure Tracks (R : Run → Run → Prop) (rule : Event → Bool) (known : Factory → Prop)
    (first second : Engine) (adopt adoptOther : Adopt) : Prop
    extends Shares R first second adopt adoptOther where
  factoryFor : ∀ foreign, rule (.meets foreign) = true →
    Simulates R (first.factoryFor foreign) (second.factoryFor foreign)
  found : ∀ {foreign run other factory after}, rule (.meets foreign) = true → R run other →
    (first.factoryFor foreign).run run = some (some factory, after) → known factory
  planFor : ∀ {factory node concept run other}, known factory → R run other →
    run.forest.concept? node = some concept → concept.isPlaceholder = false →
    Simulates R (first.planFor factory concept) (second.planFor factory concept)

namespace Tracks

variable {first second : Engine} {adopt adoptOther : Adopt} {recur following : Recur}
  {rule weaker : Event → Bool} {known : Factory → Prop} {factory : Factory}
  (tracks : Tracks R rule known first second adopt adoptOther)
  (implied : ∀ event, rule event = true → weaker event = true)
include tracks

theorem wire (recursive : SimulatesRecur R recur following) (isKnown : known factory)
    (foreign : ForeignNode) (node : NodeId) :
    Simulates R (first.wire recur factory foreign node).run
      (second.wire following factory foreign node).run := by
  refine simulates_get_andThen fun run other related => ?_
  rw [← tracks.compatible.forest related]
  cases kind : run.forest.concept? node with
  | none => exact simulates_ok ()
  | some concept =>
      by_cases filled : (!factory.skipChildren && !concept.isPlaceholder) = true
      · have planned := tracks.planFor isKnown related kind (by simp_all)
        simp only [filled, if_true]
        refine simulates_andThen (simulates_lift planned) fun plan => ?_
        exact recursive.assignAll tracks.compatible node concept.name foreign plan
      · simp only [filled]
        exact simulates_ok ()

include implied

theorem watchHook (factory : Factory) (foreign : ForeignNode) (node : NodeId) :
    Simulates R (first.watchHook rule factory foreign node).run
      (second.watchHook weaker factory foreign node).run := by
  refine simulates_bind (tracks.runHook factory foreign node) fun ended => ?_
  cases ended with
  | ok done => exact simulates_pure _
  | error error => exact simulates_bind (simulates_heed implied _) fun _ => simulates_pure _

theorem watchWith (recursive : SimulatesRecur R recur following) :
    SimulatesRecur R (first.watchWith rule adopt recur)
      (second.watchWith weaker adoptOther following) := by
  intro foreign parent
  refine simulates_heed_andThen implied fun met => ?_
  have answers (run other : Run) (found : Option Factory) (after : Run) (related : R run other)
      (looked : (first.factoryFor foreign).run run = some (found, after)) :
      ∀ factory, found = some factory → known factory :=
    fun factory isFound => tracks.found met related (isFound ▸ looked)
  refine simulates_lift_andThen_of (tracks.factoryFor foreign met) answers fun found isKnown => ?_
  cases found with
  | none => exact simulates_heed_andThen implied fun _ => tracks.substituteGeneric foreign parent
  | some factory =>
      refine simulates_get_andThen fun run other related => ?_
      rw [tracks.compatible.forest related]
      refine simulates_andThen (simulates_lift ?_) fun made => ?_
      · exact simulates_program (tracks.answerBuild recursive)
          (factory.construct foreign factory.rules)
      · match made with
        | .ok none => exact simulates_ok none
        | .ok (some node) =>
            refine simulates_andThen (simulates_lift (tracks.adopts node foreign parent))
              fun _ => ?_
            refine simulates_andThen (tracks.wire recursive (isKnown factory rfl) foreign node)
              fun _ => ?_
            refine simulates_andThen (tracks.watchHook implied factory foreign node) fun _ => ?_
            exact simulates_ok (some node)
        | .error (.factory message) =>
            refine simulates_heed_andThen implied fun _ => ?_
            rw [tracks.config]
            by_cases contained : first.config.containFailures = true
            · rw [if_pos contained, if_pos contained]
              exact tracks.substituteError _ message foreign parent
            · rw [if_neg contained, if_neg contained]
              exact simulates_throw _
        | .error (.unexpectedCollection _) | .error (.unexpectedValue _ _)
        | .error (.unmappedType _) | .error (.duplicateFactory _)
        | .error (.unknownChildRule _ _) | .error (.edit _) => exact simulates_throw _

end Tracks

/-- One engine with its way to adopt nodes follows another, whatever happens. -/
structure Follows (R : Run → Run → Prop) (first second : Engine) (adopt adoptOther : Adopt) :
    Prop extends Shares R first second adopt adoptOther where
  factoryFor : ∀ foreign, Simulates R (first.factoryFor foreign) (second.factoryFor foreign)
  planFor : ∀ factory concept,
    Simulates R (first.planFor factory concept) (second.planFor factory concept)

namespace Follows

variable {first second : Engine} {adopt adoptOther : Adopt} {recur following : Recur}
  (follows : Follows R first second adopt adoptOther)
include follows

theorem tracks (rule : Event → Bool) :
    Tracks R rule (fun _ => True) first second adopt adoptOther where
  toShares := follows.toShares
  factoryFor foreign _ := follows.factoryFor foreign
  found _ _ _ := trivial
  planFor _ _ _ _ := follows.planFor _ _

theorem transformWith (recursive : SimulatesRecur R recur following) :
    SimulatesRecur R (first.transformWith adopt recur)
      (second.transformWith adoptOther following) := by
  rw [← watchWith_anything, ← watchWith_anything]
  exact (follows.tracks anything).watchWith (fun _ allowed => allowed) recursive

end Follows

end TypedTree.Engine
