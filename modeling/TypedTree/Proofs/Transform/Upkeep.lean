import TypedTree.Proofs.Transform.Lookup
import TypedTree.Proofs.Transform.Session
import TypedTree.Proofs.Transform.Stability

namespace TypedTree

namespace Engine

variable {engine : Engine} {run after : Run} {α : Type}

/-- A factory that is found is registered, under the type it is for. -/
def finds (engine : Engine) (_ : String) (found : Option Factory) : Prop :=
  ∀ factory, found = some factory → engine.factories.get? factory.sourceType = some factory

structure Orderly (engine : Engine) : Prop where
  built : ∃ decls, Schema.build decls = .ok engine.schema
  lookups : engine.lookups.Reliable
  keyed : engine.Keyed

structure Tidy (engine : Engine) (run : Run) : Prop where
  typed : run.forest.TypedIn engine.schema
  recalls : run.memo.Recalls engine engine.finds

/-- One tidy run, seen twice. -/
abbrev SameTidy (engine : Engine) : Run → Run → Prop :=
  SameWith (·.TypedIn engine.schema) (Memo.Recalls engine engine.finds)

theorem Tidy.of_simulates {computation : RunM α} {answer : α} (tidy : engine.Tidy run)
    (kept : Simulates engine.SameTidy computation computation)
    (ran : computation.run run = some (answer, after)) : engine.Tidy after := by
  obtain ⟨typed, recalls⟩ := holds_of_simulates kept tidy.typed tidy.recalls ran
  exact ⟨typed, recalls⟩

theorem Keyed.finds (keyed : engine.Keyed) (foreign : ForeignNode) :
    engine.finds foreign.typeName (findFactory engine.factories foreign) := by
  intro factory found
  obtain ⟨type, registered⟩ := get?_of_findFactory found
  rwa [keyed type factory registered]

namespace Orderly

variable (orderly : engine.Orderly)
include orderly

theorem stable_typedIn : Forest.Stable engine.schema (·.TypedIn engine.schema) := by
  obtain ⟨decls, built⟩ := orderly.built
  exact Forest.stable_typedIn built

theorem factory (tidy : engine.Tidy run) (foreign : ForeignNode) :
    ∃ found memo, (engine.factoryFor foreign).run run = some (found, { run with memo := memo }) ∧
      engine.finds foreign.typeName found ∧ engine.Tidy { run with memo := memo } := by
  obtain ⟨found, memo, looked, isFound, recalls⟩ :=
    run_factoryFor_of_reliable orderly.lookups tidy.recalls (orderly.keyed.finds foreign)
  exact ⟨found, memo, looked, isFound, tidy.typed, recalls⟩

theorem plan {factory : Factory} {concept : Concept} {node : NodeId} (tidy : engine.Tidy run)
    (registered : engine.factories.get? factory.sourceType = some factory)
    (kind : run.forest.concept? node = some concept) (proper : concept.isPlaceholder = false) :
    ∃ memo, (engine.planFor factory concept).run run =
        some (factory.plan concept, { run with memo := memo }) ∧
      engine.Tidy { run with memo := memo } := by
  obtain ⟨memo, looked, recalls⟩ := run_planFor_of_reliable orderly.lookups tidy.recalls registered
    (tidy.typed.concepts kind proper)
  exact ⟨memo, looked, tidy.typed, recalls⟩

theorem tracks {other : Lookups} (same : engine.lookups.Interchangeable other) :
    Tracks engine.SameTidy anything
      (fun factory => engine.factories.get? factory.sourceType = some factory)
      engine { engine with lookups := other } engine.adopt engine.adopt where
  schema := rfl
  config := rfl
  compatible := (shares_stable orderly.stable_typedIn _).compatible
  adopts := (shares_stable orderly.stable_typedIn _).adopts
  factoryFor foreign _ run second answer after related looked := by
    obtain ⟨rfl, typed, recalls⟩ := related
    obtain ⟨found, memo, sameLooked, _, tidy⟩ := orderly.factory ⟨typed, recalls⟩ foreign
    cases sameLooked.symm.trans looked
    refine ⟨_, ?_, rfl, tidy.typed, tidy.recalls⟩
    unfold factoryFor
    rw [same.factory]
    exact looked
  found {foreign run second factory after} _ related looked := by
    obtain ⟨rfl, typed, recalls⟩ := related
    obtain ⟨found, memo, sameLooked, isFound, _⟩ := orderly.factory ⟨typed, recalls⟩ foreign
    cases sameLooked.symm.trans looked
    exact isFound factory rfl
  planFor {factory node concept run second} registered related kind proper := by
    have declared := related.2.1.concepts kind proper
    refine simulates_modifyGet fun run second related => ?_
    obtain ⟨rfl, typed, recalls⟩ := related
    obtain ⟨memo, looked, afterwards⟩ := orderly.lookups.plan recalls registered declared
    rw [same.plan recalls registered declared, looked]
    exact ⟨rfl, rfl, typed, afterwards⟩

/-- Engines with interchangeable lookups do the same. -/
theorem simulatesRecur_of_interchangeable {other : Lookups}
    (same : engine.lookups.Interchangeable other) (fuel : Nat) :
    SimulatesRecur engine.SameTidy (engine.transformNode fuel)
      (transformNode { engine with lookups := other } fuel) := by
  rw [← watchNode_anything, ← watchNode_anything]
  induction fuel with
  | zero =>
      intro foreign parent run second answer after related ended
      cases ended
  | succ fuel ih => exact (orderly.tracks same).watchWith (fun _ allowed => allowed) ih

theorem simulatesRecur (fuel : Nat) :
    SimulatesRecur engine.SameTidy (engine.transformNode fuel) (engine.transformNode fuel) :=
  orderly.simulatesRecur_of_interchangeable (.refl engine.lookups) fuel

end Orderly

end Engine

namespace Transformer.Session

variable {origin : Engine} {session after : Session} {call : Call} {reply : Reply}
  {replies : List Reply} {calls : List Call} {α : Type}

/-- The session is in order, and its engine is `origin` but for the factories. -/
structure Kept (origin : Engine) (session : Session) : Prop where
  engine : session.transformer.engine =
    { origin with factories := session.transformer.engine.factories }
  orderly : session.transformer.engine.Orderly
  tidy : session.transformer.engine.Tidy session.state

theorem kept_new {decls : List ConceptDecl} {schema : Schema} {lookups : Lookups}
    (built : Schema.build decls = .ok schema) (reliable : lookups.Reliable)
    (config : TransformConfig) (source : Option Source) :
    (new schema config source lookups).Kept (new schema config source lookups).transformer.engine
    where
  engine := rfl
  orderly := ⟨⟨decls, built⟩, reliable, fun _ _ registered => by cases registered⟩
  tidy := ⟨Forest.typedIn_empty schema, Memo.recalls_empty _ _⟩

section

variable (kept : session.Kept origin)
include kept

theorem Kept.register {factory : Factory}
    (stepped : session.registering (session.transformer.register factory) = (reply, after)) :
    after.Kept origin := by
  cases registered : session.transformer.register factory with
  | error reason =>
      rw [registered] at stepped
      cases stepped
      exact kept
  | ok transformer =>
      rw [registered] at stepped
      cases stepped
      -- The memo is emptied, so that no plan of another factory can be taken for the new one's.
      obtain rfl := register_eq_ok registered
      refine ⟨?_, ⟨kept.orderly.built, kept.orderly.lookups,
        kept.orderly.keyed.insert factory⟩, kept.tidy.typed, Memo.recalls_empty _ _⟩
      dsimp only
      rw [kept.engine]

theorem Kept.performing {action : Engine → EngineM α} {answer : Except TransformError α → Reply}
    (simulated : Engine.Simulates session.transformer.engine.SameTidy
      (action session.transformer.engine).run (action session.transformer.engine).run)
    (ended : session.performing action answer = some (reply, after)) : after.Kept origin := by
  obtain ⟨outcome, performed, same⟩ := Option.map_eq_some_iff.mp ended
  obtain ⟨run, ran, isOutcome⟩ := perform_eq_some performed
  rw [isOutcome] at same
  cases same
  exact ⟨kept.engine, kept.orderly, kept.tidy.of_simulates simulated ran⟩

theorem Kept.step (stepped : session.step Engine.transformNode call = some (reply, after)) :
    after.Kept origin := by
  have recursive := kept.orderly.simulatesRecur
  cases call with
  | register factory => exact kept.register (Option.some.inj stepped)
  | registerConcept sourceType concept => exact kept.register (Option.some.inj stepped)
  | transform fuel value parent =>
      exact kept.performing ((recursive fuel).transformValue value parent) stepped
  | transformList fuel value parent =>
      exact kept.performing ((recursive fuel).transformAll value parent) stepped
  | addIssue issue =>
      cases stepped
      exact ⟨kept.engine, kept.orderly, kept.tidy.typed, kept.tidy.recalls⟩
  | takeIssues =>
      cases stepped
      exact ⟨kept.engine, kept.orderly, kept.tidy.typed, kept.tidy.recalls⟩
  | operate operation =>
      cases stepped
      obtain ⟨decls, built⟩ := kept.orderly.built
      exact ⟨kept.engine, kept.orderly, kept.tidy.typed.perform built operation, kept.tidy.recalls⟩

theorem Kept.run (ran : session.run Engine.transformNode calls = some (replies, after)) :
    after.Kept origin := by
  induction calls generalizing session replies with
  | nil =>
      cases ran
      exact kept
  | cons call rest ih =>
      obtain ⟨reply, middle, others, last, stepped, ran, same⟩ := run_cons_eq_some_iff.mp ran
      cases same
      exact ih (kept.step stepped) ran

end

end Transformer.Session

end TypedTree
