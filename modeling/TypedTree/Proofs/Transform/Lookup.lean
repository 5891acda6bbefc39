import TypedTree.Transform.Engine

namespace TypedTree

theorem get?_of_findFactory {factories : Registry String Factory} {foreign : ForeignNode}
    {factory : Factory} (found : findFactory factories foreign = some factory) :
    ∃ type, factories.get? type = some factory := by
  obtain ⟨type, _, registered⟩ := List.exists_of_findSome?_eq_some found
  exact ⟨type, registered⟩

theorem findFactory_of_supertypes {supers : String → List String} {foreign : ForeignNode}
    (factories : Registry String Factory)
    (same : foreign.supertypes = supers foreign.typeName) :
    findFactory factories foreign =
      (foreign.typeName :: supers foreign.typeName).findSome? factories.get? := by
  rw [findFactory, same]

/-- Every factory is registered under the type it is for. -/
def Engine.Keyed (engine : Engine) : Prop :=
  ∀ type factory, engine.factories.get? type = some factory → factory.sourceType = type

theorem Engine.Keyed.insert {engine : Engine} (keyed : engine.Keyed) (factory : Factory) :
    Engine.Keyed { engine with
      factories := engine.factories.insert factory.sourceType factory } := by
  intro type found looked
  rw [Registry.get?_insert] at looked
  split at looked
  · next same =>
      cases looked
      exact same.symm
  · exact keyed type found looked

/-- What is remembered of the factories is as `finds` demands. -/
def Memo.Finds (finds : String → Option Factory → Prop) (memo : Memo) : Prop :=
  ∀ type found, memo.factories.get? type = some found → finds type found

/-- Plans are remembered right, and of the factories what `finds` demands. -/
structure Memo.Recalls (engine : Engine) (finds : String → Option Factory → Prop) (memo : Memo) :
    Prop where
  factories : memo.Finds finds
  plans : ∀ {type name plan}, memo.plans.get? (type, name) = some plan →
    ∀ {factory concept}, engine.factories.get? type = some factory →
      engine.schema.concept? name = some concept → plan = factory.plan concept

/-- What is remembered is what would be found. -/
abbrev Memo.Faithful (engine : Engine) (supers : String → List String) : Memo → Prop :=
  Memo.Recalls engine fun type found =>
    found = (type :: supers type).findSome? engine.factories.get?

variable {engine : Engine} {finds : String → Option Factory → Prop} {memo : Memo}
  {foreign : ForeignNode} {factory : Factory} {concept : Concept}

theorem Memo.finds_empty (finds : String → Option Factory → Prop) : Memo.empty.Finds finds := by
  intro type found remembered
  cases remembered

theorem Memo.recalls_empty (engine : Engine) (finds : String → Option Factory → Prop) :
    Memo.empty.Recalls engine finds where
  factories := Memo.finds_empty finds
  plans found := by cases found

theorem Lookups.memoized_factory {factories : Registry String Factory} (held : memo.Finds finds)
    (holds : finds foreign.typeName (findFactory factories foreign)) :
    ∃ found after, memoized.factory factories foreign memo = (found, after) ∧
      finds foreign.typeName found ∧ after.Finds finds ∧ after.plans = memo.plans := by
  cases remembered : memo.factories.get? foreign.typeName with
  | some found =>
      refine ⟨found, memo, ?_, held _ _ remembered, held, rfl⟩
      simp only [memoized, remembered]
  | none =>
      let found := findFactory factories foreign
      refine ⟨found, ⟨memo.factories.insert foreign.typeName found, memo.plans⟩, ?_, holds,
        fun type other looked => ?_, rfl⟩
      · simp only [memoized, remembered, found]
      · rw [Registry.get?_insert] at looked
        split at looked
        · next same =>
            cases looked
            rwa [same]
        · exact held type other looked

theorem Lookups.factories_memoized_plan (factory : Factory) (concept : Concept) (memo : Memo) :
    (memoized.plan factory concept memo).2.factories = memo.factories := by
  simp only [memoized]
  split <;> rfl

theorem Memo.Recalls.insertPlan (recalls : memo.Recalls engine finds)
    (registered : engine.factories.get? factory.sourceType = some factory)
    (declared : engine.schema.concept? concept.name = some concept) :
    Memo.Recalls engine finds
      { memo with plans :=
          memo.plans.insert (factory.sourceType, concept.name) (factory.plan concept) } where
  factories := recalls.factories
  plans {type name plan} looked {other otherConcept} isOther isConcept := by
    rw [Registry.get?_insert] at looked
    split at looked
    · next same =>
        cases same
        cases registered.symm.trans isOther
        cases declared.symm.trans isConcept
        exact (Option.some.inj looked).symm
    · exact recalls.plans looked isOther isConcept

/-- Lookups that answer a type with what may be remembered of it, a factory and a concept
with their plan, and that remember no less carefully. -/
structure Lookups.Reliable (lookups : Lookups) : Prop where
  factory : ∀ {engine finds memo foreign}, Memo.Recalls engine finds memo →
    finds foreign.typeName (findFactory engine.factories foreign) →
    ∃ found after, lookups.factory engine.factories foreign memo = (found, after) ∧
      finds foreign.typeName found ∧ after.Recalls engine finds
  plan : ∀ {engine finds memo factory concept}, Memo.Recalls engine finds memo →
    engine.factories.get? factory.sourceType = some factory →
    engine.schema.concept? concept.name = some concept →
    ∃ after, lookups.plan factory concept memo = (factory.plan concept, after) ∧
      after.Recalls engine finds

namespace Lookups

theorem reliable_direct : direct.Reliable where
  factory recalls holds := ⟨_, _, rfl, holds, recalls⟩
  plan recalls _ _ := ⟨_, rfl, recalls⟩

theorem reliable_memoized : memoized.Reliable where
  factory recalls holds := by
    obtain ⟨found, after, looked, foundHolds, held, plans⟩ :=
      memoized_factory recalls.factories holds
    exact ⟨found, after, looked, foundHolds, held, plans ▸ recalls.plans⟩
  plan {engine finds memo factory concept} recalls registered declared := by
    cases remembered : memo.plans.get? (factory.sourceType, concept.name) with
    | some plan =>
        refine ⟨memo, ?_, recalls⟩
        simp only [memoized, remembered]
        rw [recalls.plans remembered registered declared]
    | none =>
        refine ⟨_, ?_, recalls.insertPlan registered declared⟩
        simp only [memoized, remembered]

/-- Lookups that find the same and remember the same, as long as plans are remembered right. -/
structure Interchangeable (first second : Lookups) : Prop where
  factory : second.factory = first.factory
  plan : ∀ {engine finds memo factory concept}, Memo.Recalls engine finds memo →
    engine.factories.get? factory.sourceType = some factory →
    engine.schema.concept? concept.name = some concept →
    second.plan factory concept memo = first.plan factory concept memo

theorem Interchangeable.refl (lookups : Lookups) : lookups.Interchangeable lookups :=
  ⟨rfl, fun _ _ _ => rfl⟩

theorem Interchangeable.symm {first second : Lookups} (same : first.Interchangeable second) :
    second.Interchangeable first :=
  ⟨same.factory.symm, fun recalls registered declared =>
    (same.plan recalls registered declared).symm⟩

end Lookups

namespace Engine

variable {run : Run}

theorem run_factoryFor_of_reliable (reliable : engine.lookups.Reliable)
    (recalls : run.memo.Recalls engine finds)
    (holds : finds foreign.typeName (findFactory engine.factories foreign)) :
    ∃ found memo, (engine.factoryFor foreign).run run = some (found, { run with memo := memo }) ∧
      finds foreign.typeName found ∧ memo.Recalls engine finds := by
  obtain ⟨found, memo, looked, found_holds, recallsAfter⟩ := reliable.factory recalls holds
  refine ⟨found, memo, ?_, found_holds, recallsAfter⟩
  exact congrArg some (congrArg (fun result => (result.1, { run with memo := result.2 })) looked)

theorem run_planFor_of_reliable (reliable : engine.lookups.Reliable)
    (recalls : run.memo.Recalls engine finds)
    (registered : engine.factories.get? factory.sourceType = some factory)
    (declared : engine.schema.concept? concept.name = some concept) :
    ∃ memo, (engine.planFor factory concept).run run =
        some (factory.plan concept, { run with memo := memo }) ∧
      memo.Recalls engine finds := by
  obtain ⟨memo, looked, recallsAfter⟩ := reliable.plan recalls registered declared
  refine ⟨memo, ?_, recallsAfter⟩
  exact congrArg some (congrArg (fun result => (result.1, { run with memo := result.2 })) looked)

end Engine

end TypedTree
