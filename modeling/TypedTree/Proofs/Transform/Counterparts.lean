import TypedTree.Proofs.Transform.Confinement
import TypedTree.Proofs.Transform.Draft
import TypedTree.Transform.Recipe

namespace TypedTree

/-- The wire that fills a contained feature of a new node from the rule for it. -/
def Feature.wire (feature : Feature) : Wire where
  feature := feature.name
  path := none
  mode := if feature.type matches .children _ then .children else .child
  orphan := false

/-- A wire for every contained feature that has a rule, in the order of the features. -/
def ExtractionRules.wires (rules : ExtractionRules) (concept : Concept) : List Wire :=
  (concept.features.filter fun feature =>
    feature.type.isContainment && (rules.source? concept feature.name).isSome).map Feature.wire

namespace Factory

/-- The factory whose constructor makes a node of the concept and fills it itself. -/
def byHand (factory : Factory) (concept : Concept) : Factory :=
  { factory with
    skipChildren := true
    construct foreign rules := do
      let node ← Construction.create concept.name
      Wire.applyEach node foreign rules (rules.wires concept)
      return some node }

/-- Whatever the engine fills of a node of the concept are contained features that the factory
has a rule for. -/
def fillsByRule (factory : Factory) (concept : Concept) : Bool :=
  concept.features.all fun feature =>
    (factory.sourceFor concept feature).isNone ||
      feature.type.isContainment && (factory.rules.source? concept feature.name).isSome

/-- The constructor only makes a node of the concept, and the engine fills it by rules. -/
structure Automatic (schema : Schema) (factory : Factory) (concept : Concept) : Prop where
  declared : schema.concept? concept.name = some concept
  constructs : factory.construct = (ofConcept factory.sourceType concept.name).construct
  fills : factory.skipChildren = false
  explicit : factory.fillsByRule concept = true

/-- One factory in two engines, or one for `type` and what does the same by hand. -/
inductive Counterpart (schema : Schema) (type : String) : Factory → Factory → Prop where
  | same {factory : Factory} (confined : factory.Confined) : Counterpart schema type factory factory
  | byHand {factory : Factory} {concept : Concept} (automatic : factory.Automatic schema concept)
      (confined : factory.Confined) (named : factory.sourceType = type) :
      Counterpart schema type factory (factory.byHand concept)

theorem Counterpart.sourceType {schema : Schema} {type : String} {factory other : Factory}
    (counterpart : Counterpart schema type factory other) :
    other.sourceType = factory.sourceType := by
  cases counterpart <;> rfl

section

variable {schema : Schema} {factory : Factory} {concept : Concept}
  (automatic : factory.Automatic schema concept)
include automatic

theorem Automatic.rule_of_sourceFor {feature : Feature} {source : FeatureSource}
    (member : feature ∈ concept.features)
    (isSource : factory.sourceFor concept feature = some source) :
    feature.type.isContainment = true ∧
      factory.rules.source? concept feature.name = some source := by
  have explicit := List.all_eq_true.mp automatic.explicit feature member
  rw [isSource, Option.isNone_some, Bool.false_or, Bool.and_eq_true,
    Option.isSome_iff_exists] at explicit
  obtain ⟨contained, rule, ruled⟩ := explicit
  rw [sourceFor, ruled, Option.some_or] at isSource
  exact ⟨contained, ruled.trans isSource⟩

theorem Automatic.explicit_of_mem_plan {step : Feature × FeatureSource}
    (planned : step ∈ factory.plan concept) :
    step.1.type.isContainment = true ∧
      factory.rules.source? concept step.1.name = some step.2 := by
  rw [factory.plan_eq] at planned
  obtain ⟨feature, member, isStep⟩ := List.mem_filterMap.mp planned
  obtain ⟨source, isSource, rfl⟩ := Option.map_eq_some_iff.mp isStep
  exact automatic.rule_of_sourceFor member isSource

/-- The wires fill what the engine would. -/
theorem Automatic.wires_eq :
    factory.rules.wires concept = (factory.plan concept).map fun step => step.1.wire := by
  rw [ExtractionRules.wires, factory.plan_eq, List.map_filterMap, ← List.filterMap_eq_map,
    List.filterMap_filter]
  refine List.filterMap_congr fun feature member => ?_
  cases planned : factory.sourceFor concept feature with
  | some source =>
      obtain ⟨contained, ruled⟩ := automatic.rule_of_sourceFor member planned
      simp [contained, ruled]
  | none =>
      have unruled : factory.rules.source? concept feature.name = none :=
        (Option.or_eq_none_iff.mp planned).1
      simp [unruled]

end

end Factory

theorem isSome_of_rel {α β : Type} {related : α → β → Prop} {here : Option α}
    {there : Option β} (both : Option.Rel related here there) : there.isSome = here.isSome := by
  cases both <;> rfl

/-- Engines that differ only in that some factories for `type` are exchanged for what does the
same by hand. -/
structure Engine.Counterparts (type : String) (first second : Engine) : Prop where
  same : second = { first with factories := second.factories }
  built : ∃ decls, Schema.build decls = .ok first.schema
  lookups : first.lookups = .memoized
  keyed : first.Keyed
  factories : ∀ name, Option.Rel (Factory.Counterpart first.schema type)
    (first.factories.get? name) (second.factories.get? name)

/-- Both memos are right for their engines, and they remember counterparts of the factories. -/
structure Memo.Counterparts (type : String) (first second : Engine) (memo other : Memo) : Prop where
  here : memo.Recalls first first.finds
  there : other.Recalls second second.finds
  factories : ∀ name, Option.Rel (Option.Rel (Factory.Counterpart first.schema type))
    (memo.factories.get? name) (other.factories.get? name)

theorem Memo.counterparts_empty (type : String) (first second : Engine) :
    Memo.Counterparts type first second .empty .empty :=
  ⟨Memo.recalls_empty _ _, Memo.recalls_empty _ _, fun _ => .none⟩

namespace Engine.Counterparts

variable {type : String} {first second : Engine} {memo other : Memo} {factory : Factory}
  {concept : Concept} (counterparts : Counterparts type first second)
include counterparts

theorem schema : second.schema = first.schema := by rw [counterparts.same]

theorem lookups_right : second.lookups = .memoized := by
  rw [counterparts.same]
  exact counterparts.lookups

theorem orderly : first.Orderly where
  built := counterparts.built
  lookups := counterparts.lookups ▸ Lookups.reliable_memoized
  keyed := counterparts.keyed

theorem keyed_right : second.Keyed := by
  intro name other registered
  have related := counterparts.factories name
  rw [registered] at related
  cases found : first.factories.get? name with
  | none =>
      rw [found] at related
      cases related
  | some factory =>
      rw [found] at related
      cases related with
      | some counterpart =>
          rw [counterpart.sourceType]
          exact counterparts.keyed name factory found

theorem findFactory (foreign : ForeignNode) :
    Option.Rel (Factory.Counterpart first.schema type) (findFactory first.factories foreign)
      (TypedTree.findFactory second.factories foreign) := by
  unfold TypedTree.findFactory
  induction foreign.typeName :: foreign.supertypes with
  | nil => exact .none
  | cons name rest ih =>
      have related := counterparts.factories name
      rw [List.findSome?_cons, List.findSome?_cons]
      cases here : first.factories.get? name <;> cases there : second.factories.get? name <;>
        rw [here, there] at related
      · exact ih
      · cases related
      · cases related
      · exact related

theorem memoized_factory (memos : Memo.Counterparts type first second memo other)
    (foreign : ForeignNode) :
    ∃ found counterpart after otherAfter,
      first.lookups.factory first.factories foreign memo = (found, after) ∧
      second.lookups.factory second.factories foreign other = (counterpart, otherAfter) ∧
      Option.Rel (Factory.Counterpart first.schema type) found counterpart ∧
      first.finds foreign.typeName found ∧ second.finds foreign.typeName counterpart ∧
      Memo.Counterparts type first second after otherAfter := by
  rw [counterparts.lookups, counterparts.lookups_right]
  obtain ⟨found, after, looked, isFound, recalls⟩ :=
    Lookups.reliable_memoized.factory memos.here (counterparts.keyed.finds foreign)
  obtain ⟨counterpart, otherAfter, otherLooked, otherFound, otherRecalls⟩ :=
    Lookups.reliable_memoized.factory memos.there (counterparts.keyed_right.finds foreign)
  refine ⟨found, counterpart, after, otherAfter, looked, otherLooked, ?_, isFound, otherFound,
    recalls, otherRecalls, ?_⟩
  all_goals
    have remembered := memos.factories foreign.typeName
    have anew := counterparts.findFactory foreign
    simp only [Lookups.memoized] at looked otherLooked
    cases here : memo.factories.get? foreign.typeName <;>
      cases there : other.factories.get? foreign.typeName <;>
      rw [here, there] at remembered <;> rw [here] at looked <;> rw [there] at otherLooked
  · cases looked
    cases otherLooked
    exact anew
  · cases remembered
  · cases remembered
  · cases looked
    cases otherLooked
    cases remembered with
    | some related => exact related
  · cases looked
    cases otherLooked
    intro name
    rw [Registry.get?_insert, Registry.get?_insert]
    split
    · exact .some anew
    · exact memos.factories name
  · cases remembered
  · cases remembered
  · cases looked
    cases otherLooked
    exact memos.factories

theorem memoized_plan (memos : Memo.Counterparts type first second memo other)
    (registered : first.factories.get? factory.sourceType = some factory)
    (declared : first.schema.concept? concept.name = some concept) :
    ∃ after, first.lookups.plan factory concept memo = (factory.plan concept, after) ∧
      Memo.Counterparts type first second after other := by
  rw [counterparts.lookups]
  obtain ⟨after, looked, recalls⟩ :=
    Lookups.reliable_memoized.plan memos.here registered declared
  refine ⟨after, looked, recalls, memos.there, ?_⟩
  have kept := Lookups.factories_memoized_plan factory concept memo
  rw [looked] at kept
  rw [kept]
  exact memos.factories

theorem memoized_plan_right (memos : Memo.Counterparts type first second memo other)
    (registered : second.factories.get? factory.sourceType = some factory)
    (declared : first.schema.concept? concept.name = some concept) :
    ∃ after, second.lookups.plan factory concept other = (factory.plan concept, after) ∧
      Memo.Counterparts type first second memo after := by
  rw [counterparts.lookups_right]
  obtain ⟨after, looked, recalls⟩ := Lookups.reliable_memoized.plan memos.there registered
    (counterparts.schema ▸ declared)
  refine ⟨after, looked, memos.here, recalls, ?_⟩
  have kept := Lookups.factories_memoized_plan factory concept other
  rw [looked] at kept
  rw [kept]
  exact memos.factories

end Engine.Counterparts

namespace Engine

/-- Runs of counterparts, on ground that may differ. -/
abbrev Together (type : String) (first second : Engine) :
    (base ground : Forest) → (run other : Run) → Prop :=
  Twin first.schema (Memo.Counterparts type first second)

/-- Steps of counterparts that answer the same. -/
abbrev Abreast {α : Type} (type : String) (first second : Engine) :
    (base ground : Forest) → (post : α → Forest → Prop) → (run other : Run) →
      (action following : RunM α) → Prop :=
  Paces first.schema (Memo.Counterparts type first second)

namespace Counterparts

variable {type : String} {first second : Engine} {base ground : Forest} {run other : Run}
  {recur following : Recur} {factory counterpart : Factory} {concept : Concept} {node : NodeId}
  {parent : Option NodeId} (counterparts : Counterparts type first second)
include counterparts

theorem run_factoryFor (twin : Together type first second base ground run other)
    (foreign : ForeignNode) :
    ∃ found counterpart memo otherMemo,
      (first.factoryFor foreign).run run = some (found, { run with memo := memo }) ∧
      (second.factoryFor foreign).run other =
        some (counterpart, { other with memo := otherMemo }) ∧
      Option.Rel (Factory.Counterpart first.schema type) found counterpart ∧
      first.finds foreign.typeName found ∧ second.finds foreign.typeName counterpart ∧
      Together type first second base ground { run with memo := memo }
        { other with memo := otherMemo } := by
  obtain ⟨found, counterpart, memo, otherMemo, looked, otherLooked, related, isFound, otherFound,
    memos⟩ := counterparts.memoized_factory twin.memos foreign
  refine ⟨found, counterpart, memo, otherMemo, ?_, ?_, related, isFound, otherFound,
    ⟨twin.grafted, twin.forest, twin.issues, memos, twin.typed⟩⟩
  · exact congrArg some
      (congrArg (fun result => (result.1, { run with memo := result.2 })) looked)
  · exact congrArg some
      (congrArg (fun result => (result.1, { other with memo := result.2 })) otherLooked)

theorem run_planFor (twin : Together type first second base ground run other)
    (registered : first.factories.get? factory.sourceType = some factory)
    (declared : first.schema.concept? concept.name = some concept) :
    ∃ memo, (first.planFor factory concept).run run =
        some (factory.plan concept, { run with memo := memo }) ∧
      Together type first second base ground { run with memo := memo } other := by
  obtain ⟨memo, looked, memos⟩ := counterparts.memoized_plan twin.memos registered declared
  refine ⟨memo, ?_, twin.grafted, twin.forest, twin.issues, memos, twin.typed⟩
  exact congrArg some (congrArg (fun result => (result.1, { run with memo := result.2 })) looked)

theorem run_planFor_right (twin : Together type first second base ground run other)
    (registered : second.factories.get? factory.sourceType = some factory)
    (declared : first.schema.concept? concept.name = some concept) :
    ∃ memo, (second.planFor factory concept).run other =
        some (factory.plan concept, { other with memo := memo }) ∧
      Together type first second base ground run { other with memo := memo } := by
  obtain ⟨memo, looked, memos⟩ := counterparts.memoized_plan_right twin.memos registered declared
  refine ⟨memo, ?_, twin.grafted, twin.forest, twin.issues, memos, twin.typed⟩
  exact congrArg some (congrArg (fun result => (result.1, { other with memo := result.2 })) looked)

theorem wire (nested : PacesNested first.schema (Memo.Counterparts type first second) recur following)
    (twin : Together type first second base ground run other)
    (own : Fresh base.nextId [node] run.forest)
    (registered : first.factories.get? factory.sourceType = some factory)
    (alsoRegistered : second.factories.get? factory.sourceType = some factory)
    (foreign : ForeignNode) :
    Abreast type first second base ground (ifOk fun _ _ => True) run other
      (first.wire recur factory foreign node).run
      (second.wire following factory foreign node).run := by
  have concepts : other.forest.concept? node = run.forest.concept? node := by
    rw [twin.forest, Forest.concept?, twin.grafted.cell?_onto (own node List.mem_cons_self).1,
      Forest.concept?]
  unfold Engine.wire
  intro answer after ended
  rw [run_get_bind] at ended ⊢
  rw [concepts]
  revert answer after
  cases kind : run.forest.concept? node with
  | none => exact paces_ok () twin trivial
  | some concept =>
      by_cases filled : (!factory.skipChildren && !concept.isPlaceholder) = true
      · have declared := twin.typed.concepts kind (by simp_all)
        simp only [filled, if_true]
        obtain ⟨memo, looked, twin⟩ := counterparts.run_planFor twin registered declared
        obtain ⟨otherMemo, otherLooked, twin⟩ :=
          counterparts.run_planFor_right twin alsoRegistered declared
        intro answer after ended
        rw [run_lift_bind looked] at ended
        rw [run_lift_bind otherLooked]
        exact nested.assignAll twin own concept.name foreign _ answer after ended
      · simp only [filled]
        exact paces_ok () twin trivial

theorem runHook (nested : PacesNested first.schema (Memo.Counterparts type first second) recur
      following) (twin : Together type first second base ground run other)
    (own : Fresh base.nextId [node] run.forest) (confined : factory.Confined)
    (finish : counterpart.finish = factory.finish) (foreign : ForeignNode) :
    Abreast type first second base ground (ifOk fun _ _ => True) run other
      (first.runHook factory foreign node).run
      (second.runHook counterpart foreign node).run := by
  obtain ⟨decls, built⟩ := counterparts.built
  unfold Engine.runHook
  rw [finish]
  cases hooked : factory.finish with
  | none => exact paces_ok () twin trivial
  | some hook =>
      obtain ⟨new, known⟩ := own node List.mem_cons_self
      have confined := confined.finishes hook hooked foreign base.nextId run.forest.nextId node
        new known
      have hookPaces := paces_program built counterparts.same nested confined twin (Nat.le_refl _)
      rw [run_toConstruction, run_toConstruction] at hookPaces
      refine hookPaces.mono fun answer _ _ _ => ?_
      cases answer <;> trivial

theorem config_eq : second.config = first.config := by rw [counterparts.same]

theorem adopt (twin : Together type first second base ground run other)
    (own : Fresh base.nextId [node] run.forest)
    (lower : ∀ above ∈ parent, above < run.forest.nextId) (foreign : ForeignNode) :
    Abreast type first second base ground (fun _ _ => True) run other
      (first.adopt node foreign parent) (second.adopt node foreign parent) :=
  paces_adopt twin (by rw [counterparts.same]) (own node List.mem_cons_self).1 lower foreign

/-- A placeholder that was made is reported and adopted. -/
theorem placeholder (twin : Together type first second base ground run other)
    (own : Fresh base.nextId [node] run.forest)
    (lower : ∀ above ∈ parent, above < run.forest.nextId) (issue : Issue)
    (foreign : ForeignNode) :
    Abreast type first second base ground (ifOk fun made => Fresh base.nextId made.toList) run
      other
      (do report issue; first.adopt node foreign parent; return some node : EngineM _).run
      (do report issue; second.adopt node foreign parent; return some node : EngineM _).run := by
  refine (paces_report twin issue).lift.andThen fun _ _ _ twin grown _ => ?_
  have lower := fun above is => Nat.lt_of_lt_of_le (lower above is) grown
  refine (counterparts.adopt twin (own.mono grown) lower foreign).lift.andThen
    fun _ _ _ twin later _ => ?_
  exact paces_ok (some node) twin (own.mono (Nat.le_trans grown later))

theorem substituteGeneric (twin : Together type first second base ground run other)
    (lower : ∀ above ∈ parent, above < run.forest.nextId) (foreign : ForeignNode) :
    Abreast type first second base ground (ifOk fun made => Fresh base.nextId made.toList) run
      other (first.substituteGeneric first.adopt foreign parent).run
      (second.substituteGeneric second.adopt foreign parent).run := by
  unfold Engine.substituteGeneric
  rw [counterparts.config_eq]
  by_cases allowed : first.config.allowGeneric = true
  · rw [if_pos allowed, if_pos allowed]
    refine (paces_createGeneric twin).lift.andThen fun node _ _ after grown fresh => ?_
    exact counterparts.placeholder after (fresh.since twin.reached)
      (fun above is => Nat.lt_of_lt_of_le (lower above is) grown) _ foreign
  · rw [if_neg allowed, if_neg allowed]
    exact paces_throw _ twin

/-- What was made since the ground was laid is given up, and an error node takes its place. -/
theorem substituteError (twin : Together type first second base ground run other)
    (lower : ∀ above ∈ parent, above < base.nextId) (message : String) (foreign : ForeignNode) :
    Abreast type first second base ground (ifOk fun made => Fresh base.nextId made.toList) run
      other (Engine.substituteError first.adopt base.nextId message foreign parent).run
      (Engine.substituteError second.adopt base.nextId message foreign parent).run := by
  have carries := twin.grafted.carries_discardSince
  have discarded : Abreast type first second base ground (fun _ _ => True) run other
      (changeForest (·.discardSince base.nextId)) (changeForest (·.discardSince base.nextId)) := by
    refine paces_modifyGet rfl ?_ (Nat.le_of_eq carries.nextId.symm) trivial
    dsimp only
    rw [twin.forest, ← carries.onto]
    exact twin.change carries.grafted (twin.typed.swept (Forest.swept_sweepRounds _ _))
  unfold Engine.substituteError
  refine discarded.lift.andThen fun _ _ _ swept _ _ => ?_
  refine (paces_createError swept message).lift.andThen fun node _ _ after _ fresh => ?_
  exact counterparts.placeholder after (fresh.since swept.reached)
    (fun above is => Nat.lt_of_lt_of_le (lower above is) after.reached) _ foreign

end Counterparts

end Engine

end TypedTree
