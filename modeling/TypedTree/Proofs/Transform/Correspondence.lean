import TypedTree.Proofs.Transform.Adoption
import TypedTree.Proofs.Transform.Agreement

namespace TypedTree

/-- A factory that only makes a node of one concept, without a hook, and whose contained
features are read along paths that lead below the foreign node. -/
structure Factory.Plain (schema : Schema) (made : String) (factory : Factory) : Prop where
  constructs : factory.construct = (Factory.ofConcept factory.sourceType made).construct
  unhooked : factory.finish = none
  descends : ∀ concept, schema.concept? made = some concept →
    factory.descends concept = true

/-- The factory for a foreign type is plain and makes the concept that `made` says. -/
structure Engine.Regular (engine : Engine) (made : String → String) : Prop where
  built : ∃ decls, Schema.build decls = .ok engine.schema
  lookups : engine.lookups = .memoized
  keyed : ∀ {type factory}, engine.factories.get? type = some factory →
    factory.sourceType = type
  plain : ∀ {type factory}, engine.factories.get? type = some factory →
    factory.Plain engine.schema (made type)

theorem Engine.Regular.reliable {engine : Engine} {made : String → String}
    (regular : engine.Regular made) : engine.lookups.Reliable := by
  rw [regular.lookups]
  exact Lookups.reliable_memoized

theorem Engine.Regular.descends {engine : Engine} {made : String → String}
    (regular : engine.Regular made) : engine.Descends made := by
  intro type factory concept registered declared
  rw [regular.keyed registered] at declared
  exact (regular.plain registered).descends concept declared

namespace Engine

variable {engine : Engine} {made : String → String} {supers : String → List String}
  {foreign : ForeignNode} {factory : Factory} {concept : Concept} {run : Run} {memo : Memo}
  {recur : Recur} {type name : String}

theorem run_factoryFor (regular : engine.Regular made)
    (faithful : run.memo.Faithful engine supers)
    (typed : (ForeignValue.node foreign).TypedBy supers) :
    ∃ memo : Memo, memo.Faithful engine supers ∧
      (engine.factoryFor foreign).run run =
        some (findFactory engine.factories foreign, { run with memo := memo }) := by
  have same : foreign.supertypes = supers foreign.typeName := by
    obtain ⟨type, fields, range, text, rfl⟩ := typed foreign .here
    rfl
  obtain ⟨_, memo, looked, rfl, faithfulAfter⟩ :=
    run_factoryFor_of_reliable regular.reliable faithful (findFactory_of_supertypes _ same)
  rw [findFactory_of_supertypes _ same]
  exact ⟨memo, faithfulAfter, looked⟩

theorem run_planFor (regular : engine.Regular made) (faithful : run.memo.Faithful engine supers)
    (registered : engine.factories.get? type = some factory)
    (declared : engine.schema.concept? name = some concept) :
    ∃ memo : Memo, memo.Faithful engine supers ∧
      (engine.planFor factory concept).run run =
        some (factory.plan concept, { run with memo := memo }) := by
  obtain ⟨decls, built⟩ := regular.built
  rw [← regular.keyed registered] at registered
  rw [← Schema.name_of_concept? built declared] at declared
  obtain ⟨memo, looked, faithfulAfter⟩ :=
    run_planFor_of_reliable regular.reliable faithful registered declared
  exact ⟨memo, faithfulAfter, looked⟩

theorem run_construct (regular : engine.Regular made)
    (registered : engine.factories.get? type = some factory) :
    (engine.construct recur factory foreign).run run =
      match engine.schema.concept? (made type) with
      | some concept =>
          some (.ok (some run.forest.nextId),
            { run with forest := (run.forest.add (.blank concept)).2 })
      | none => some (.error (.edit (.unknownConcept (made type))), run) :=
  run_construct_ofConcept (regular.plain registered).constructs

/-- A new node of a concept, with what is recorded about where it came from. -/
def adopted (source : Option Source) (foreign : ForeignNode) (parent : Option NodeId)
    (concept : Concept) : Cell :=
  { Cell.blank concept with
    origin := some (.foreign foreign)
    range := foreign.range
    parent := parent
    source := if parent.isSome then none else source }

section

variable {source : Option Source} {parent : Option NodeId} {before forest : Forest}

theorem wiring_adopted (distinct : (concept.features.map (·.name)).Nodup)
    (known : before.LinksKnown) (lower : ∀ above, parent = some above → above < before.nextId) :
    Forest.Wiring before (adopted source foreign parent concept)
      (attachMetadata source before.nextId foreign parent (before.add (.blank concept)).2)
      [] concept.features [] := by
  have nextId : (attachMetadata source before.nextId foreign parent
      (before.add (.blank concept)).2).nextId = before.nextId + 1 :=
    (Forest.nextId_modify _ _ _).trans Forest.nextId_add
  refine ⟨known, lower, ?_, ?_, ?_, ?_, nofun, fun _ _ => rfl⟩
  · exact (Forest.Extends.add before _).modify (Nat.le_refl _) _
  · intro node above link
    have old : ∀ other, before.parentLink? other = some above → above < before.nextId + 1 :=
      fun other stored => Nat.lt_succ_of_lt (known other above stored)
    rw [nextId]
    rw [Forest.parentLink?_attachMetadata, Forest.parentLink?_add (Cell.bare_blank _)] at link
    split at link
    · cases parent with
      | none => exact old node link
      | some given =>
          cases link
          exact Nat.lt_succ_of_lt (lower above rfl)
    · exact old node link
  · refine ⟨adopted source foreign parent concept, ?_, rfl, ?_⟩
    · have made : (before.add (.blank concept)).2.cell? before.nextId = some (.blank concept) :=
        before.cell?_add_self (.blank concept)
      rw [attachMetadata, Forest.cell?_modify, if_pos rfl, made, Option.map_some]
      cases parent <;> rfl
    · exact Cell.slots_blank distinct
  · rw [nextId, Nat.sub_self]
    exact .nil _ _

theorem made_of_wiring {filled : List (String × Slot)} {parts : List (String × Part Sketch)}
    (wiring : Forest.Wiring before (adopted source foreign parent concept) forest filled [] parts) :
    Made source parent before (some before.nextId)
      (.node concept (some (.foreign foreign)) foreign.range parts) forest := by
  have start := wiring.nextId_lt
  obtain ⟨cell, found, isBase, slots⟩ := wiring.cell
  rw [List.map_nil, List.append_nil] at slots
  have children : cell.children = filled.flatMap (·.2.contained) := by rw [Cell.children, slots]
  have size : forest.nextId - before.nextId = forest.nextId - (before.nextId + 1) + 1 := by lia
  refine ⟨rfl, wiring.extended, wiring.knownNow, ?_, fun depth enough => ?_, ?_, ?_⟩
  · rw [size]
    refine Forest.Grown.over found ?_ ?_
    · rw [children]
      exact wiring.grown
    · rw [children]
      exact wiring.linked
  · obtain ⟨levels, rfl⟩ : ∃ levels, depth = levels + 1 := ⟨depth - 1, by lia⟩
    rw [List.map_singleton, Forest.sketchTo, found, Option.map_some, slots,
      wiring.shown levels (by lia), isBase]
    rfl
  · rw [Forest.parentLink?, found, Option.bind_some, isBase]
    rfl
  · rw [found, Option.bind_some, isBase]
    rfl

end

theorem agrees_report {valid : Memo → Prop} {start : Forest} (issue : Issue)
    (memo : valid run.memo) :
    Agrees valid start (liftM (report issue) : EngineM Unit)
      (liftM (Drafting.report issue) : Drafting Unit) run fun _ _ forest => forest = run.forest :=
  ⟨(), { run with issues := run.issues ++ [issue] }, rfl, rfl, memo, rfl⟩

section

variable {drafted : ForeignNode → Drafting Sketch} {parent : Option NodeId}

theorem agrees_substituteGeneric (typed : (ForeignValue.node foreign).TypedBy supers)
    (unmapped : findFactory engine.factories foreign = none)
    (faithful : run.memo.Faithful engine supers) (known : run.forest.LinksKnown)
    (lower : ∀ above, parent = some above → above < run.forest.nextId) :
    Agrees (Memo.Faithful engine supers) run.forest
      (engine.substituteGeneric engine.adopt foreign parent)
      (Drafting.nodeWith drafted engine made foreign) run
      (Made engine.source parent run.forest) := by
  obtain ⟨type, fields, range, text, rfl⟩ := typed foreign .here
  have unregistered : Drafting.firstRegistered engine.factories (type :: supers type) = none :=
    (Drafting.firstRegistered_eq _ (.record type _ fields range text)).trans unmapped
  unfold substituteGeneric Drafting.nodeWith
  dsimp only
  rw [unregistered]
  cases engine.config.allowGeneric with
  | false => exact agrees_throw faithful (.refl _)
  | true =>
      refine agrees_lift rfl rfl ?_
      dsimp only
      rw [if_pos rfl]
      refine Agrees.bind (agrees_report _ faithful) fun _ _ after faithful same => ?_
      refine agrees_lift rfl rfl (agrees_pure faithful ?_)
      dsimp only
      rw [same]
      exact made_of_wiring (wiring_adopted (by decide) known lower)

variable (regular : engine.Regular made)
include regular

section

variable (agreesOn : AgreesOn (Memo.Faithful engine supers) supers engine.source recur drafted)
include agreesOn

theorem agrees_wire (typed : (ForeignValue.node foreign).TypedBy supers)
    (registered : engine.factories.get? type = some factory)
    (declared : engine.schema.concept? (made type) = some concept) {before : Forest} {base : Cell}
    (ofConcept : base.concept = concept)
    (wiring : Forest.Wiring before base run.forest [] concept.features [])
    (faithful : run.memo.Faithful engine supers) :
    Agrees (Memo.Faithful engine supers) before
      (engine.wire recur factory foreign before.nextId)
      (Drafting.contents drafted factory concept foreign) run
      fun _ parts after => ∃ filled, Forest.Wiring before base after filled [] parts := by
  obtain ⟨decls, built⟩ := regular.built
  have distinct := Schema.features_nodup built declared
  have kind : run.forest.concept? before.nextId = some concept := by
    obtain ⟨cell, found, isBase, _⟩ := wiring.cell
    rw [Forest.concept?, found, isBase, ← ofConcept]
    rfl
  refine agrees_get ?_
  rw [kind]
  dsimp only
  unfold Drafting.contents
  rw [contains_placeholderNames]
  by_cases filled : (!factory.skipChildren && !concept.isPlaceholder) = true
  · rw [if_pos filled, if_pos filled]
    obtain ⟨memo, faithfulAfter, planned⟩ := run_planFor regular faithful registered declared
    refine agrees_lift planned rfl ?_
    subst ofConcept
    have wiringAfter : Forest.Wiring before base ({ run with memo := memo } : Run).forest []
        base.concept.features [] := wiring
    rw [factory.plan_eq]
    refine agreesOn.assignAll (fun feature member => ?_) typed ?_ wiringAfter faithfulAfter
    · exact Concept.feature?_of_mem distinct member
    · intro feature member contains source isSource
      obtain ⟨path, rfl, _⟩ := Factory.exists_path
        ((regular.plain registered).descends _ declared) member contains isSource
      exact fun inner held => typed inner (ForeignValue.Holds.of_navigate typed held).1
  · rw [if_neg filled, if_neg filled]
    exact agrees_pure faithful ⟨_, wiring.skipAll⟩

theorem AgreesOn.transformWith :
    AgreesOn (Memo.Faithful engine supers) supers engine.source
      (engine.transformWith engine.adopt recur) (Drafting.nodeWith drafted engine made) := by
  intro foreign typed parent run faithful known lower
  obtain ⟨memo, faithfulAfter, looked⟩ := run_factoryFor regular faithful typed
  refine agrees_lift looked rfl ?_
  cases found : findFactory engine.factories foreign with
  | none => exact agrees_substituteGeneric typed found faithfulAfter known lower
  | some factory =>
      obtain ⟨type, registered⟩ := get?_of_findFactory found
      have constructed : (engine.construct recur factory foreign).run { run with memo := memo } =
          _ := run_construct regular registered
      refine agrees_get ?_
      obtain ⟨name, fields, range, text, rfl⟩ := typed foreign .here
      have first : Drafting.firstRegistered engine.factories (name :: supers name) = some factory :=
        (Drafting.firstRegistered_eq _ (.record name _ fields range text)).trans found
      unfold Drafting.nodeWith
      dsimp only
      rw [first]
      dsimp only
      rw [regular.keyed registered]
      cases declared : engine.schema.concept? (made type) with
      | none =>
          rw [declared] at constructed
          refine agrees_lift constructed rfl ?_
          exact agrees_throw faithfulAfter (.refl _)
      | some concept =>
          rw [declared] at constructed
          obtain ⟨decls, built⟩ := regular.built
          have distinct := Schema.features_nodup built declared
          refine agrees_lift constructed rfl ?_
          refine agrees_lift rfl rfl ?_
          refine Agrees.bind (agrees_wire regular agreesOn typed registered declared rfl
            (wiring_adopted distinct known lower) faithfulAfter) ?_
          intro _ parts after faithful filled
          obtain ⟨filled, wiring⟩ := filled
          have unhooked (foreign : ForeignNode) :
              (engine.runHook factory foreign run.forest.nextId).run.run after =
                some (.ok (), after) := by
            unfold runHook
            rw [(regular.plain registered).unhooked]
            rfl
          refine agrees_step (unhooked _) rfl (agrees_pure faithful ?_)
          exact made_of_wiring wiring

end

/-- With any fuel the engine agrees with the draft that has as much. -/
theorem agreesOn_transformNode (supers : String → List String) (fuel : Nat) :
    AgreesOn (Memo.Faithful engine supers) supers engine.source
      (engine.transformNode fuel) (Drafting.node engine made fuel) := by
  induction fuel with
  | zero => exact fun _ _ _ _ _ _ _ => rfl
  | succ fuel ih => exact ih.transformWith regular

end

end Engine

end TypedTree
