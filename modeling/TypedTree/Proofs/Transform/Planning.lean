import TypedTree.Proofs.Transform.Draft
import TypedTree.Proofs.Transform.Rules
import TypedTree.Proofs.Transform.Running
import TypedTree.Proofs.Transform.Upkeep

namespace TypedTree

open Relation ExtractionRules WrittenRule

variable {decls : List ConceptDecl} {schema : Schema} {name : String} {concept : Concept}
  {written : List WrittenRule} {factory : Factory}

/-- What a feature is read from: by the rule of the first concept in the ancestry that has
one for it, or else by the rule for its name, or else along the path it declares. -/
inductive Feature.ReadFrom (rule? : String → Option FeatureSource) (concept : Concept)
    (feature : Feature) : FeatureSource → Prop where
  | qualified {nearer further : List String} {owner : String} {source : FeatureSource}
      (line : concept.ancestry = nearer ++ owner :: further)
      (unruled : ∀ other ∈ nearer, rule? (qualifiedKey other feature.name) = none)
      (ruled : rule? (qualifiedKey owner feature.name) = some source) :
      ReadFrom rule? concept feature source
  | bare {source : FeatureSource}
      (unqualified : ∀ other ∈ concept.ancestry, rule? (qualifiedKey other feature.name) = none)
      (ruled : rule? feature.name = some source) : ReadFrom rule? concept feature source
  | mapped {path : String}
      (unqualified : ∀ other ∈ concept.ancestry, rule? (qualifiedKey other feature.name) = none)
      (unruled : rule? feature.name = none) (declared : feature.mappedFrom = some path) :
      ReadFrom rule? concept feature (.path path)

/-- A plan is made of the features of a concept as the written rules and the declared paths
say. -/
structure PlannedBy (decls : List ConceptDecl) (written : List WrittenRule) (name : String)
    (concept : Concept) (plan : Plan) : Prop where
  inOrder : (plan.map Prod.fst).Sublist concept.features
  once : (plan.map fun step => step.1.name).Nodup
  planned_iff : ∀ feature ∈ concept.features, (∃ source, (feature, source) ∈ plan) ↔
    (∃ owner ∈ concept.ancestry, ∃ rule ∈ written, rule.key = qualifiedKey owner feature.name) ∨
      (∃ rule ∈ written, rule.key = feature.name) ∨ ∃ path, feature.mappedFrom = some path
  source_iff : ∀ feature source, (feature, source) ∈ plan ↔
    feature ∈ concept.features ∧ feature.ReadFrom (lastUnder written) concept source
  /-- The first concept of the ancestry that has a rule has no strict subtype with one. -/
  nearest : ∀ feature nearer owner further, concept.ancestry = nearer ++ owner :: further →
    (∀ other ∈ nearer, lastUnder written (qualifiedKey other feature) = none) →
    ∀ other, ReflTransGen (Schema.Extends decls) name other →
      ReflTransGen (Schema.Extends decls) other owner → other ≠ owner →
        ∀ rule ∈ written, rule.key ≠ qualifiedKey other feature

theorem Factory.sourceFor_eq_some_iff {feature : Feature} {source : FeatureSource} :
    factory.sourceFor concept feature = some source ↔
      feature.ReadFrom factory.rules.sources.get? concept source := by
  unfold Factory.sourceFor ExtractionRules.source?
  cases search : concept.ancestry.findSome? fun owner =>
      factory.rules.sources.get? (qualifiedKey owner feature.name) with
  | some found =>
      obtain ⟨nearer, owner, further, line, ruled, unruled⟩ := List.findSome?_eq_some_iff.mp search
      have member : owner ∈ concept.ancestry := line ▸ by simp
      constructor
      · intro same
        cases same
        exact .qualified line unruled ruled
      · intro reads
        cases reads with
        | qualified line unruled ruled =>
            have first := List.findSome?_eq_some_iff.mpr ⟨_, _, _, line, ruled, unruled⟩
            rw [search] at first
            rw [first, Option.some_or]
        | bare unqualified _ | mapped unqualified _ _ =>
            rw [unqualified owner member] at ruled
            cases ruled
  | none =>
      have unqualified := List.findSome?_eq_none_iff.mp search
      have absent {owner : String} {source : FeatureSource} (member : owner ∈ concept.ancestry)
          (ruled : factory.rules.sources.get? (qualifiedKey owner feature.name) = some source) :
          False := by
        rw [unqualified owner member] at ruled
        cases ruled
      constructor
      · intro same
        rcases Option.or_eq_some_iff.mp same with ruled | ⟨unruled, mapped⟩
        · exact .bare unqualified ruled
        · obtain ⟨path, declared, rfl⟩ := Option.map_eq_some_iff.mp mapped
          exact .mapped unqualified unruled declared
      · intro reads
        cases reads with
        | qualified line _ ruled => exact (absent (line ▸ by simp) ruled).elim
        | bare _ ruled => rw [ruled, Option.some_or]
        | mapped _ unruled declared => rw [unruled, declared]; rfl

theorem Factory.mem_plan_iff {feature : Feature} {source : FeatureSource} :
    (feature, source) ∈ factory.plan concept ↔
      feature ∈ concept.features ∧ feature.ReadFrom factory.rules.sources.get? concept source := by
  rw [factory.plan_eq, List.mem_filterMap, ← Factory.sourceFor_eq_some_iff]
  constructor
  · rintro ⟨_, member, mapped⟩
    obtain ⟨_, found, same⟩ := Option.map_eq_some_iff.mp mapped
    cases same
    exact ⟨member, found⟩
  · rintro ⟨member, found⟩
    exact ⟨feature, member, by rw [found]; rfl⟩

theorem ExtractionRules.source?_isSome_iff {rules : ExtractionRules} {feature : String} :
    (rules.source? concept feature).isSome = true ↔
      (∃ owner ∈ concept.ancestry, qualifiedKey owner feature ∈ rules.sources.keys) ∨
        feature ∈ rules.sources.keys := by
  have either : rules.source? concept feature =
      (concept.ancestry.findSome? fun owner =>
        rules.sources.get? (qualifiedKey owner feature)).or (rules.sources.get? feature) := by
    unfold source?
    cases concept.ancestry.findSome? fun owner =>
      rules.sources.get? (qualifiedKey owner feature) <;> rfl
  rw [either, Option.isSome_or, Bool.or_eq_true, List.isSome_findSome?, List.any_eq_true]
  simp only [Registry.get?_isSome_iff]

/-- Strict subtypes come before their supertypes in an ancestry. -/
theorem Schema.Built.mem_nearer {known : Ancestry.Known} (built : Schema.Built decls schema known)
    (found : schema.concept? name = some concept) {nearer further : List String}
    {owner other : String} (line : concept.ancestry = nearer ++ owner :: further)
    (above : ReflTransGen (Schema.Extends decls) name other)
    (below : ReflTransGen (Schema.Extends decls) other owner) (differs : other ≠ owner) :
    other ∈ nearer := by
  have listed := (built.mem_ancestry_iff found).mpr above
  have ordered := built.ancestry_ordered found
  rw [line] at listed ordered
  rcases List.mem_append.mp listed with earlier | here
  · exact earlier
  · rcases List.mem_cons.mp here with same | later
    · exact absurd same differs
    · have apart := List.rel_of_pairwise_cons (List.pairwise_append.mp ordered).2.1 later
      exact absurd below apart

/-- The plan of a factory is made as the rules say that were written for it. -/
theorem Factory.plannedBy {known : Ancestry.Known} (built : Schema.Built decls schema known)
    (found : schema.concept? name = some concept) (rules : factory.rules = .ofWritten written) :
    PlannedBy decls written name concept (factory.plan concept) where
  inOrder := factory.plan_sublist concept
  once := by
    have ordered := (factory.plan_sublist concept).map Feature.name
    rw [List.map_map] at ordered
    exact ordered.nodup (built.features_nodup found)
  planned_iff feature member := by
    have sourced : (∃ source, (feature, source) ∈ factory.plan concept) ↔
        (factory.sourceFor concept feature).isSome = true := by
      simp only [Factory.mem_plan_iff, member, true_and, ← Factory.sourceFor_eq_some_iff,
        Option.isSome_iff_exists]
    rw [sourced, Factory.sourceFor, Option.isSome_or, Bool.or_eq_true, source?_isSome_iff, rules]
    simp only [mem_keys_ofWritten_iff, Option.isSome_map, Option.isSome_iff_exists, or_assoc]
  source_iff feature source := by
    have kept : factory.rules.sources.get? = lastUnder written := by
      rw [rules]
      exact funext (get?_ofWritten written)
    rw [Factory.mem_plan_iff, kept]
  nearest feature nearer owner further line unruled other above below differs rule member same := by
    have absent := unruled other (built.mem_nearer found line above below differs)
    rw [← get?_ofWritten] at absent
    have present := mem_keys_ofWritten_iff.mpr ⟨rule, member, same⟩
    rw [← Registry.get?_isSome_iff, absent] at present
    cases present

/-- The slot that an edit writes to. -/
def Edit.slot? : Edit → Option (NodeId × String)
  | .setAttribute node feature _ | .setReference node feature _ | .resolveReference node feature _
  | .setChild node feature _ | .setChildren node feature _ | .addChild node feature _ =>
      some (node, feature)
  | .setOrigin _ _ | .setRange _ _ | .setSource _ _ => none

namespace Engine

variable {engine : Engine} {recur : Recur} {node : NodeId} {foreign : ForeignNode}
  {run ready after : Run} {result : Except TransformError Unit} {α : Type}

/-- What transforming foreign nodes under a node comes to. -/
def Nested (recur : Recur) (node : NodeId) : Run → Run → Prop :=
  ReflTransGen fun run after =>
    ∃ foreign result, (recur foreign (some node)).run.run run = some (result, after)

/-- Foreign nodes are transformed under the node, and then one edit is made, to the one slot;
or there is an error and no edit. -/
inductive Assigned (recur : Recur) (node : NodeId) (feature : String) (run : Run) :
    Except TransformError Unit → Run → Prop where
  | set {ready : Run} {edit : Edit} {forest : Forest} (nested : Nested recur node run ready)
      (slot : edit.slot? = some (node, feature)) (applied : ready.forest.apply edit = .ok forest) :
      Assigned recur node feature run (.ok ()) { ready with forest := forest }
  | failed {after : Run} (nested : Nested recur node run after) (error : TransformError) :
      Assigned recur node feature run (.error error) after

/-- A planned feature is assigned what its source reads, and nothing else is assigned. -/
structure Visits (recur : Recur) (node : NodeId) (concept : String) (foreign : ForeignNode)
    (step : Feature × FeatureSource) (run : Run) (result : Except TransformError Unit)
    (after : Run) : Prop where
  ran : (assign recur node concept step.1 (step.2.extract foreign)).run.run run =
    some (result, after)
  alone : Assigned recur node step.1.name run result after

/-- The features of a plan are visited one after the other, up to the first that fails. -/
inductive VisitsAll (recur : Recur) (node : NodeId) (concept : String) (foreign : ForeignNode) :
    Plan → Run → Except TransformError Unit → Run → Prop where
  | done {run : Run} : VisitsAll recur node concept foreign [] run (.ok ()) run
  | next {step : Feature × FeatureSource} {rest : Plan} {run middle after : Run}
      {result : Except TransformError Unit}
      (first : Visits recur node concept foreign step run (.ok ()) middle)
      (later : VisitsAll recur node concept foreign rest middle result after) :
      VisitsAll recur node concept foreign (step :: rest) run result after
  | stopped {step : Feature × FeatureSource} {rest : Plan} {run after : Run}
      {error : TransformError}
      (first : Visits recur node concept foreign step run (.error error) after) :
      VisitsAll recur node concept foreign (step :: rest) run (.error error) after

theorem nested_of_recur {answer : Except TransformError (Option NodeId)}
    (ran : (recur foreign (some node)).run.run run = some (answer, after)) :
    Nested recur node run after :=
  .single ⟨foreign, answer, ran⟩

theorem nested_of_transformElements {concept feature : String} {values : List ForeignValue}
    {answer : Except TransformError (List NodeId)}
    (ran : (transformElements recur node concept feature values).run.run run =
      some (answer, after)) : Nested recur node run after := by
  induction values generalizing run answer with
  | nil =>
      cases ran
      exact .refl
  | cons value rest ih =>
      match value with
      | .null => exact ih ran
      | .list _ | .scalar _ =>
          cases ran
          exact .refl
      | .node foreign =>
          -- Either this node fails, or one of the later ones, or all are transformed.
          rcases run_bind_eq_some_iff.mp ran with ⟨_, middle, begun, ran⟩ | ⟨_, failed, _⟩
          · have below := nested_of_recur begun
            rcases run_bind_eq_some_iff.mp ran with ⟨_, _, ran, ended⟩ | ⟨_, failed, _⟩
            · cases ended
              exact below.trans (ih ran)
            · exact below.trans (ih failed)
          · exact nested_of_recur failed

theorem assigned_of_edit {edit : Edit} {feature : String} (nested : Nested recur node run ready)
    (slot : edit.slot? = some (node, feature))
    (ran : (Engine.edit edit).run.run ready = some (result, after)) :
    Assigned recur node feature run result after := by
  rw [run_edit] at ran
  cases applied : ready.forest.apply edit with
  | ok forest =>
      rw [applied] at ran
      cases ran
      exact .set nested slot applied
  | error reason =>
      rw [applied] at ran
      cases ran
      exact .failed nested _

theorem assigned_of_nested {first : EngineM α} {change : α → Edit} {feature : String}
    (nested : ∀ answer middle, first.run.run run = some (answer, middle) →
      Nested recur node run middle)
    (slot : ∀ answer, (change answer).slot? = some (node, feature))
    (ran : (first >>= fun answer => edit (change answer)).run.run run = some (result, after)) :
    Assigned recur node feature run result after := by
  rcases run_bind_eq_some_iff.mp ran with ⟨answer, middle, begun, ended⟩ | ⟨error, failed, rfl⟩
  · exact assigned_of_edit (nested _ _ begun) (slot answer) ended
  · exact .failed (nested _ _ failed) error

theorem assigned_of_assign {concept : String} {feature : Feature} {value : ForeignValue}
    (ran : (assign recur node concept feature value).run.run run = some (result, after)) :
    Assigned recur node feature.name run result after := by
  unfold assign at ran
  match kind : feature.type, value with
  | .attribute, .list _ | .reference _, .list _ | .child _, .list _ | .child _, .scalar _
  | .children _, .scalar _ | .children _, .node _ =>
      rw [kind] at ran
      cases ran
      exact .failed .refl _
  | .attribute, .null | .attribute, .scalar _ | .attribute, .node _ | .reference _, .null
  | .reference _, .scalar _ | .reference _, .node _ | .child _, .null | .children _, .null =>
      rw [kind] at ran
      exact assigned_of_edit .refl rfl ran
  | .child _, .node foreign =>
      rw [kind] at ran
      exact assigned_of_nested (fun _ _ => nested_of_recur) (fun _ => rfl) ran
  | .children _, .list items =>
      rw [kind] at ran
      exact assigned_of_nested (fun _ _ => nested_of_transformElements) (fun _ => rfl) ran

theorem run_assignAll_iff {concept : String} {plan : Plan} :
    (assignAll recur node concept foreign plan).run.run run = some (result, after) ↔
      VisitsAll recur node concept foreign plan run result after := by
  induction plan generalizing run with
  | nil =>
      constructor
      · intro ran
        cases ran
        exact .done
      · rintro ⟨⟩
        rfl
  | cons step rest ih =>
      rw [assignAll, run_bind_eq_some_iff]
      constructor
      · rintro (⟨_, middle, first, later⟩ | ⟨error, failed, rfl⟩)
        · exact .next ⟨first, assigned_of_assign first⟩ (ih.mp later)
        · exact .stopped ⟨failed, assigned_of_assign failed⟩
      · intro visits
        cases visits with
        | next first later => exact .inl ⟨(), _, first.ran, ih.mpr later⟩
        | stopped first => exact .inr ⟨_, first.ran, rfl⟩

/-- From this run on, a node that the factory makes is filled by the plan for its concept;
placeholders are left alone, and so are all nodes if the factory skips the children. -/
structure FillsByPlan (engine : Engine) (factory : Factory) (run : Run) : Prop where
  planned : ∀ {name concept}, engine.schema.concept? name = some concept →
    ∃ memo, (engine.planFor factory concept).run run =
      some (factory.plan concept, { run with memo := memo })
  filled : ∀ {recur foreign node concept}, run.forest.concept? node = some concept →
    factory.skipChildren = false → concept.isPlaceholder = false →
    ∃ memo, ∀ result after,
      (engine.wire recur factory foreign node).run.run run = some (result, after) ↔
        VisitsAll recur node concept.name foreign (factory.plan concept)
          { run with memo := memo } result after
  left : ∀ {recur foreign node concept}, run.forest.concept? node = some concept →
    factory.skipChildren = true ∨ concept.isPlaceholder = true →
    (engine.wire recur factory foreign node).run.run run = some (.ok (), run)

theorem run_wire_iff {plan : Plan} {memo : Memo} (kind : run.forest.concept? node = some concept)
    (unskipped : factory.skipChildren = false) (proper : concept.isPlaceholder = false)
    (planned : (engine.planFor factory concept).run run = some (plan, { run with memo := memo })) :
    (engine.wire recur factory foreign node).run.run run = some (result, after) ↔
      VisitsAll recur node concept.name foreign plan { run with memo := memo } result after := by
  unfold wire
  rw [run_get_bind, kind]
  simp only [unskipped, proper, Bool.not_false, Bool.and_self, if_true]
  rw [run_lift_bind planned, run_assignAll_iff]

theorem run_wire_of_unfilled (kind : run.forest.concept? node = some concept)
    (unfilled : factory.skipChildren = true ∨ concept.isPlaceholder = true) :
    (engine.wire recur factory foreign node).run.run run = some (.ok (), run) := by
  unfold wire
  rw [run_get_bind, kind]
  rcases unfilled with skipped | isPlaceholder
  · simp [skipped]
  · simp [isPlaceholder]

theorem Orderly.fillsByPlan (orderly : engine.Orderly) (tidy : engine.Tidy run)
    (registered : engine.factories.get? factory.sourceType = some factory) :
    engine.FillsByPlan factory run where
  planned {name concept} found := by
    obtain ⟨decls, built⟩ := orderly.built
    have named := Schema.name_of_concept? built found
    obtain ⟨memo, planned, _⟩ := run_planFor_of_reliable orderly.lookups tidy.recalls registered
      (named ▸ found)
    exact ⟨memo, planned⟩
  filled kind unskipped proper := by
    obtain ⟨memo, planned, _⟩ := orderly.plan tidy registered kind proper
    exact ⟨memo, fun _ _ => run_wire_iff kind unskipped proper planned⟩
  left kind unfilled := run_wire_of_unfilled kind unfilled

end Engine

/-- Answers with a plan made anew, whatever is remembered. -/
def Lookups.replanning (lookups : Lookups) : Lookups :=
  { lookups with
    plan := fun factory concept memo =>
      (factory.plan concept, (lookups.plan factory concept memo).2) }

theorem Lookups.Reliable.interchangeable_replanning {lookups : Lookups}
    (reliable : lookups.Reliable) : lookups.Interchangeable lookups.replanning where
  factory := rfl
  plan recalls registered declared := by
    obtain ⟨after, looked, _⟩ := reliable.plan recalls registered declared
    simp only [replanning, looked]

theorem Lookups.Reliable.replanning {lookups : Lookups} (reliable : lookups.Reliable) :
    lookups.replanning.Reliable where
  factory := reliable.factory
  plan recalls registered declared := by
    rw [reliable.interchangeable_replanning.plan recalls registered declared]
    exact reliable.plan recalls registered declared

namespace Engine

variable {engine : Engine} {run after : Run} {α : Type}

def replanning (engine : Engine) : Engine :=
  { engine with lookups := engine.lookups.replanning }

theorem fillsByPlan_replanning (engine : Engine) (factory : Factory) (run : Run) :
    engine.replanning.FillsByPlan factory run where
  planned _ := ⟨_, rfl⟩
  filled kind unskipped proper := ⟨_, fun _ _ => run_wire_iff kind unskipped proper rfl⟩
  left kind unfilled := run_wire_of_unfilled kind unfilled

/-- Each of two computations follows the other, so they do the same. -/
theorem run_eq_of_simulates {holds others : Forest → Prop} {valid alsoValid : Memo → Prop}
    {first second : RunM α} (there : Simulates (SameWith holds valid) first second)
    (back : Simulates (SameWith others alsoValid) second first)
    (here : SameWith holds valid run run) (alsoHere : SameWith others alsoValid run run) :
    second.run run = first.run run := by
  cases ran : first.run run with
  | some ended =>
      obtain ⟨_, same, rfl, _⟩ := there _ _ _ _ here ran
      exact same
  | none =>
      cases otherRan : second.run run with
      | none => rfl
      | some ended =>
          obtain ⟨_, same, _⟩ := back _ _ _ _ alsoHere otherRan
          rw [ran] at same
          cases same

theorem Orderly.replanning (orderly : engine.Orderly) : engine.replanning.Orderly :=
  ⟨orderly.built, orderly.lookups.replanning, orderly.keyed⟩

theorem Orderly.simulatesRecur_replanning (orderly : engine.Orderly) (fuel : Nat) :
    SimulatesRecur engine.SameTidy (engine.transformNode fuel)
      (engine.replanning.transformNode fuel) :=
  orderly.simulatesRecur_of_interchangeable orderly.lookups.interchangeable_replanning fuel

theorem Orderly.simulatesRecur_of_replanning (orderly : engine.Orderly) (fuel : Nat) :
    SimulatesRecur engine.replanning.SameTidy (engine.replanning.transformNode fuel)
      (engine.transformNode fuel) := by
  have back := orderly.replanning.simulatesRecur_of_interchangeable
    orderly.lookups.interchangeable_replanning.symm fuel
  have same : { engine.replanning with lookups := engine.lookups } = engine := rfl
  rwa [same] at back

theorem Tidy.replanning (tidy : engine.Tidy run) : engine.replanning.Tidy run :=
  ⟨tidy.typed, tidy.recalls.factories, tidy.recalls.plans⟩

end Engine

namespace Transformer.Session

variable {origin : Engine} {session : Session} {α : Type}

/-- The way of an engine that makes every plan anew. -/
def replanning : Way := fun engine => engine.replanning.transformNode

theorem performing_congr {first second : Engine → EngineM α}
    (same : (first session.transformer.engine).run.run session.state =
      (second session.transformer.engine).run.run session.state)
    (answer : Except TransformError α → Reply) :
    session.performing first answer = session.performing second answer := by
  unfold performing perform
  exact congrArg (fun ended => Option.map _ (ended >>= _)) same

section

variable (kept : session.Kept origin)
include kept

theorem Kept.run_eq_of_simulates {first second : RunM α}
    (there : Engine.Simulates session.transformer.engine.SameTidy first second)
    (back : Engine.Simulates session.transformer.engine.replanning.SameTidy second first) :
    second.run session.state = first.run session.state :=
  Engine.run_eq_of_simulates there back ⟨rfl, kept.tidy.typed, kept.tidy.recalls⟩
    ⟨rfl, kept.tidy.replanning.typed, kept.tidy.replanning.recalls⟩

theorem Kept.step_replanning (call : Call) :
    session.step replanning call = session.step Engine.transformNode call := by
  have there := kept.orderly.simulatesRecur_replanning
  have back := kept.orderly.simulatesRecur_of_replanning
  -- Only two kinds of calls transform anything; the others do not depend on the way.
  cases call with
  | transform fuel value parent =>
      rw [Session.step, Session.step]
      refine performing_congr ?_ _
      exact kept.run_eq_of_simulates ((there fuel).transformValue value parent)
        ((back fuel).transformValue value parent)
  | transformList fuel value parent =>
      rw [Session.step, Session.step]
      refine performing_congr ?_ _
      exact kept.run_eq_of_simulates ((there fuel).transformAll value parent)
        ((back fuel).transformAll value parent)
  | _ => simp only [Session.step]

theorem Kept.run_replanning (calls : List Call) :
    session.run replanning calls = session.run Engine.transformNode calls := by
  induction calls generalizing session with
  | nil => rw [Session.run, Session.run]
  | cons call rest ih =>
      rw [Session.run, Session.run, kept.step_replanning call]
      cases stepped : session.step Engine.transformNode call with
      | none => simp only [Option.bind_eq_bind, Option.bind_none]
      | some ended =>
          have later := ih (kept.step stepped)
          simp only [Option.bind_eq_bind, Option.bind_some, later]

end

/-- A session goes as it would if every plan were made anew, and an engine that does so fills
nodes by the plans of its factories. So do registered factories after any session. Plans are
made by the rules as they were written. -/
theorem filling_follows_rules (built : Schema.build decls = .ok schema) (config : TransformConfig)
    (source : Option Source) :
    (∀ calls, (new schema config source .memoized).run replanning calls =
      (new schema config source .memoized).run Engine.transformNode calls) ∧
    (∀ (engine : Engine) factory run, engine.replanning.FillsByPlan factory run) ∧
    (∀ calls replies session,
      (new schema config source .memoized).run Engine.transformNode calls =
        some (replies, session) →
      session.transformer.engine.schema = schema ∧
      ∀ factory, session.transformer.engine.factories.get? factory.sourceType = some factory →
        session.transformer.engine.FillsByPlan factory session.state) ∧
    ∀ (factory : Factory) written name concept, factory.rules = .ofWritten written →
      schema.concept? name = some concept →
      PlannedBy decls written name concept (factory.plan concept) := by
  have kept := kept_new built Lookups.reliable_memoized config source
  refine ⟨kept.run_replanning, Engine.fillsByPlan_replanning, ?_, ?_⟩
  · intro calls replies session ran
    have keptThen := kept.run ran
    refine ⟨by rw [keptThen.engine]; rfl, fun factory registered => ?_⟩
    exact keptThen.orderly.fillsByPlan keptThen.tidy registered
  · intro factory written name concept rules found
    obtain ⟨known, build⟩ := Schema.build_eq_ok built
    exact Factory.plannedBy build found rules

/-- The concept `D` names the more general of its supertypes first. -/
def mergedDecls : List ConceptDecl :=
  [(ConceptDecl.named "X").addFeature "name" .attribute, (ConceptDecl.named "B").extend "X",
    ((ConceptDecl.named "D").extend "X").extend "B"]

def mergedRules : List WrittenRule :=
  [.qualified "X" "name" (.path "general"), .qualified "B" "name" (.path "old"),
    .bare "name" (.path "plain"), .qualified "B" "name" (.path "special")]

def mergedFactory : Factory :=
  { Factory.ofConcept "Input" "D" with rules := .ofWritten mergedRules }

def mergedPlan : Plan := [(⟨"name", .attribute, none, "X"⟩, .path "special")]

theorem filling_follows_rules_merged :
    ∃ schema, Schema.build mergedDecls = .ok schema ∧
      ∃ concept session, schema.concept? "D" = some concept ∧
        (new schema .lenient none .memoized).run Engine.transformNode [.register mergedFactory] =
          some ([.registered (.ok ())], session) ∧
        (∃ memo, (session.transformer.engine.planFor mergedFactory concept).run session.state =
          some (mergedPlan, { session.state with memo := memo })) ∧
        PlannedBy mergedDecls mergedRules "D" concept mergedPlan := by
  have evaluated : (Schema.build mergedDecls).toOption.map (fun schema =>
      (schema.concept? "D", mergedFactory.rules.unknownKey? schema)) =
      some (some ⟨"D", ["X", "B"], ["D", "B", "X", "Node"],
        [⟨"name", .attribute, none, "X"⟩]⟩, none) := by
    decide +kernel
  cases built : Schema.build mergedDecls with
  | error reason =>
      rw [built] at evaluated
      cases evaluated
  | ok schema =>
      simp only [built, Except.toOption, Option.map_some, Option.some.injEq, Prod.mk.injEq]
        at evaluated
      obtain ⟨found, fits⟩ := evaluated
      let fresh := new schema .lenient none .memoized
      let engine := fresh.transformer.engine
      let session : Session :=
        ⟨{ fresh.transformer with
            engine := { engine with factories := engine.factories.insert "Input" mergedFactory }
            memo := .empty }, ∅⟩
      have registered : fresh.transformer.register mergedFactory = .ok session.transformer := by
        rw [register_of_new rfl]
        exact fits ▸ rfl
      have ran : fresh.run Engine.transformNode [.register mergedFactory] =
          some ([.registered (.ok ())], session) := by
        rw [Session.run, Session.step, registered]
        rfl
      obtain ⟨_, _, follows, byRules⟩ := filling_follows_rules built .lenient none
      refine ⟨schema, rfl, _, session, found, ran, ?_, ?_⟩
      · exact ((follows _ _ session ran).2 mergedFactory rfl).planned found
      · exact byRules mergedFactory mergedRules "D" _ rfl found

end Transformer.Session

end TypedTree
