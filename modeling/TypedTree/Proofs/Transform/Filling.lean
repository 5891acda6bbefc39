import TypedTree.Proofs.Forest.Independence
import TypedTree.Proofs.Transform.Counterparts

namespace TypedTree.Engine

variable {type : String} {recur following : Recur}

section

variable {node : NodeId} {concept : String} {feature : Feature} {value : ForeignValue}
  {target : String} {run after : Run}

/-- Where the engine accepts the elements of a list, so does a constructor. -/
theorem transformEach_of_transformElements {name : String} {values : List ForeignValue}
    {nodes : List NodeId}
    (ran : (transformElements recur node concept name values).run.run run =
      some (.ok nodes, after)) :
    (transformEach recur (some node) values).run.run run = some (.ok nodes, after) := by
  induction values generalizing run nodes with
  | nil => exact ran
  | cons value rest ih =>
      match value with
      | .null =>
          have skipped : (transformValue recur .null (some node)).run.run run =
              some (.ok none, run) := rfl
          rw [transformEach, run_bind_of_ok skipped, run_bind_of_ok (ih ran)]
          rfl
      | .node foreign =>
          obtain ⟨child, others, middle, begun, continued, rfl⟩ :=
            run_transformElements_node_iff.mp ran
          have first : (transformValue recur (.node foreign) (some node)).run.run run =
              some (.ok child, middle) := begun
          rw [transformEach, run_bind_of_ok first, run_bind_of_ok (ih continued)]
          rfl
      | .list items => cases ran
      | .scalar value => cases ran

theorem assign_child_eq_ok (kind : feature.type = .child target)
    (ran : (assign recur node concept feature value).run.run run = some (.ok (), after)) :
    ∃ child middle forest,
      (transformValue recur value (some node)).run.run run = some (.ok child, middle) ∧
      middle.forest.apply (.setChild node feature.name child) = .ok forest ∧
      after = { middle with forest := forest } := by
  unfold assign at ran
  rw [kind] at ran
  match value with
  | .null =>
      obtain ⟨forest, applied, rfl⟩ := run_edit_eq_ok ran
      exact ⟨none, run, forest, rfl, applied, rfl⟩
  | .node foreign =>
      obtain ⟨child, middle, begun, ran⟩ := run_bind_eq_ok ran
      obtain ⟨forest, applied, rfl⟩ := run_edit_eq_ok ran
      exact ⟨child, middle, forest, begun, applied, rfl⟩
  | .list items => cases ran
  | .scalar value => cases ran

theorem assign_children_eq_ok (kind : feature.type = .children target)
    (ran : (assign recur node concept feature value).run.run run = some (.ok (), after)) :
    ∃ children middle forest,
      (transformAll recur value (some node)).run.run run = some (.ok children, middle) ∧
      middle.forest.apply (.setChildren node feature.name children) = .ok forest ∧
      after = { middle with forest := forest } := by
  unfold assign at ran
  rw [kind] at ran
  match value with
  | .null =>
      obtain ⟨forest, applied, rfl⟩ := run_edit_eq_ok ran
      exact ⟨[], run, forest, rfl, applied, rfl⟩
  | .list items =>
      obtain ⟨children, middle, begun, ran⟩ := run_bind_eq_ok ran
      obtain ⟨forest, applied, rfl⟩ := run_edit_eq_ok ran
      exact ⟨children, middle, forest, transformEach_of_transformElements begun, applied, rfl⟩
  | .node foreign => cases ran
  | .scalar value => cases ran

end

section

variable {engine : Engine} {node : NodeId} {concept : Concept} {feature : Feature}
  {rules : ExtractionRules} {foreign : ForeignNode} {target : String} {run middle : Run} {forest : Forest}

theorem run_edit_construction {edit : Edit} (applied : run.forest.apply edit = .ok forest) :
    ((Construction.edit edit).run (engine.answerBuild recur)).run run =
      some (.ok (), { run with forest := forest }) := by
  have answered : (engine.answerBuild recur (.tree (.edit edit))).run run =
      some (.ok (), { run with forest := forest }) := by
    refine congrArg some ?_
    dsimp only
    rw [applied]
  exact run_ask answered

theorem run_look : (Construction.look.run (engine.answerBuild recur)).run run =
    some (.ok run.forest, run) := rfl

theorem run_wire_child (made : run.forest.concept? node = some concept)
    (kind : feature.type = .child target) {child : Option NodeId}
    (transformed : (transformValue recur (rules.extract concept feature.name foreign)
      (some node)).run.run run = some (.ok child, middle))
    (applied : middle.forest.apply (.setChild node feature.name child) = .ok forest) :
    ((feature.wire.apply node foreign rules).run (engine.answerBuild recur)).run run =
      some (.ok (), { middle with forest := forest }) := by
  have answered : (engine.answerBuild recur (.transform
      (rules.extract concept feature.name foreign) (some node))).run run =
        some (.ok child, middle) := transformed
  rw [Wire.apply, run_program_bind run_look, made]
  simp only [Feature.wire, kind]
  exact (run_ask answered).trans (run_edit_construction applied)

theorem run_wire_children (made : run.forest.concept? node = some concept)
    (kind : feature.type = .children target) {children : List NodeId}
    (transformed : (transformAll recur (rules.extract concept feature.name foreign)
      (some node)).run.run run = some (.ok children, middle))
    (applied : middle.forest.apply (.setChildren node feature.name children) = .ok forest) :
    ((feature.wire.apply node foreign rules).run (engine.answerBuild recur)).run run =
      some (.ok (), { middle with forest := forest }) := by
  have answered : (engine.answerBuild recur (.transformList
      (rules.extract concept feature.name foreign) (some node))).run run =
        some (.ok children, middle) := transformed
  rw [Wire.apply, run_program_bind run_look, made]
  simp only [Feature.wire, kind]
  exact (run_ask answered).trans (run_edit_construction applied)

end

theorem run_wire_byHand (engine : Engine) (recur : Recur) (factory : Factory) (concept : Concept)
    (foreign : ForeignNode) (node : NodeId) (run : Run) :
    (engine.wire recur (factory.byHand concept) foreign node).run.run run = some (.ok (), run) := by
  unfold wire
  rw [run_get_bind]
  cases run.forest.concept? node with
  | none => rfl
  | some concept => rfl

/-- Runs in which a new node is filled: in the first it is adopted already, in the second it is
going to be, by `change`. -/
structure Opened (type : String) (first second : Engine) (base ground : Forest)
    (change : Cell → Cell) (concept : Concept) (run other : Run) : Prop where
  grafted : base.Grafted ground run.forest
  forest : other.forest.modify base.nextId change = run.forest.onto ground
  alone : other.forest.Alone base.nextId
  made : other.forest.concept? base.nextId = some concept
  issues : other.issues = run.issues
  memos : Memo.Counterparts type first second run.memo other.memo
  typed : run.forest.TypedIn first.schema

namespace Opened

variable {first second : Engine} {base ground forest : Forest} {change : Cell → Cell}
  {concept : Concept} {run other after otherAfter : Run}
  (opened : Opened type first second base ground change concept run other)
include opened

theorem nextId : other.forest.nextId = run.forest.nextId := by
  have same := congrArg Forest.nextId opened.forest
  rwa [Forest.nextId_modify, Forest.nextId_onto] at same

theorem isThere : base.nextId < run.forest.nextId := by
  obtain ⟨cell, found, _⟩ := Option.map_eq_some_iff.mp opened.made
  rw [← opened.nextId]
  exact Forest.lt_nextId_of_isAlive (by rw [Forest.isAlive, found]; rfl)

theorem made_here (outward : Cell.Outward change) :
    run.forest.concept? base.nextId = some concept := by
  obtain ⟨cell, found, rfl⟩ := Option.map_eq_some_iff.mp opened.made
  have changed : (run.forest.onto ground).cell? base.nextId = some (change cell) := by
    rw [← opened.forest, Forest.cell?_modify, if_pos rfl, found]
    rfl
  rw [opened.grafted.cell?_onto (Nat.le_refl _)] at changed
  rw [Forest.concept?, changed, Option.map_some, outward.concept]

theorem alike : run.forest.Alike other.forest where
  nextId := opened.nextId
  alive node := by
    rw [← Forest.isAlive_modify other.forest base.nextId node change, opened.forest]
    exact opened.grafted.isAlive_onto node
  handles := by
    rw [← Forest.handles_modify other.forest base.nextId change, opened.forest]
    rfl

theorem known (outward : Cell.Outward change) : other.forest.Known := by
  have known := opened.grafted.known_onto
  rw [← opened.forest] at known
  refine ⟨fun node above link => ?_, fun {container feature child} member => ?_⟩
  · by_cases here : node = base.nextId
    · subst here
      rw [opened.alone.unlinked] at link
      cases link
    · rw [← Forest.parentLink?_modify_of_ne here change] at link
      simpa using known.links node above link
  · rw [← Forest.childrenOf_modify_outward outward] at member
    simpa using known.children member

/-- What is transformed meanwhile is transformed by twins. -/
theorem twin (outward : Cell.Outward change) :
    Together type first second run.forest other.forest run other where
  grafted := ⟨opened.alike, opened.grafted.grows.known, opened.known outward,
    .refl opened.grafted.grows.known⟩
  forest := (Forest.onto_self opened.nextId opened.alike.handles).symm
  issues := opened.issues
  memos := opened.memos
  typed := opened.typed

theorem trans (later : Together type first second run.forest other.forest after otherAfter) :
    Opened type first second base ground change concept after otherAfter := by
  have old : base.nextId < other.forest.nextId := opened.nextId ▸ opened.isThere
  have kept : otherAfter.forest.cell? base.nextId = other.forest.cell? base.nextId := by
    rw [later.forest]
    exact Forest.cell?_onto_of_lt later.grafted.reached old
  refine ⟨⟨opened.grafted.alike, opened.grafted.here, opened.grafted.there,
    opened.grafted.grows.trans later.grafted.grows⟩, ?_, ⟨?_, fun {feature} member => ?_⟩, ?_,
    later.issues, later.memos, later.typed⟩
  · rw [later.forest, Forest.modify_onto later.grafted.reached old, opened.forest,
      Forest.onto_onto later.grafted.grows.extended opened.grafted.reached]
  · rw [Forest.parentLink?, kept]
    exact opened.alone.unlinked
  · rw [Forest.childrenOf, kept] at member
    exact opened.alone.loose member
  · rw [Forest.concept?, kept]
    exact opened.made

theorem edit (outward : Cell.Outward change) {edit : Edit} (fills : edit.Fills base.nextId)
    (fresh : Fresh base.nextId edit.nodes run.forest)
    (applied : run.forest.apply edit = .ok forest) :
    ∃ before, other.forest.apply edit = .ok before ∧
      Opened type first second base ground change concept { run with forest := forest }
        { other with forest := before } := by
  have repeats := opened.grafted.repeats_apply fresh
  obtain ⟨grafted, _⟩ := repeats.grafted applied
  have there := repeats.onto
  rw [← opened.forest, applied] at there
  obtain ⟨before, alsoApplied, same, alone, kept⟩ :=
    Forest.apply_of_modify outward fills opened.alone there
  exact ⟨before, alsoApplied, grafted, same, alone, kept.trans opened.made, opened.issues,
    opened.memos, opened.typed.apply applied⟩

variable {recur following : Recur} {rules : ExtractionRules} {foreign : ForeignNode}
  {feature : Feature} {source : FeatureSource}

/-- A contained feature that the engine can fill is filled alike by the wire for it. -/
theorem assign (outward : Cell.Outward change)
    (nested : PacesNested first.schema (Memo.Counterparts type first second) recur following)
    (contained : feature.type.isContainment = true)
    (ruled : rules.source? concept feature.name = some source)
    (ran : (Engine.assign recur base.nextId concept.name feature (source.extract foreign)).run.run
      run = some (.ok (), after)) :
    ∃ otherAfter,
      ((feature.wire.apply base.nextId foreign rules).run (second.answerBuild following)).run
        other = some (.ok (), otherAfter) ∧
      Opened type first second base ground change concept after otherAfter := by
  have twin := opened.twin outward
  have read : rules.extract concept feature.name foreign = source.extract foreign := by
    rw [ExtractionRules.extract, ruled]
    rfl
  have lower : ∀ above ∈ some base.nextId, above < run.forest.nextId := by
    intro above is
    cases is
    exact opened.isThere
  -- The children are newer than the node they are put into.
  have fresh {nodes : List NodeId} {forest : Forest} (grown : run.forest.nextId ≤ forest.nextId)
      (new : Fresh run.forest.nextId nodes forest) :
      Fresh base.nextId (base.nextId :: nodes) forest := by
    intro node member
    rcases List.mem_cons.mp member with rfl | inside
    · exact ⟨Nat.le_refl _, Nat.lt_of_lt_of_le opened.isThere grown⟩
    · exact new.since (Nat.le_of_lt opened.isThere) node inside
  match kind : feature.type with
  | .child target =>
      obtain ⟨child, middle, forest, begun, applied, rfl⟩ := assign_child_eq_ok kind ran
      obtain ⟨otherMiddle, otherBegun, later, grown, new⟩ :=
        nested.transformValue twin (Nat.le_refl _) lower _ _ _ begun
      have fills : Edit.Fills base.nextId (.setChild base.nextId feature.name child) := rfl
      obtain ⟨before, otherApplied, ended⟩ :=
        (opened.trans later).edit outward fills (fresh grown new) applied
      exact ⟨_, run_wire_child opened.made kind (read ▸ otherBegun) otherApplied, ended⟩
  | .children target =>
      obtain ⟨children, middle, forest, begun, applied, rfl⟩ := assign_children_eq_ok kind ran
      obtain ⟨otherMiddle, otherBegun, later, grown, new⟩ :=
        nested.transformAll twin (Nat.le_refl _) lower _ _ _ begun
      have fills : Edit.Fills base.nextId (.setChildren base.nextId feature.name children) := rfl
      obtain ⟨before, otherApplied, ended⟩ :=
        (opened.trans later).edit outward fills (fresh grown new) applied
      exact ⟨_, run_wire_children opened.made kind (read ▸ otherBegun) otherApplied, ended⟩
  | .attribute | .reference target =>
      rw [kind] at contained
      cases contained

theorem assignAll (outward : Cell.Outward change)
    (nested : PacesNested first.schema (Memo.Counterparts type first second) recur following)
    {plan : Plan}
    (explicit : ∀ step ∈ plan, step.1.type.isContainment = true ∧
      rules.source? concept step.1.name = some step.2)
    (ran : (Engine.assignAll recur base.nextId concept.name foreign plan).run.run run =
      some (.ok (), after)) :
    ∃ otherAfter,
      ((Wire.applyEach base.nextId foreign rules (plan.map fun step => step.1.wire)).run
        (second.answerBuild following)).run other = some (.ok (), otherAfter) ∧
      Opened type first second base ground change concept after otherAfter := by
  induction plan generalizing run other with
  | nil =>
      cases ran
      exact ⟨other, rfl, opened⟩
  | cons step rest ih =>
      rw [List.forall_mem_cons] at explicit
      obtain ⟨contained, ruled⟩ := explicit.1
      obtain ⟨⟨⟩, middle, begun, ran⟩ := run_bind_eq_ok ran
      obtain ⟨otherMiddle, otherBegun, opened⟩ :=
        opened.assign outward nested contained ruled begun
      obtain ⟨otherAfter, otherRan, ended⟩ := ih opened explicit.2 ran
      exact ⟨otherAfter, (run_program_bind otherBegun).trans otherRan, ended⟩

end Opened

end TypedTree.Engine
