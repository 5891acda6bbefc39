import TypedTree.Proofs.Foreign.Ranges
import TypedTree.Proofs.Transform.Accounting
import TypedTree.Proofs.Transform.Descriptive

namespace TypedTree

theorem Factory.Descriptive.parsedIn {factory : Factory} {concept : Concept} {feature : Feature}
    {source : FeatureSource} (descriptive : factory.Descriptive)
    (planned : (feature, source) ∈ factory.plan concept) (tree : ParseNode) :
    (source.extract (.parsed tree)).ParsedIn tree.range := by
  obtain ⟨path, rfl⟩ := descriptive.exists_path planned
  exact ForeignValue.parsedIn_navigate tree path

namespace Forest

variable {before forest : Forest} {floor node : NodeId} {cell : Cell} {source : Option Source}
  {foreign : ForeignNode} {parent : Option NodeId}

theorem keepsRanges_attachMetadata :
    KeepsRanges floor forest (Engine.attachMetadata source node foreign parent forest) :=
  keepsRanges_modify (fun cell span found => by simp [found]) fun _ _ => .refl _

theorem Unranged.range?_attachMetadata (unranged : forest.Unranged floor node) :
    (Engine.attachMetadata source node foreign parent forest).range? node = foreign.range := by
  obtain ⟨cell, found, vacant⟩ := unranged.vacant
  rw [range?, cell?_attachMetadata_self found, Option.bind_some, vacant]
  rfl

/-- A placeholder gets the range of the parse node that it stands for. -/
theorem ranged_placeholder (keeps : KeepsRanges floor before forest) (low : floor ≤ before.nextId)
    (bare : cell.Bare) (vacant : cell.range = none) (source : Option Source) (tree : ParseNode)
    (parent : Option NodeId) :
    Ranged floor tree.range [forest.nextId] before
      (Engine.attachMetadata source forest.nextId (.parsed tree) parent (forest.add cell).2) := by
  have unranged := unranged_add (Nat.le_trans low keeps.nextId) vacant
  exact ranged_singleton ((keeps.trans (keepsRanges_add bare)).trans keepsRanges_attachMetadata)
    unranged.since unranged.range?_attachMetadata

end Forest

namespace Engine

variable {engine : Engine} {recur : Recur} {factory : Factory} {tree : ParseNode}
  {floor node : NodeId} {parent : Option NodeId} {span : Span} {run middle after : Run}
  {result : Option NodeId}

/-- A way to transform foreign nodes that gives what it makes from a parse node its range. -/
def Ranges (engine : Engine) (floor : NodeId) (recur : Recur) : Prop :=
  ∀ tree parent run result after, engine.Tidy run → floor ≤ run.forest.nextId →
    (recur (.parsed tree) parent).run.run run = some (.ok result, after) →
    engine.Tidy after ∧ Forest.Ranged floor tree.range result.toList run.forest after.forest

section

variable (ranges : engine.Ranges floor recur) (tidy : engine.Tidy run)
  (low : floor ≤ run.forest.nextId)
include ranges tidy low

theorem Ranges.transformOne {foreign : ForeignNode}
    (within : (ForeignValue.node foreign).ParsedIn span)
    (ran : (recur foreign parent).run.run run = some (.ok result, after)) :
    engine.Tidy after ∧ Forest.Ranged floor span result.toList run.forest after.forest := by
  obtain ⟨tree, rfl, encloses⟩ := within foreign .here
  obtain ⟨tidyThen, ranged⟩ := ranges tree parent run result after tidy low ran
  exact ⟨tidyThen, ranged.widen encloses⟩

theorem Ranges.transformElements {concept feature : String} {items : List ForeignValue}
    (within : (ForeignValue.list items).ParsedIn span) {children : List NodeId}
    (ran : (transformElements recur node concept feature items).run.run run =
      some (.ok children, after)) :
    engine.Tidy after ∧ Forest.Ranged floor span children run.forest after.forest := by
  induction items generalizing run children with
  | nil =>
      cases ran
      exact ⟨tidy, Forest.ranged_nil (.refl _ _)⟩
  | cons item rest ih =>
      have later : (ForeignValue.list rest).ParsedIn span :=
        fun foreign presented => within foreign presented.tail
      match item with
      | .null => exact ih tidy low later ran
      | .node foreign =>
          obtain ⟨child, others, middle, begun, continued, rfl⟩ :=
            run_transformElements_node_iff.mp ran
          have here : (ForeignValue.node foreign).ParsedIn span :=
            fun inner presented => within inner (.item List.mem_cons_self presented)
          obtain ⟨tidyThen, first⟩ := ranges.transformOne tidy low here begun
          obtain ⟨tidyAfter, second⟩ :=
            ih tidyThen (Nat.le_trans low first.keeps.nextId) later continued
          exact ⟨tidyAfter, first.append second⟩
      | .list items => cases ran
      | .scalar value => cases ran

end

theorem keepsRanges_edit {change : Edit} (descriptive : change.isDescriptive = true)
    (tidy : engine.Tidy run) (ran : (edit change).run.run run = some (.ok (), after)) :
    engine.Tidy after ∧ Forest.KeepsRanges floor run.forest after.forest := by
  obtain ⟨forest, applied, rfl⟩ := run_edit_eq_ok ran
  exact ⟨⟨tidy.typed.apply applied, tidy.recalls⟩,
    Forest.keepsRanges_of_isDescriptive descriptive applied⟩

section

variable {name : String} {base : Forest} (tidy : engine.Tidy run)
  (found : run.forest.range? node = some span)
include tidy found

theorem keepsRanges_setChild {child : Option NodeId}
    (ranged : Forest.Ranged floor span child.toList base run.forest)
    (ran : (edit (.setChild node name child)).run.run run = some (.ok (), after)) :
    engine.Tidy after ∧ Forest.KeepsRanges floor base after.forest := by
  obtain ⟨forest, set, rfl⟩ := run_edit_eq_ok ran
  refine ⟨⟨tidy.typed.apply set, tidy.recalls⟩, ?_⟩
  obtain ⟨_, _, _, _, _, _, _, rfl⟩ := Forest.setChild_eq_ok_iff.mp set
  exact ranged.attach found name .replace

theorem keepsRanges_setChildren {children : List NodeId}
    (ranged : Forest.Ranged floor span children base run.forest)
    (ran : (edit (.setChildren node name children)).run.run run = some (.ok (), after)) :
    engine.Tidy after ∧ Forest.KeepsRanges floor base after.forest := by
  obtain ⟨forest, set, rfl⟩ := run_edit_eq_ok ran
  refine ⟨⟨tidy.typed.apply set, tidy.recalls⟩, ?_⟩
  obtain ⟨_, _, _, _, _, _, _, _, rfl⟩ := Forest.setChildren_eq_ok_iff.mp set
  exact ranged.attach found name .replace

variable (ranges : engine.Ranges floor recur) (low : floor ≤ run.forest.nextId)
include ranges low

theorem Ranges.assign {concept : String} {feature : Feature} {value : ForeignValue}
    (within : value.ParsedIn span)
    (ran : (assign recur node concept feature value).run.run run = some (.ok (), after)) :
    engine.Tidy after ∧ Forest.KeepsRanges floor run.forest after.forest := by
  have nothing : Forest.Ranged floor span [] run.forest run.forest :=
    Forest.ranged_nil (.refl _ _)
  unfold Engine.assign at ran
  match type : feature.type with
  | .attribute =>
      rw [type] at ran
      cases value with
      | list items => cases ran
      | _ => exact keepsRanges_edit rfl tidy ran
  | .reference target =>
      rw [type] at ran
      cases value with
      | list items => cases ran
      | _ => exact keepsRanges_edit rfl tidy ran
  | .child target =>
      rw [type] at ran
      cases value with
      | null =>
          refine keepsRanges_setChild tidy found ?_ ran
          exact nothing
      | node foreign =>
          obtain ⟨child, middle, made, ran⟩ := run_bind_eq_ok ran
          obtain ⟨tidyThen, ranged⟩ := ranges.transformOne tidy low within made
          exact keepsRanges_setChild tidyThen (ranged.keeps.ranges node span found) ranged ran
      | _ => cases ran
  | .children target =>
      rw [type] at ran
      cases value with
      | null => exact keepsRanges_setChildren tidy found nothing ran
      | list items =>
          obtain ⟨children, middle, made, ran⟩ := run_bind_eq_ok ran
          obtain ⟨tidyThen, ranged⟩ := ranges.transformElements tidy low within made
          exact keepsRanges_setChildren tidyThen (ranged.keeps.ranges node span found) ranged ran
      | _ => cases ran

theorem Ranges.assignAll {concept : String} {foreign : ForeignNode} {plan : Plan}
    (within : ∀ step ∈ plan, (step.2.extract foreign).ParsedIn span)
    (ran : (assignAll recur node concept foreign plan).run.run run = some (.ok (), after)) :
    Forest.KeepsRanges floor run.forest after.forest := by
  induction plan generalizing run with
  | nil =>
      cases ran
      exact .refl _ _
  | cons step plan ih =>
      obtain ⟨_, middle, assigned, ran⟩ := run_bind_eq_ok ran
      obtain ⟨tidyThen, keeps⟩ :=
        ranges.assign tidy found low (within step List.mem_cons_self) assigned
      exact keeps.trans (ih tidyThen (keeps.ranges node span found)
        (Nat.le_trans low keeps.nextId)
        (fun later member => within later (List.mem_cons_of_mem _ member)) ran)

end

theorem ranged_substituteGeneric (low : floor ≤ run.forest.nextId)
    (ran : (engine.substituteGeneric engine.adopt (.parsed tree) parent).run.run run =
      some (.ok result, after)) :
    Forest.Ranged floor tree.range result.toList run.forest after.forest := by
  by_cases allowed : engine.config.allowGeneric = true
  · rw [run_substituteGeneric allowed] at ran
    cases ran
    exact Forest.ranged_placeholder (.refl floor run.forest) low (Cell.bare_blank .generic) rfl
      engine.source tree parent
  · unfold substituteGeneric at ran
    rw [if_neg allowed] at ran
    cases ran

theorem ranged_substituteError (low : floor ≤ run.forest.nextId) {message : String}
    (keeps : Forest.KeepsRanges floor run.forest middle.forest)
    (ran : (substituteError engine.adopt run.forest.nextId message (.parsed tree) parent).run.run
      middle = some (.ok result, after)) :
    Forest.Ranged floor tree.range result.toList run.forest after.forest := by
  rw [run_substituteError] at ran
  cases ran
  have bare : ((Cell.blank .error).setSlot Concept.messageFeature.name
      (.attribute (some (.str message)))).Bare :=
    (Cell.bare_blank .error).setSlot _ rfl
  exact Forest.ranged_placeholder keeps.discardSince low bare rfl engine.source tree parent

section

variable (orderly : engine.Orderly) (ranges : engine.Ranges floor recur) (tidy : engine.Tidy run)
  (low : floor ≤ run.forest.nextId)
include orderly ranges tidy low

theorem Ranges.wire (descriptive : factory.Descriptive)
    (registered : engine.factories.get? factory.sourceType = some factory)
    (found : run.forest.range? node = some tree.range)
    (ran : (engine.wire recur factory (.parsed tree) node).run.run run = some (.ok (), after)) :
    Forest.KeepsRanges floor run.forest after.forest := by
  unfold Engine.wire at ran
  rw [run_get_bind] at ran
  cases kind : run.forest.concept? node with
  | none =>
      rw [kind] at ran
      cases ran
      exact .refl _ _
  | some concept =>
      rw [kind] at ran
      dsimp only at ran
      split at ran
      · next filled =>
          have proper : concept.isPlaceholder = false := by simp_all
          obtain ⟨memo, planned, tidyNow⟩ := orderly.plan tidy registered kind proper
          rw [run_lift_bind planned] at ran
          change Forest.KeepsRanges floor { run with memo := memo }.forest after.forest
          exact ranges.assignAll tidyNow found low
            (fun step member => descriptive.parsedIn member tree) ran
      · cases ran
        exact .refl _ _

theorem Ranges.adopted (descriptive : factory.Descriptive)
    (registered : engine.factories.get? factory.sourceType = some factory)
    (unranged : run.forest.Unranged floor node)
    (ran : (do
      engine.adopt node (.parsed tree) parent
      engine.wire recur factory (.parsed tree) node
      engine.runHook factory (.parsed tree) node
      return some node : EngineM (Option NodeId)).run.run run = some (.ok result, after)) :
    Forest.Ranged floor tree.range result.toList run.forest after.forest := by
  obtain ⟨_, adopted, isAdopted, ran⟩ := run_lift_bind_eq_some ran
  cases isAdopted
  obtain ⟨_, wired, filled, ran⟩ := run_bind_eq_ok ran
  obtain ⟨_, finished, hooked, ran⟩ := run_bind_eq_ok ran
  cases ran
  have first : Forest.KeepsRanges floor run.forest
      (attachMetadata engine.source node (.parsed tree) parent run.forest) :=
    Forest.keepsRanges_attachMetadata
  have found : (attachMetadata engine.source node (.parsed tree) parent run.forest).range? node =
      some tree.range :=
    unranged.range?_attachMetadata
  have tidyThen : engine.Tidy { run with
      forest := attachMetadata engine.source node (.parsed tree) parent run.forest } :=
    ⟨orderly.stable_typedIn.attachMetadata tidy.typed _ node _ parent, tidy.recalls⟩
  have second := ranges.wire orderly tidyThen (Nat.le_trans low first.nextId) descriptive registered
    found filled
  have third : Forest.KeepsRanges floor wired.forest after.forest := by
    unfold runHook at hooked
    cases isHook : factory.finish with
    | none =>
        rw [isHook] at hooked
        cases hooked
        exact .refl _ _
    | some hook =>
        rw [isHook] at hooked
        exact keepsRanges_of_describes (descriptive.finishes hook isHook node _)
          (Nat.le_trans low (first.trans second).nextId) hooked
  exact Forest.ranged_singleton ((first.trans second).trans third) unranged.since
    (third.ranges node _ (second.ranges node _ found))

end

section

variable {fuel : Nat} (orderly : engine.Orderly)
  (ranges : engine.Ranges floor (engine.transformNode fuel)) (tidy : engine.Tidy run)
  (low : floor ≤ run.forest.nextId)
include orderly ranges tidy low

theorem Ranges.transformNode
    (descriptive : ∀ type factory, engine.factories.get? type = some factory →
      factory.Descriptive)
    (ran : (engine.transformNode (fuel + 1) (.parsed tree) parent).run.run run =
      some (.ok result, after)) :
    Forest.Ranged floor tree.range result.toList run.forest after.forest := by
  obtain ⟨found, memo, looked, isFound, tidyThen⟩ := orderly.factory tidy (.parsed tree)
  rw [Engine.transformNode] at ran
  unfold transformWith at ran
  rw [run_lift_bind looked] at ran
  cases found with
  | none =>
      -- What is remembered plays no part in the forest.
      change Forest.Ranged floor tree.range result.toList { run with memo := memo }.forest
        after.forest
      exact ranged_substituteGeneric low ran
  | some factory =>
      have registered := isFound factory rfl
      have isDescriptive := descriptive factory.sourceType factory registered
      dsimp only at ran
      rw [run_get_bind] at ran
      obtain ⟨answer, middle, constructed, ran⟩ := run_lift_bind_eq_some ran
      have typed := holds_of_construct orderly.stable_typedIn tidyThen.typed constructed
      obtain ⟨described, unranged⟩ :=
        described_of_makes (isDescriptive.makes (.parsed tree)) constructed low
          (List.forall_mem_nil _)
      cases answer with
      | ok answer =>
          cases answer with
          | none =>
              cases ran
              exact Forest.ranged_nil described.keeps
          | some node =>
              have tidyMade : engine.Tidy middle := ⟨typed, described.memo ▸ tidyThen.recalls⟩
              exact (ranges.adopted orderly tidyMade (Nat.le_trans low described.keeps.nextId)
                isDescriptive registered (unranged node rfl) ran).preceded described.keeps
      | error error =>
          cases error with
          | factory message =>
              dsimp only at ran
              split at ran
              · exact ranged_substituteError low described.keeps ran
              · cases ran
          | _ => cases ran

end

theorem Ranges.transformValue (ranges : engine.Ranges floor recur) (tidy : engine.Tidy run)
    (low : floor ≤ run.forest.nextId) {value : ForeignValue} (parsed : value.Parsed)
    (ran : (transformValue recur value parent).run.run run = some (.ok result, after)) :
    engine.Tidy after ∧ ∃ span, Forest.Ranged floor span result.toList run.forest after.forest := by
  cases value with
  | null =>
      cases ran
      exact ⟨tidy, default, Forest.ranged_nil (.refl _ _)⟩
  | node foreign =>
      obtain ⟨tree, rfl⟩ := parsed foreign .here
      obtain ⟨tidyThen, ranged⟩ := ranges tree parent run result after tidy low ran
      exact ⟨tidyThen, tree.range, ranged⟩
  | list items => cases ran
  | scalar value => cases ran

theorem Ranges.transformEach (ranges : engine.Ranges floor recur) (tidy : engine.Tidy run)
    (low : floor ≤ run.forest.nextId) {items : List ForeignValue}
    (parsed : (ForeignValue.list items).Parsed) {nodes : List NodeId}
    (ran : (transformEach recur parent items).run.run run = some (.ok nodes, after)) :
    Forest.KeepsRanges floor run.forest after.forest ∧
      ∀ node ∈ nodes, ∃ span, after.forest.MadeIn floor span node := by
  induction items generalizing run nodes with
  | nil =>
      cases ran
      exact ⟨.refl _ _, nofun⟩
  | cons item rest ih =>
      obtain ⟨node, others, middle, begun, continued, rfl⟩ := run_transformEach_cons ran
      have here : item.Parsed :=
        fun foreign presented => parsed foreign (.item List.mem_cons_self presented)
      have later : (ForeignValue.list rest).Parsed :=
        fun foreign presented => parsed foreign presented.tail
      obtain ⟨tidyThen, span, first⟩ := ranges.transformValue tidy low here begun
      obtain ⟨keeps, inside⟩ := ih tidyThen (Nat.le_trans low first.keeps.nextId) later continued
      refine ⟨first.keeps.trans keeps, fun made member => ?_⟩
      rcases List.mem_append.mp member with early | late
      · exact ⟨span, (first.followed keeps).inside made early⟩
      · exact inside made late

theorem Ranges.transformAll (ranges : engine.Ranges floor recur) (tidy : engine.Tidy run)
    (low : floor ≤ run.forest.nextId) {value : ForeignValue} (parsed : value.Parsed)
    {nodes : List NodeId}
    (ran : (transformAll recur value parent).run.run run = some (.ok nodes, after)) :
    Forest.KeepsRanges floor run.forest after.forest ∧
      ∀ node ∈ nodes, ∃ span, after.forest.MadeIn floor span node := by
  unfold Engine.transformAll at ran
  split at ran
  · exact ranges.transformEach tidy low parsed ran
  · obtain ⟨made, middle, begun, ran⟩ := run_bind_eq_ok ran
    cases ran
    obtain ⟨_, span, ranged⟩ := ranges.transformValue tidy low parsed begun
    exact ⟨ranged.keeps, fun node member => ⟨span, ranged.inside node member⟩⟩

end Engine

namespace Transformer.Session

variable {decls : List ConceptDecl} {schema : Schema} {config : TransformConfig}
  {source : Option Source} {session : Session} {calls : List Call} {replies : List Reply}

end Transformer.Session

end TypedTree
