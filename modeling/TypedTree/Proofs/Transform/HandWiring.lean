import TypedTree.Proofs.Schema.Features
import TypedTree.Proofs.Transform.Filling
import TypedTree.Proofs.Transform.Recipes

namespace TypedTree

/-! # Wiring by hand and by the engine

A constructor that fills the contained features of its node itself does so before the node is
adopted; the engine does so afterwards. As long as constructors and hooks keep to the nodes
they made, the two leave the same forest and the same issues behind, unless filling a node
fails: then a constructor gives up its own node, while the engine gives up the one above it.
-/

namespace Engine

variable {type : String} {recur following : Recur}

namespace Counterparts

variable {first second : Engine} {run other : Run} {factory : Factory} {parent : Option NodeId}
  (counterparts : Counterparts type first second)
  (nested : PacesNested first.schema (Memo.Counterparts type first second) recur following)
include counterparts nested

theorem construct_same {base ground : Forest} (confined : factory.Confined)
    (twin : Together type first second base ground run other)
    (begun : run.forest.nextId = base.nextId) (foreign : ForeignNode) :
    Abreast type first second base ground (ifOk fun made => Fresh base.nextId made.toList) run
      other (first.construct recur factory foreign) (second.construct following factory foreign) := by
  obtain ⟨decls, built⟩ := counterparts.built
  refine (paces_program built counterparts.same nested (confined.constructs foreign base.nextId)
    twin (Nat.le_of_eq begun.symm)).mono fun answer forest _ allowed => ?_
  cases answer with
  | error error => trivial
  | ok made =>
      obtain ⟨bound, within, own⟩ := allowed
      intro node member
      obtain ⟨new, known⟩ := own node (Option.mem_toList.mp member)
      exact ⟨new, Nat.lt_of_lt_of_le known within⟩

theorem insistWire_same {base ground : Forest} {node : NodeId}
    (twin : Together type first second base ground run other)
    (own : Fresh base.nextId [node] run.forest)
    (registered : first.factories.get? factory.sourceType = some factory)
    (alsoRegistered : second.factories.get? factory.sourceType = some factory)
    (foreign : ForeignNode) :
    Abreast type first second base ground (ifOk fun _ _ => True) run other
      (first.insistWire type recur factory foreign node).run
      (second.wire following factory foreign node).run := by
  intro answer after ended
  exact counterparts.wire nested twin own registered alsoRegistered foreign answer after
    (run_insistWire_eq_some ended).1

/-- A foreign node for which both engines have the same factory. -/
theorem transformFor_same (twin : Together type first second run.forest other.forest run other)
    (lower : ∀ above ∈ parent, above < run.forest.nextId) (confined : factory.Confined)
    (registered : first.factories.get? factory.sourceType = some factory)
    (alsoRegistered : second.factories.get? factory.sourceType = some factory)
    (foreign : ForeignNode) :
    Abreast type first second run.forest other.forest
      (ifOk fun made => Fresh run.forest.nextId made.toList) run other
      (first.insistFor type first.adopt recur factory foreign parent).run
      (second.transformFor second.adopt following factory foreign parent).run := by
  unfold insistFor transformFor
  intro answer after ended
  rw [run_get_bind] at ended ⊢
  revert answer after
  rw [counterparts.config_eq, twin.nextId]
  refine (counterparts.construct_same nested confined twin rfl foreign).lift.andThen
    fun made middle _ twin grown fresh => ?_
  have known (above) (is : above ∈ parent) := Nat.lt_of_lt_of_le (lower above is) grown
  match made with
  | .ok none => exact paces_ok none twin fun node member => by cases member
  | .ok (some node) =>
      have own : Fresh run.forest.nextId [node] middle.forest := fresh
      refine (counterparts.adopt twin own known foreign).lift.andThen fun _ _ _ twin later _ => ?_
      have own := own.mono later
      refine (counterparts.insistWire_same nested twin own registered alsoRegistered
        foreign).andThen fun _ _ _ twin later _ => ?_
      have own := own.mono later
      refine (counterparts.runHook nested twin own confined rfl foreign).andThen
        fun _ _ _ twin later _ => ?_
      exact paces_ok (some node) twin (own.mono later)
  | .error (.factory message) =>
      dsimp only
      split
      · exact counterparts.substituteError twin lower message foreign
      · exact paces_throw _ twin
  | .error (.unexpectedCollection _) | .error (.unexpectedValue _ _) | .error (.unmappedType _)
  | .error (.duplicateFactory _) | .error (.unknownChildRule _ _) | .error (.edit _) =>
      exact paces_throw _ twin

end Counterparts

/-- What adoption makes of a cell. -/
def adoption (source : Option Source) (foreign : ForeignNode) (parent : Option NodeId)
    (cell : Cell) : Cell :=
  { cell with
    origin := cell.origin <|> some (.foreign foreign)
    range := cell.range <|> foreign.range
    parent := parent <|> cell.parent
    source := if parent.isSome then cell.source else cell.source <|> source }

theorem attachMetadata_eq (source : Option Source) (node : NodeId) (foreign : ForeignNode)
    (parent : Option NodeId) (forest : Forest) :
    attachMetadata source node foreign parent forest =
      forest.modify node (adoption source foreign parent) := rfl

theorem outward_adoption (source : Option Source) (foreign : ForeignNode)
    (parent : Option NodeId) : Cell.Outward (adoption source foreign parent) :=
  ⟨fun _ => rfl, fun _ _ => rfl⟩

namespace Counterparts

variable {first second : Engine} {run other : Run} {factory : Factory} {concept : Concept}
  {parent : Option NodeId} (counterparts : Counterparts type first second)
include counterparts

/-- A node of the concept is made in both runs and adopted in the first. -/
theorem opened (twin : Together type first second run.forest other.forest run other)
    (lower : ∀ above ∈ parent, above < run.forest.nextId)
    (declared : first.schema.concept? concept.name = some concept) (foreign : ForeignNode) :
    Opened type first second run.forest other.forest (adoption first.source foreign parent) concept
      { run with
        forest := attachMetadata first.source run.forest.nextId foreign parent
          (run.forest.add (.blank concept)).2 }
      { other with forest := (other.forest.add (.blank concept)).2 } := by
  obtain ⟨decls, built⟩ := counterparts.built
  have bare := Cell.bare_blank concept
  have created : run.forest.create first.schema concept.name =
      .ok (run.forest.add (.blank concept)) := by
    rw [Forest.create, declared]
  obtain ⟨otherMade, added, made, grown, fresh⟩ := paces_addNode twin (fun _ => rfl) bare
    (twin.typed.create built created) _ _ rfl
  have isMade : { other with forest := (other.forest.add (.blank concept)).2 } = otherMade :=
    congrArg Prod.snd (Option.some.inj added)
  subst isMade
  obtain ⟨_, adopts, adopted, _, _⟩ := counterparts.adopt made fresh
    (fun above is => Nat.lt_of_lt_of_le (lower above is) grown) foreign _ _ rfl
  cases adopts
  have absent : ¬ other.forest.isAlive run.forest.nextId = true := fun alive =>
    absurd (Forest.lt_nextId_of_isAlive alive) (by rw [twin.nextId]; exact Nat.lt_irrefl _)
  have source : second.source = first.source := by rw [counterparts.same]
  refine ⟨adopted.grafted, ?_, ⟨?_, fun {feature} member => ?_⟩, ?_, twin.issues, twin.memos,
    adopted.typed⟩
  · exact (congrArg (fun source => (other.forest.add (.blank concept)).2.modify
      run.forest.nextId (Engine.adoption source foreign parent)) source.symm).trans adopted.forest
  · rw [Forest.parentLink?_add bare]
    cases link : other.forest.parentLink? run.forest.nextId with
    | none => rfl
    | some above => exact absurd (Forest.isAlive_of_parentLink? link) absent
  · rw [Forest.childrenOf_add bare] at member
    exact absent (Forest.isAlive_of_mem_childrenOf member)
  · rw [Forest.concept?, Forest.cell?_add, if_pos twin.nextId.symm]
    rfl

/-- What the engine fills after the adoption, the wires fill before it. -/
theorem wire_byHand {base ground : Forest} {change : Cell → Cell} {after : Run}
    (nested : PacesNested first.schema (Memo.Counterparts type first second) recur following)
    (outward : Cell.Outward change)
    (opened : Opened type first second base ground change concept run other)
    (automatic : factory.Automatic first.schema concept)
    (registered : first.factories.get? factory.sourceType = some factory) (foreign : ForeignNode)
    (wired : (first.wire recur factory foreign base.nextId).run.run run = some (.ok (), after)) :
    ∃ otherAfter,
      ((Wire.applyEach base.nextId foreign factory.rules (factory.rules.wires concept)).run
        (second.answerBuild following)).run other = some (.ok (), otherAfter) ∧
      Opened type first second base ground change concept after otherAfter := by
  obtain ⟨decls, built⟩ := counterparts.built
  have explicit (step) (planned : step ∈ factory.plan concept) :=
    automatic.explicit_of_mem_plan planned
  unfold Engine.wire at wired
  rw [run_get_bind, opened.made_here outward] at wired
  rw [automatic.wires_eq]
  by_cases placeholder : concept.isPlaceholder = true
  · have nothing : factory.plan concept = [] := by
      refine List.eq_nil_iff_forall_not_mem.mpr fun step planned => ?_
      have member : step.1 ∈ concept.features :=
        (factory.plan_sublist concept).subset (List.mem_map_of_mem planned)
      have plain := Schema.not_isContainment_of_isPlaceholder built automatic.declared placeholder
        member
      rw [(explicit step planned).1] at plain
      cases plain
    simp only [placeholder, Bool.not_true, Bool.and_false] at wired
    cases wired
    rw [nothing]
    exact ⟨other, rfl, opened⟩
  · simp only [automatic.fills, Bool.not_eq_true _ ▸ placeholder, Bool.not_false, Bool.and_self,
      if_true] at wired
    obtain ⟨memo, looked, later⟩ :=
      counterparts.run_planFor (opened.twin outward) registered automatic.declared
    rw [run_lift_bind looked] at wired
    exact (opened.trans later).assignAll outward nested explicit wired

theorem construct_byHand (declared : first.schema.concept? concept.name = some concept) (foreign : ForeignNode)
    {made : Run}
    (wired : ((Wire.applyEach other.forest.nextId foreign factory.rules
      (factory.rules.wires concept)).run (second.answerBuild following)).run
        { other with forest := (other.forest.add (.blank concept)).2 } = some (.ok (), made)) :
    (second.construct following (factory.byHand concept) foreign).run other =
      some (.ok (some other.forest.nextId), made) := by
  have created : ((Construction.create concept.name).run (second.answerBuild following)).run
      other = some (.ok other.forest.nextId,
        { other with forest := (other.forest.add (.blank concept)).2 }) := by
    have answered : (second.answerBuild following (.tree (.create concept.name))).run other =
        some (.ok other.forest.nextId,
          { other with forest := (other.forest.add (.blank concept)).2 }) := by
      change (createNode second.schema concept.name).run other = _
      rw [run_createNode, counterparts.schema, declared]
    exact run_ask answered
  exact (run_program_bind created).trans ((run_program_bind wired).trans rfl)

/-- A foreign node whose node one engine fills and the other has filled by hand. -/
theorem transformFor_byHand
    (nested : PacesNested first.schema (Memo.Counterparts type first second) recur following)
    (twin : Together type first second run.forest other.forest run other)
    (lower : ∀ above ∈ parent, above < run.forest.nextId)
    (automatic : factory.Automatic first.schema concept) (confined : factory.Confined)
    (named : factory.sourceType = type)
    (registered : first.factories.get? factory.sourceType = some factory)
    (foreign : ForeignNode) :
    Abreast type first second run.forest other.forest
      (ifOk fun made => Fresh run.forest.nextId made.toList) run other
      (first.insistFor type first.adopt recur factory foreign parent).run
      (second.transformFor second.adopt following (factory.byHand concept) foreign parent).run := by
  intro answer after ended
  have outward := outward_adoption first.source foreign parent
  have opened := counterparts.opened twin lower automatic.declared foreign
  -- The first engine makes the node, adopts it and fills it.
  have made : (first.construct recur factory foreign).run run =
      some (.ok (some run.forest.nextId),
        { run with forest := (run.forest.add (.blank concept)).2 }) := by
    rw [run_construct_ofConcept automatic.constructs, automatic.declared]
  rw [run_insistFor made, run_lift_bind (first.run_adopt _ _ _ _)] at ended
  rcases run_bind_eq_some_iff.mp ended with ⟨⟨⟩, filled, wired, ended⟩ | ⟨error, failed, _⟩
  · -- The second engine's constructor fills the node, and then it is adopted.
    obtain ⟨wired, _⟩ := run_insistWire_eq_some wired
    obtain ⟨otherMade, wires, opened⟩ :=
      counterparts.wire_byHand nested outward opened automatic registered foreign wired
    rw [← twin.nextId] at wires
    have constructed := counterparts.construct_byHand automatic.declared foreign wires
    rw [twin.nextId] at constructed
    have settled : Together type first second run.forest other.forest filled { otherMade with
        forest := attachMetadata second.source run.forest.nextId foreign parent
          otherMade.forest } := by
      refine ⟨opened.grafted, ?_, opened.issues, opened.memos, opened.typed⟩
      rw [← opened.forest, attachMetadata_eq, counterparts.same]
    have own : Fresh run.forest.nextId [run.forest.nextId] filled.forest := by
      intro node member
      cases List.mem_singleton.mp member
      exact ⟨Nat.le_refl _, opened.isThere⟩
    have finish : (factory.byHand concept).finish = factory.finish := rfl
    have hooked : Abreast type first second run.forest other.forest
        (ifOk fun made => Fresh run.forest.nextId made.toList) filled _
        (do first.runHook factory foreign run.forest.nextId; return some run.forest.nextId).run
        (do
          second.runHook (factory.byHand concept) foreign run.forest.nextId
          return some run.forest.nextId).run :=
      (counterparts.runHook nested settled own confined finish foreign).andThen
        fun _ _ _ twin later _ => paces_ok (some run.forest.nextId) twin (own.mono later)
    obtain ⟨otherAfter, otherEnded, twinAfter, grown, fresh⟩ := hooked answer after ended
    refine ⟨otherAfter, ?_, twinAfter, Nat.le_trans (Nat.le_of_lt opened.isThere) grown, fresh⟩
    rw [run_transformFor constructed, run_lift_bind (second.run_adopt _ _ _ _),
      run_bind_of_ok (second.run_wire_byHand _ _ _ _ _ _)]
    exact otherEnded
  · obtain ⟨_, succeeds⟩ := run_insistWire_eq_some failed
    cases succeeds named

/-- One foreign node, if those below are transformed alike. -/
theorem insistWith
    (nested : PacesNested first.schema (Memo.Counterparts type first second) recur following) :
    PacesNested first.schema (Memo.Counterparts type first second)
      (first.insistWith type first.adopt recur) (second.transformWith second.adopt following) := by
  intro run other twin foreign parent lower answer after ended
  obtain ⟨found, counterpart, memo, otherMemo, looked, otherLooked, related, isFound, otherFound,
    twin⟩ := counterparts.run_factoryFor twin foreign
  unfold Engine.insistWith at ended
  rw [run_lift_bind looked] at ended
  rw [transformWith_eq, run_lift_bind otherLooked]
  cases related with
  | none => exact counterparts.substituteGeneric twin lower foreign answer after ended
  | some pair =>
      cases pair with
      | same confined =>
          exact counterparts.transformFor_same nested twin.restart lower confined (isFound _ rfl)
            (otherFound _ rfl) foreign answer after ended
      | byHand automatic confined named =>
          exact counterparts.transformFor_byHand nested twin.restart lower automatic confined named
            (isFound _ rfl) foreign answer after ended

theorem insistNode (fuel : Nat) :
    PacesNested first.schema (Memo.Counterparts type first second)
      (first.insistNode type fuel) (second.transformNode fuel) := by
  induction fuel with
  | zero =>
      intro run other twin foreign parent lower answer after ended
      cases ended
  | succ fuel ih => exact counterparts.insistWith ih

end Counterparts

end Engine

namespace Transformer

/-- Transformers that differ in that one fills by hand what the other has filled, as they work
on a forest. -/
structure Counterparts (type : String) (forest : Forest) (first second : Transformer) : Prop where
  engine : first.engine.Counterparts type second.engine
  issues : second.issues = first.issues
  memo : Memo.Counterparts type first.engine second.engine first.memo second.memo
  known : forest.Known
  typed : forest.TypedIn first.engine.schema

variable {type : String} {forest : Forest} {first second : Transformer} {fuel : Nat}
  {value : ForeignValue} {parent : Option NodeId} {outcome : Outcome (Option NodeId)}

theorem counterparts_new {decls : List ConceptDecl} {schema : Schema}
    (built : Schema.build decls = .ok schema) (config : TransformConfig) (source : Option Source) :
    (new schema config source).Counterparts type ∅ (new schema config source) where
  engine :=
    { same := rfl
      built := ⟨decls, built⟩
      lookups := rfl
      keyed := fun _ _ registered => by cases registered
      factories := fun _ => .none }
  issues := rfl
  memo := Memo.counterparts_empty _ _ _
  known := Forest.known_empty
  typed := Forest.typedIn_empty schema

/-- Counterparts may be put to work on any forest that operations make. -/
theorem Counterparts.onRun (counterparts : first.Counterparts type forest second)
    (operations : List Operation) :
    first.Counterparts type (Forest.run first.engine.schema operations) second := by
  obtain ⟨decls, built⟩ := counterparts.engine.built
  exact ⟨counterparts.engine, counterparts.issues, counterparts.memo,
    (Forest.wellLinked_run built operations).toKnown, Forest.typedIn_run built operations⟩

/-- Where one transformer takes a factory, the other takes its counterpart. -/
theorem Counterparts.register (counterparts : first.Counterparts type forest second)
    {factory counterpart : Factory} {after : Transformer}
    (pair : Factory.Counterpart first.engine.schema type factory counterpart)
    (registered : first.register factory = .ok after) :
    ∃ other, second.register counterpart = .ok other ∧ after.Counterparts type forest other := by
  have named := pair.sourceType
  have rules : counterpart.rules = factory.rules := by cases pair <;> rfl
  have contains : second.engine.factories.contains factory.sourceType =
      first.engine.factories.contains factory.sourceType := by
    rw [Bool.eq_iff_iff, Registry.contains_iff, Registry.contains_iff,
      ← Registry.get?_isSome_iff, ← Registry.get?_isSome_iff,
      isSome_of_rel (counterparts.engine.factories factory.sourceType)]
  unfold Transformer.register at registered ⊢
  dsimp only at registered ⊢
  rw [named, contains, rules, counterparts.engine.schema]
  split at registered
  · cases registered
  · next unknown =>
      split at registered
      · cases registered
      · cases registered
        rw [if_neg unknown]
        refine ⟨_, rfl, ⟨?_, counterparts.engine.built, counterparts.engine.lookups,
          counterparts.engine.keyed.insert factory, fun name => ?_⟩, counterparts.issues,
          Memo.counterparts_empty _ _ _, counterparts.known, counterparts.typed⟩
        · dsimp only
          rw [counterparts.engine.same]
        · dsimp only
          rw [Registry.get?_insert, Registry.get?_insert]
          split
          · exact .some pair
          · exact counterparts.engine.factories name

/-- Counterparts are registered one by one. -/
theorem Counterparts.registerAll {factories others : List Factory} {after : Transformer}
    (counterparts : first.Counterparts type forest second)
    (pairs : List.Forall₂ (Factory.Counterpart first.engine.schema type) factories others)
    (registered : first.registerAll factories = .ok after) :
    ∃ other, second.registerAll others = .ok other ∧ after.Counterparts type forest other := by
  generalize isSchema : first.engine.schema = schema at pairs
  induction pairs generalizing first second with
  | nil =>
      cases registered
      exact ⟨second, rfl, counterparts⟩
  | cons pair _ ih =>
      obtain ⟨begun, isBegun, registered⟩ := registerAll_cons_eq_ok registered
      obtain ⟨otherBegun, isOther, counterparts⟩ :=
        counterparts.register (isSchema ▸ pair) isBegun
      have sameSchema : begun.engine.schema = schema := by
        rw [register_eq_ok isBegun, isSchema]
      obtain ⟨other, otherRegistered, counterparts⟩ := ih counterparts registered sameSchema
      refine ⟨other, ?_, counterparts⟩
      rw [Transformer.registerAll, List.foldlM_cons, isOther]
      exact otherRegistered

theorem Counterparts.twin (counterparts : first.Counterparts type forest second) :
    Engine.Together type first.engine second.engine forest forest
      ⟨forest, first.issues, first.memo⟩ ⟨forest, second.issues, second.memo⟩ where
  grafted := ⟨⟨rfl, fun _ => rfl, rfl⟩, counterparts.known, counterparts.known,
    .refl counterparts.known⟩
  forest := (Forest.onto_self rfl rfl).symm
  issues := counterparts.issues
  memos := counterparts.memo
  typed := counterparts.typed

theorem Counterparts.tidy (counterparts : first.Counterparts type forest second) :
    first.engine.Tidy ⟨forest, first.issues, first.memo⟩ :=
  ⟨counterparts.typed, counterparts.memo.here⟩

/-- If the nodes for `type` can be filled, filling them by hand gives the same result, the same
forest and the same issues. A call that succeeds could fill them all where errors are handed
on. -/
theorem transform_byHand (counterparts : first.Counterparts type forest second)
    (lower : ∀ above ∈ parent, above < forest.nextId)
    (ended : first.transform fuel forest value parent = some outcome)
    (filled : (first.perform forest (·.insist type fuel value parent)).isSome = true ∨
      first.engine.HandsOn ∧ ∃ made, outcome.result = .ok made) :
    ∃ transformer,
      second.transform fuel forest value parent =
        some ⟨outcome.result, outcome.forest, transformer⟩ ∧
      outcome.transformer.Counterparts type outcome.forest transformer := by
  have insisted : first.perform forest (·.insist type fuel value parent) = some outcome := by
    rcases filled with isSome | ⟨handsOn, made, succeeds⟩
    · obtain ⟨other, insisted⟩ := Option.isSome_iff_exists.mp isSome
      rwa [← Option.some.inj ((transform_of_insist insisted).symm.trans ended)]
    · exact insist_of_transform counterparts.engine.orderly counterparts.tidy handsOn succeeds ended
  obtain ⟨run, ran, same⟩ := perform_eq_some insisted
  obtain ⟨otherRun, otherRan, twin, _, _⟩ := (counterparts.engine.insistNode fuel).transformValue
    counterparts.twin (Nat.zero_le _) lower value _ _ ran
  have forests : otherRun.forest = run.forest :=
    twin.forest.trans (Forest.onto_of_extends twin.grafted.grows.extended)
  refine ⟨{ second with issues := otherRun.issues, memo := otherRun.memo }, ?_, ?_⟩
  · rw [same, ← forests]
    exact perform_of_ran otherRan
  · rw [same]
    exact ⟨counterparts.engine, twin.issues, twin.memos, twin.grafted.grows.known, twin.typed⟩

def palletDecls : List ConceptDecl :=
  let filled := (ConceptDecl.named "Box").addFeature "item" (.child "Node")
  [(filled.addFeature "rest" (.children "Node")).addFeature "note" .attribute]

/-- Crates are filled by the engine. -/
def crateFactory : Factory :=
  { Factory.ofConcept "Crate" "Box" with
    rules := (ExtractionRules.empty.add "item" (.path "item")).add "rest" (.path "rest")
    finish := some (FinishRecipe.finishAll [.count "note"]) }

/-- The constructor has the load of a pallet transformed. -/
def palletFactory : Factory :=
  let load : Wire := ⟨"item", some "load", .child, false⟩
  { Factory.ofConcept "Pallet" "Box" with
    construct := Recipe.construct (.create ⟨"Box", none, none, none, [], [load]⟩)
    finish := some (FinishRecipe.finishAll []) }

def brokenFactory : Factory :=
  { Factory.ofConcept "Broken" "Box" with
    construct := Recipe.construct (.fail "broken")
    finish := some (FinishRecipe.finishAll []) }

def goods (type : String) (fields : List (String × ForeignValue)) : ForeignValue :=
  .node (.record type [] fields (some ⟨⟨1, 0⟩, ⟨2, 0⟩⟩) none)

def loadedPallet : ForeignValue :=
  let rest := ForeignValue.list [goods "Broken" [], .null, goods "Crate" [], goods "Lid" []]
  goods "Pallet" [("load", goods "Crate" [("item", goods "Crate" []), ("rest", rest)])]

/-- The pallet stands in box 0; its crate holds crates, an error node and a generic node. -/
theorem transform_byHand_pallet :
    ∃ schema box first second outcome,
      Schema.build palletDecls = .ok schema ∧ schema.concept? "Box" = some box ∧
      (new schema .lenient none).registerAll [crateFactory, palletFactory, brokenFactory] =
        .ok first ∧
      (new schema .lenient none).registerAll
        [crateFactory.byHand box, palletFactory, brokenFactory] = .ok second ∧
      first.transform 4 (Forest.run schema [.create "Box"]) loadedPallet (some 0) =
        some outcome ∧
      outcome.result = .ok (some 1) ∧ outcome.forest.nextId = 7 ∧
      outcome.transformer.issues.length = 2 ∧
      ∃ transformer,
        second.transform 4 (Forest.run schema [.create "Box"]) loadedPallet (some 0) =
          some ⟨outcome.result, outcome.forest, transformer⟩ ∧
        transformer.issues = outcome.transformer.issues := by
  have evaluated : ((Schema.build palletDecls).toOption.any fun schema =>
      (schema.concept? "Box").any fun box => crateFactory.fillsByRule box &&
        decide (0 < (Forest.run schema [.create "Box"]).nextId) &&
        ((new schema .lenient none).registerAll
          [crateFactory, palletFactory, brokenFactory]).toOption.any fun first =>
            (first.transform 4 (Forest.run schema [.create "Box"]) loadedPallet (some 0)).any
              fun outcome => decide (outcome.result = .ok (some 1) ∧
                outcome.forest.nextId = 7 ∧ outcome.transformer.issues.length = 2)) = true := by
    decide +kernel
  have crate : crateFactory.Confined := Factory.confined_of_finishAll rfl fun foreign mark =>
    Factory.confined_ofConcept "Crate" "Box" foreign crateFactory.rules mark
  have pallet : palletFactory.Confined := Factory.confined_of_finishAll rfl fun foreign mark =>
    Recipe.confined_construct (.create rfl) foreign .empty mark mark
  have broken : brokenFactory.Confined := Factory.confined_of_finishAll rfl fun foreign mark =>
    Recipe.confined_construct (.fail "broken") foreign .empty mark mark
  have handsOn : ∀ factory ∈ [crateFactory, palletFactory, brokenFactory],
      factory.HandsOn .lenient := by
    simp only [List.forall_mem_cons, List.not_mem_nil, false_implies, implies_true, and_true]
    refine ⟨Factory.handsOn_of_finishAll rfl (fun foreign => ?_) (by simp),
      Factory.handsOn_of_finishAll rfl (fun foreign => ?_) (by simp),
      Factory.handsOn_of_finishAll rfl (fun foreign => ?_) (by simp)⟩
    · exact Factory.handsOn_ofConcept "Crate" "Box" foreign crateFactory.rules
    · exact Recipe.handsOn_construct foreign .empty _
    · exact Recipe.handsOn_construct foreign .empty _
  cases built : Schema.build palletDecls with
  | error reason =>
      rw [built] at evaluated
      cases evaluated
  | ok schema =>
      rw [built, Except.toOption, Option.any_some] at evaluated
      obtain ⟨box, isBox, evaluated⟩ := (Option.any_eq_true _ _).mp evaluated
      rw [Bool.and_eq_true, Bool.and_eq_true] at evaluated
      obtain ⟨⟨explicit, there⟩, evaluated⟩ := evaluated
      have named := Schema.name_of_concept? built isBox
      have automatic : crateFactory.Automatic schema box :=
        ⟨named ▸ isBox, by rw [named]; rfl, rfl, explicit⟩
      cases registered : (new schema .lenient none).registerAll
          [crateFactory, palletFactory, brokenFactory] with
      | error reason =>
          rw [registered] at evaluated
          cases evaluated
      | ok first =>
          rw [registered, Except.toOption, Option.any_some] at evaluated
          obtain ⟨outcome, ended, evaluated⟩ := (Option.any_eq_true _ _).mp evaluated
          obtain ⟨succeeds, size, reported⟩ := of_decide_eq_true evaluated
          obtain ⟨second, alsoRegistered, counterparts⟩ :=
            ((counterparts_new built .lenient none).onRun [.create "Box"]).registerAll
              (.cons (.byHand automatic crate rfl) (.cons (.same pallet) (.cons (.same broken) .nil)))
              registered
          have lower : ∀ above ∈ some 0, above < (Forest.run schema [.create "Box"]).nextId := by
            intro above member
            cases member
            exact of_decide_eq_true there
          obtain ⟨transformer, otherEnded, still⟩ := transform_byHand counterparts lower ended
            (.inr ⟨handsOn_registerAll (handsOn_new schema .lenient none) handsOn registered, _,
              succeeds⟩)
          exact ⟨schema, box, first, second, outcome, rfl, isBox, registered, alsoRegistered, ended,
            succeeds, size, reported, transformer, otherEnded, still.issues⟩

def failingLid : Factory :=
  { Factory.ofConcept "Lid" "Box" with finish := some fun _ _ => .fail (.factory "boom") }

/-- The hook takes over the range of the node above. -/
def alignedLid : Factory :=
  { Factory.ofConcept "Lid" "Box" with
    finish := some fun node _ => do
      let forest ← Finishing.look
      let above := (forest.parentLink? node).bind forest.cell?
      Finishing.edit (.setRange node (above.bind (·.range))) }

/-- The constructor makes an empty box for a load that cannot be transformed. -/
def tolerantPallet : Factory :=
  { Factory.ofConcept "Pallet" "Box" with
    construct := fun foreign _ =>
      .ask (.transform (foreign.navigate "load") none) fun
        | .ok load => .done load
        | .error _ => do return some (← Construction.create "Box") }

/-- What becomes of a value where crates are filled by the engine, and where by hand. -/
def bothWays (schema : Schema) (box : Concept) (others : List Factory) (value : ForeignValue) :
    Option (Outcome (Option NodeId) × Outcome (Option NodeId)) := do
  let first ← ((new schema .lenient none).registerAll (crateFactory :: others)).toOption
  let second ←
    ((new schema .lenient none).registerAll (crateFactory.byHand box :: others)).toOption
  let outcome ← first.transform 4 ∅ value none
  let other ← second.transform 4 ∅ value none
  return (outcome, other)

def cappedCrate : ForeignValue := goods "Crate" [("item", .node (.record "Lid" [] [] none none))]

/-- A crate with a single crate where a list is expected. -/
def bundledCrate : ForeignValue := goods "Crate" [("rest", goods "Crate" [])]

/-- The failure of a hook is answered further up where the engine fills the crate; a hook sees
the range of the crate only there; and only a constructor takes a single crate for a list. -/
theorem transform_differs_byHand :
    ∃ schema box, Schema.build palletDecls = .ok schema ∧ crateFactory.Automatic schema box ∧
      (∃ outcome other,
        bothWays schema box [palletFactory, failingLid] (goods "Pallet" [("load", cappedCrate)]) =
          some (outcome, other) ∧
        (outcome.result = .ok (some 3) ∧
          (outcome.forest.concept? 3).map (·.name) = some "ErrorNode" ∧
          outcome.transformer.issues.map (·.message) = ["Failed to transform Pallet: boom"]) ∧
        other.result = .ok (some 0) ∧ (other.forest.concept? 0).map (·.name) = some "Box" ∧
        other.transformer.issues.map (·.message) = ["Failed to transform Crate: boom"]) ∧
      (∃ outcome other,
        bothWays schema box [alignedLid] cappedCrate = some (outcome, other) ∧
        outcome.result = .ok (some 0) ∧ outcome.forest.children 0 = [1] ∧
        other.result = .ok (some 0) ∧ other.forest.children 0 = [1] ∧
        ((outcome.forest.cell? 1).bind (·.range)).isSome = true ∧
        ((other.forest.cell? 1).bind (·.range)).isSome = false) ∧
      ∃ outcome other,
        bothWays schema box [tolerantPallet] (goods "Pallet" [("load", bundledCrate)]) =
          some (outcome, other) ∧
        outcome.result = .ok (some 1) ∧ outcome.forest.children 1 = [] ∧
        other.result = .ok (some 0) ∧ other.forest.children 0 = [1] := by
  have evaluated : ((Schema.build palletDecls).toOption.any fun schema =>
      (schema.concept? "Box").any fun box => crateFactory.fillsByRule box &&
        ((bothWays schema box [palletFactory, failingLid]
          (goods "Pallet" [("load", cappedCrate)])).any fun (outcome, other) =>
            decide ((outcome.result = .ok (some 3) ∧
              (outcome.forest.concept? 3).map (·.name) = some "ErrorNode" ∧
              outcome.transformer.issues.map (·.message) = ["Failed to transform Pallet: boom"]) ∧
              other.result = .ok (some 0) ∧ (other.forest.concept? 0).map (·.name) = some "Box" ∧
              other.transformer.issues.map (·.message) = ["Failed to transform Crate: boom"])) &&
        ((bothWays schema box [alignedLid] cappedCrate).any fun (outcome, other) =>
          decide (outcome.result = .ok (some 0) ∧ outcome.forest.children 0 = [1] ∧
            other.result = .ok (some 0) ∧ other.forest.children 0 = [1] ∧
            ((outcome.forest.cell? 1).bind (·.range)).isSome = true ∧
            ((other.forest.cell? 1).bind (·.range)).isSome = false)) &&
        (bothWays schema box [tolerantPallet]
          (goods "Pallet" [("load", bundledCrate)])).any fun (outcome, other) =>
            decide (outcome.result = .ok (some 1) ∧ outcome.forest.children 1 = [] ∧
              other.result = .ok (some 0) ∧ other.forest.children 0 = [1])) = true := by
    decide +kernel
  cases built : Schema.build palletDecls with
  | error reason =>
      rw [built] at evaluated
      cases evaluated
  | ok schema =>
      rw [built, Except.toOption, Option.any_some] at evaluated
      obtain ⟨box, isBox, evaluated⟩ := (Option.any_eq_true _ _).mp evaluated
      rw [Bool.and_eq_true, Bool.and_eq_true, Bool.and_eq_true] at evaluated
      obtain ⟨⟨⟨explicit, failing⟩, aligned⟩, tolerant⟩ := evaluated
      obtain ⟨⟨failed, contained⟩, atPallet, answered⟩ := (Option.any_eq_true _ _).mp failing
      obtain ⟨⟨seen, unseen⟩, atCrate, ranges⟩ := (Option.any_eq_true _ _).mp aligned
      obtain ⟨⟨dropped, taken⟩, atBundle, results⟩ := (Option.any_eq_true _ _).mp tolerant
      have named := Schema.name_of_concept? built isBox
      exact ⟨schema, box, rfl, ⟨named ▸ isBox, by rw [named]; rfl, rfl, explicit⟩,
        ⟨failed, contained, atPallet, of_decide_eq_true answered⟩,
        ⟨seen, unseen, atCrate, of_decide_eq_true ranges⟩,
        dropped, taken, atBundle, of_decide_eq_true results⟩

end Transformer

end TypedTree
