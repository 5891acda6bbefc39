import TypedTree.Proofs.Transform.Correspondence

namespace TypedTree

namespace Engine

variable {valid : Memo → Prop} {supers : String → List String} {source : Option Source}
  {recur : Recur} {drafted : ForeignNode → Drafting Sketch} {parent : Option NodeId}
  {run after : Run}

section

variable (agreesOn : AgreesOn valid supers source recur drafted)
include agreesOn

theorem AgreesOn.valid_transformValue {value : ForeignValue}
    {result : Except TransformError (Option NodeId)} (typed : value.TypedBy supers)
    (memo : valid run.memo) (known : run.forest.LinksKnown)
    (lower : ∀ above, parent = some above → above < run.forest.nextId)
    (ran : (transformValue recur value parent).run.run run = some (result, after)) :
    valid after.memo ∧ ∀ answer, result = .ok answer →
      after.forest.LinksKnown ∧ run.forest.nextId ≤ after.forest.nextId := by
  match value with
  | .null =>
      cases ran
      exact ⟨memo, fun _ _ => ⟨known, Nat.le_refl _⟩⟩
  | .list _ | .scalar _ =>
      cases ran
      exact ⟨memo, nofun⟩
  | .node foreign =>
      obtain ⟨memoAfter, made⟩ := (agreesOn foreign typed parent run memo known lower).of_ran ran
      refine ⟨memoAfter, fun answer succeeded => ?_⟩
      obtain ⟨sketch, made⟩ := made answer succeeded
      exact ⟨made.known, made.extended.nextId⟩

theorem AgreesOn.valid_transformEach {items : List ForeignValue}
    {result : Except TransformError (List NodeId)}
    (typed : (ForeignValue.list items).TypedBy supers) (memo : valid run.memo)
    (known : run.forest.LinksKnown)
    (lower : ∀ above, parent = some above → above < run.forest.nextId)
    (ran : (transformEach recur parent items).run.run run = some (result, after)) :
    valid after.memo := by
  induction items generalizing run after result with
  | nil =>
      cases ran
      exact memo
  | cons item rest ih =>
      rw [transformEach, ExceptT.run_bind, StateT.run_bind] at ran
      obtain ⟨⟨first, middle⟩, begun, ran⟩ := Option.bind_eq_some_iff.mp ran
      obtain ⟨memoMiddle, further⟩ := agreesOn.valid_transformValue
        (ForeignValue.typedBy_list_iff.mp typed _ List.mem_cons_self) memo known lower begun
      cases first with
      | error error =>
          cases ran
          exact memoMiddle
      | ok node =>
          obtain ⟨knownMiddle, grows⟩ := further node rfl
          change (transformEach recur parent rest >>= fun nodes =>
            pure (node.toList ++ nodes) : EngineM _).run.run middle = some (result, after) at ran
          rw [ExceptT.run_bind, StateT.run_bind] at ran
          obtain ⟨⟨others, last⟩, ended, ran⟩ := Option.bind_eq_some_iff.mp ran
          have memoLast := ih typed.tail memoMiddle knownMiddle
            (fun above isParent => Nat.lt_of_lt_of_le (lower above isParent) grows) ended
          cases others <;>
            · cases ran
              exact memoLast

theorem AgreesOn.valid_transformAll {value : ForeignValue}
    {result : Except TransformError (List NodeId)} (typed : value.TypedBy supers)
    (memo : valid run.memo) (known : run.forest.LinksKnown)
    (lower : ∀ above, parent = some above → above < run.forest.nextId)
    (ran : (transformAll recur value parent).run.run run = some (result, after)) :
    valid after.memo := by
  match value with
  | .list items => exact agreesOn.valid_transformEach typed memo known lower ran
  | .null | .scalar _ =>
      cases ran
      exact memo
  | .node foreign =>
      change (transformValue recur (.node foreign) parent >>= fun node =>
        pure node.toList : EngineM _).run.run run = some (result, after) at ran
      rw [ExceptT.run_bind, StateT.run_bind] at ran
      obtain ⟨⟨first, middle⟩, begun, ran⟩ := Option.bind_eq_some_iff.mp ran
      have memoMiddle := (agreesOn.valid_transformValue typed memo known lower begun).1
      cases first <;>
        · cases ran
          exact memoMiddle

end

end Engine

namespace Transformer

variable {decls : List ConceptDecl} {schema : Schema} {config : TransformConfig}
  {source : Option Source} {made : String → String} {supers : String → List String}
  {transformer : Transformer}

/-- Transformers that only have plain factories, whose types make the concepts that `made`
says, and that were only given records, whose types have the supertypes that `supers` says. -/
inductive Reached (schema : Schema) (config : TransformConfig) (source : Option Source)
    (made : String → String) (supers : String → List String) : Transformer → Prop where
  | new : Reached schema config source made supers (.new schema config source)
  | register {before after : Transformer} {factory : Factory}
      (reached : Reached schema config source made supers before)
      (plain : factory.Plain schema (made factory.sourceType))
      (registered : before.register factory = .ok after) :
      Reached schema config source made supers after
  | addIssue {before : Transformer} (reached : Reached schema config source made supers before)
      (issue : Issue) : Reached schema config source made supers (before.addIssue issue)
  | takeIssues {before : Transformer}
      (reached : Reached schema config source made supers before) :
      Reached schema config source made supers before.takeIssues.2
  | transform {before : Transformer} {fuel : Nat} {forest : Forest} {value : ForeignValue}
      {parent : Option NodeId} {outcome : Outcome (Option NodeId)}
      (reached : Reached schema config source made supers before)
      (typed : value.TypedBy supers) (known : forest.LinksKnown)
      (lower : ∀ above, parent = some above → above < forest.nextId)
      (ended : before.transform fuel forest value parent = some outcome) :
      Reached schema config source made supers outcome.transformer
  | transformList {before : Transformer} {fuel : Nat} {forest : Forest} {value : ForeignValue}
      {parent : Option NodeId} {outcome : Outcome (List NodeId)}
      (reached : Reached schema config source made supers before)
      (typed : value.TypedBy supers) (known : forest.LinksKnown)
      (lower : ∀ above, parent = some above → above < forest.nextId)
      (ended : before.transformList fuel forest value parent = some outcome) :
      Reached schema config source made supers outcome.transformer

/-- What holds of a transformer throughout its life. -/
structure Sound (schema : Schema) (config : TransformConfig) (source : Option Source)
    (made : String → String) (supers : String → List String) (transformer : Transformer) :
    Prop where
  schema : transformer.engine.schema = schema
  config : transformer.engine.config = config
  source : transformer.engine.source = source
  regular : transformer.engine.Regular made
  faithful : transformer.memo.Faithful transformer.engine supers

theorem Sound.register {before after : Transformer} {factory : Factory}
    (sound : Sound schema config source made supers before)
    (plain : factory.Plain schema (made factory.sourceType))
    (registered : before.register factory = .ok after) :
    Sound schema config source made supers after := by
  obtain rfl := register_eq_ok registered
  refine ⟨sound.schema, sound.config, sound.source, ?_, Memo.recalls_empty _ _⟩
  refine ⟨sound.regular.built, sound.regular.lookups, ?_, ?_⟩
  · intro type found looked
    rw [Registry.get?_insert] at looked
    split at looked
    · next same =>
        cases looked
        exact same.symm
    · exact sound.regular.keyed looked
  · intro type found looked
    rw [Registry.get?_insert] at looked
    split at looked
    · next same =>
        cases looked
        rw [same, sound.schema]
        exact plain
    · exact sound.regular.plain looked

theorem Reached.sound (built : Schema.build decls = .ok schema)
    (reached : Reached schema config source made supers transformer) :
    Sound schema config source made supers transformer := by
  induction reached with
  | new =>
      refine ⟨rfl, rfl, rfl, ⟨⟨decls, built⟩, rfl, ?_, ?_⟩, Memo.recalls_empty _ _⟩
      · intro type factory looked
        cases looked
      · intro type factory looked
        cases looked
  | register _ plain registered ih => exact ih.register plain registered
  | addIssue _ issue ih => exact { ih with }
  | takeIssues _ ih => exact { ih with }
  | transform _ typed known lower ended ih =>
      obtain ⟨run, ran, same⟩ := perform_eq_some ended
      have agreesOn := Engine.agreesOn_transformNode ih.regular supers
      have faithful := (agreesOn _).valid_transformValue typed ih.faithful known lower ran
      rw [same]
      exact { ih with faithful := faithful.1 }
  | transformList _ typed known lower ended ih =>
      obtain ⟨run, ran, same⟩ := perform_eq_some ended
      have agreesOn := Engine.agreesOn_transformNode ih.regular supers
      have faithful := (agreesOn _).valid_transformAll typed ih.faithful known lower ran
      rw [same]
      exact { ih with faithful := faithful }

end Transformer

/-- The nodes of `after` that `before` did not have form one tree. It looks like `sketch`,
every node stands where its parent link and its containing feature say, and the root has
the given parent. -/
structure Forest.NewTree (before after : Forest) (sketch : Sketch) (parent : Option NodeId)
    (source : Option Source) : Prop where
  looks : after.sketch before.nextId = some sketch
  /-- All new nodes belong to the tree, and each occurs once. -/
  nodes : after.walk before.nextId =
    List.range' before.nextId (after.nextId - before.nextId)
  places : ∀ node ∈ after.walk before.nextId, ∀ feature (index : Nat) child,
    (after.childrenOf node feature)[index]? = some child →
      after.parent? child = some node ∧
        after.containingFeature? child = some (feature, index)
  link : after.parentLink? before.nextId = parent
  source : (after.cell? before.nextId).bind (·.source) =
    if parent.isSome then none else source

theorem Engine.Made.newTree {source : Option Source} {parent answer : Option NodeId}
    {before after : Forest} {sketch : Sketch}
    (made : Made source parent before answer sketch after) :
    before.NewTree after sketch parent source := by
  have bounded : after.nextId - before.nextId ≤ after.nextId := Nat.sub_le _ _
  have nodes : after.walk before.nextId =
      List.range' before.nextId (after.nextId - before.nextId) := by
    refine made.grown.toTrees.walk_eq List.nodup_range' fun inner member => ?_
    rw [List.mem_range'_1] at member
    lia
  refine ⟨(List.cons.inj (made.shown _ bounded)).1, nodes, ?_, made.link, made.source⟩
  intro node member feature index child there
  rw [nodes] at member
  have contained := List.mem_of_getElem? there
  have up : after.parent? child = some node :=
    Forest.parent?_eq_some_iff.mpr
      ⟨made.grown.links node member child (Forest.mem_children_iff.mpr ⟨feature, contained⟩),
        Forest.isAlive_of_mem_childrenOf contained⟩
  refine ⟨up, ?_⟩
  obtain ⟨⟨name, position⟩, found⟩ :=
    Option.isSome_iff_exists.mp (Forest.containingFeature?_isSome up contained)
  obtain ⟨container, sameUp, here⟩ := Forest.exists_getElem?_of_containingFeature? found
  cases up.symm.trans sameUp
  obtain ⟨rfl, rfl⟩ := Forest.index_unique_of_nodup (made.grown.distinct node member) here there
  exact found

namespace Transformer

variable {decls : List ConceptDecl} {schema : Schema} {config : TransformConfig}
  {source : Option Source} {made : String → String} {supers : String → List String}
  {transformer : Transformer} {forest : Forest} {foreign : ForeignNode} {parent : Option NodeId}

/-- A transformation of a tree of records succeeds exactly if the draft does, fails with
the same error, reports the same issues, leaves the old nodes alone, and on success adds a
tree that looks like the draft. -/
theorem transform_refines_draft (built : Schema.build decls = .ok schema)
    (reached : Reached schema config source made supers transformer)
    (typed : (ForeignValue.node foreign).TypedBy supers) (known : forest.LinksKnown)
    (lower : ∀ above, parent = some above → above < forest.nextId) {fuel : Nat}
    (enough : foreign.depth ≤ fuel) :
    ∃ drafted issues outcome,
      (transformer.engine.draft made foreign).run.run transformer.issues =
        some (drafted, issues) ∧
      transformer.transform fuel forest (.node foreign) parent = some outcome ∧
      outcome.transformer.issues = issues ∧ forest.Extends outcome.forest ∧
      match drafted with
      | .error error => outcome.result = .error error
      | .ok sketch =>
          outcome.result = .ok (some forest.nextId) ∧
            forest.NewTree outcome.forest sketch parent source := by
  have sound := reached.sound built
  have descends := sound.regular.descends
  obtain ⟨⟨drafted, issues⟩, ended⟩ :=
    Drafting.total_draft descends typed transformer.issues
  have agrees := Engine.agreesOn_transformNode sound.regular supers fuel foreign typed parent
    ⟨forest, transformer.issues, transformer.memo⟩ sound.faithful known lower
  rw [Drafting.node_eq_draft descends typed enough, Engine.Agrees, ended] at agrees
  cases drafted with
  | error error =>
      obtain ⟨after, ran, same, _, extended⟩ := agrees
      exact ⟨_, issues, _, ended, perform_of_ran ran, same, extended, rfl⟩
  | ok sketch =>
      obtain ⟨answer, after, ran, same, _, made⟩ := agrees
      obtain rfl := made.answer
      exact ⟨_, issues, _, ended, perform_of_ran ran, same, made.extended, rfl,
        sound.source ▸ made.newTree⟩

def crateDecls : List ConceptDecl :=
  let labelled := ((ConceptDecl.named "Box").addFeature "label" .attribute).mapLastFrom "label"
  let filled := (labelled.addFeature "items" (.children "Node")).mapLastFrom "items"
  [(filled.addFeature "lid" (.child "Box")).mapLastFrom "top.lid"]

def crateSupers (type : String) : List String := if type = "Chest" then ["Crate"] else []

def crate (type label : String) (fields : List (String × ForeignValue)) : ForeignNode :=
  .record type (crateSupers type) (("label", .scalar (.str label)) :: fields) none none

/-- Its items are a crate, nothing, and a node of a type without a factory; its lid is found
two steps away. -/
def chest : ForeignNode :=
  crate "Chest" "outer"
    [("items", .list [.node (crate "Crate" "inner" []), .null, .node (crate "Coin" "" [])]),
      ("top", .node (crate "Top" "" [("lid", .node (crate "Crate" "lid" []))]))]

def crateTransformer (schema : Schema) : Transformer :=
  let transformer := Transformer.new schema .lenient none
  { transformer with engine := { transformer.engine with
      factories := Registry.empty.insert "Crate" (.ofConcept "Crate" "Box") } }

theorem transform_refines_draft_chest :
    ∃ schema, Schema.build crateDecls = .ok schema ∧
      Reached schema .lenient none (fun _ => "Box") crateSupers (crateTransformer schema) ∧
      ∃ sketch outcome,
        (crateTransformer schema).transform 3 ∅ (.node chest) none = some outcome ∧
        outcome.result = .ok (some 0) ∧
        (∅ : Forest).NewTree outcome.forest sketch none none := by
  have descends : ((Schema.build crateDecls).toOption.all fun schema =>
      (schema.concept? "Box").all (Factory.ofConcept "Crate" "Box").descends) = true := by
    decide +kernel
  have succeeds : ((Schema.build crateDecls).toOption.any fun schema =>
      ((crateTransformer schema).transform 3 ∅ (.node chest) none).any (·.result.isOk)) = true := by
    decide +kernel
  cases built : Schema.build crateDecls with
  | error reason =>
      rw [built] at succeeds
      cases succeeds
  | ok schema =>
      rw [built, Except.toOption, Option.all_some] at descends
      rw [built, Except.toOption, Option.any_some] at succeeds
      have plain : (Factory.ofConcept "Crate" "Box").Plain schema "Box" :=
        ⟨rfl, rfl, fun concept found => by simpa [found] using descends⟩
      have reached : Reached schema .lenient none (fun _ => "Box") crateSupers
          (crateTransformer schema) := .register .new plain rfl
      have typed : (ForeignValue.node chest).TypedBy crateSupers := by
        simp [chest, crate]
      have known : (∅ : Forest).LinksKnown := fun _ _ link => by cases link
      have lower (above : NodeId) (same : none = some above) : above < (∅ : Forest).nextId := by
        cases same
      obtain ⟨drafted, issues, outcome, _, ended, _, _, result⟩ :=
        transform_refines_draft built reached typed known lower
          (by decide +kernel : chest.depth ≤ 3)
      rw [ended, Option.any_some] at succeeds
      cases drafted with
      | error error =>
          rw [(result : outcome.result = .error error)] at succeeds
          cases succeeds
      | ok sketch => exact ⟨schema, rfl, reached, sketch, outcome, ended, result⟩

end Transformer

end TypedTree
