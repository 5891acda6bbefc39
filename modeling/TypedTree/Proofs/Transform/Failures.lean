import TypedTree.Proofs.Forest.Growth
import TypedTree.Proofs.Transform.Stability

namespace TypedTree

/-- Whether no hook reports the failure `message`. -/
def Event.sparesHooks (message : String) : Event → Bool
  | .hookFailed error => decide (error ≠ .factory message)
  | .meets _ | .unmapped _ | .failed _ _ => true

namespace Engine

variable {α β : Type} {message : String} {engine : Engine}

/-- The computation does not end with the failure `message`. -/
def Avoids (message : String) (computation : RunM (Except TransformError α)) : Prop :=
  ∀ run after, computation.run run ≠ some (.error (.factory message), after)

theorem avoids_ok (answer : α) : Avoids message (pure answer : EngineM α).run := by
  intro run after ended
  cases ended

theorem avoids_throw {error : TransformError} (uncontained : error.isContainable = false) :
    Avoids message (throw error : EngineM α).run := by
  intro run after ended
  cases ended
  cases uncontained

theorem avoids_lift (step : RunM α) : Avoids message (liftM step : EngineM α).run := by
  intro run after ended
  obtain ⟨⟨answer, middle⟩, _, ended⟩ := Option.bind_eq_some_iff.mp ended
  cases ended

theorem avoids_andThen {first : EngineM α} {next : α → EngineM β}
    (here : Avoids message first.run) (later : ∀ answer, Avoids message (next answer).run) :
    Avoids message (first >>= next).run := by
  intro run after ended
  rw [ExceptT.run_bind, StateT.run_bind] at ended
  obtain ⟨⟨answer, middle⟩, begun, ended⟩ := Option.bind_eq_some_iff.mp ended
  cases answer with
  | ok answer => exact later answer middle after ended
  | error error =>
      cases ended
      exact here run middle begun

theorem congruent_avoids (message : String) :
    Congruent fun computation : Unit → EngineM _ => Avoids message (computation ()).run where
  done answer := avoids_ok answer
  failed uncontained := avoids_throw uncontained
  andThen here later := avoids_andThen here later

theorem avoids_edit (change : Edit) : Avoids message (edit change).run := by
  intro run after ended
  rw [edit, ExceptT.run_mk, StateT.run_bind] at ended
  obtain ⟨⟨answer, middle⟩, _, ended⟩ := Option.bind_eq_some_iff.mp ended
  cases answer <;> cases ended

theorem avoids_substituteGeneric (adopt : Adopt) (foreign : ForeignNode)
    (parent : Option NodeId) :
    Avoids message (engine.substituteGeneric adopt foreign parent).run := by
  unfold substituteGeneric
  by_cases allowed : engine.config.allowGeneric = true
  · rw [if_pos allowed]
    refine avoids_andThen (avoids_lift _) fun node => avoids_andThen (avoids_lift _) fun _ => ?_
    exact avoids_andThen (avoids_lift _) fun _ => avoids_ok _
  · rw [if_neg allowed]
    exact avoids_throw rfl

theorem avoids_substituteError (adopt : Adopt) (mark : NodeId) (failure : String)
    (foreign : ForeignNode) (parent : Option NodeId) :
    Avoids message (substituteError adopt mark failure foreign parent).run := by
  refine avoids_andThen (avoids_lift _) fun _ => avoids_andThen (avoids_lift _) fun node => ?_
  refine avoids_andThen (avoids_lift _) fun _ => avoids_andThen (avoids_lift _) fun _ => ?_
  exact avoids_ok _

theorem avoids_watchHook (factory : Factory) (foreign : ForeignNode) (node : NodeId) :
    Avoids message
      (engine.watchHook (Event.sparesHooks message) factory foreign node).run := by
  intro run after ended
  obtain ⟨⟨answer, middle⟩, _, ended⟩ := Option.bind_eq_some_iff.mp ended
  cases answer with
  | ok done => cases ended
  | error error =>
      dsimp only [heed] at ended
      split at ended
      · next allowed =>
          cases ended
          exact of_decide_eq_true allowed rfl
      · cases ended

section

variable {recur : Recur}
  (recursive : ∀ foreign parent, Avoids message (recur foreign parent).run)
include recursive

theorem avoids_wire (factory : Factory) (foreign : ForeignNode) (node : NodeId) :
    Avoids message (engine.wire recur factory foreign node).run := by
  refine avoids_andThen (avoids_lift _) fun run => ?_
  cases run.forest.concept? node with
  | none => exact avoids_ok _
  | some concept =>
      dsimp only
      split
      · refine avoids_andThen (avoids_lift _) fun plan => ?_
        exact (congruent_avoids message).assignAll (fun _ => recur) recursive avoids_edit node
          concept.name foreign plan
      · exact avoids_ok _

theorem avoids_watchWith (contained : engine.config.containFailures = true) (adopt : Adopt)
    (foreign : ForeignNode) (parent : Option NodeId) :
    Avoids message
      (engine.watchWith (Event.sparesHooks message) adopt recur foreign parent).run := by
  refine avoids_andThen (avoids_lift _) fun _ => avoids_andThen (avoids_lift _) fun found => ?_
  cases found with
  | none =>
      refine avoids_andThen (avoids_lift _) fun _ => ?_
      exact avoids_substituteGeneric adopt foreign parent
  | some factory =>
      refine avoids_andThen (avoids_lift _) fun run => avoids_andThen (avoids_lift _) fun made => ?_
      match made with
      | .ok none => exact avoids_ok _
      | .ok (some node) =>
          refine avoids_andThen (avoids_lift _) fun _ => ?_
          refine avoids_andThen (avoids_wire recursive factory foreign node) fun _ => ?_
          exact avoids_andThen (avoids_watchHook factory foreign node) fun _ => avoids_ok _
      | .error (.factory failure) =>
          refine avoids_andThen (avoids_lift _) fun _ => ?_
          rw [if_pos contained]
          exact avoids_substituteError adopt _ failure foreign parent
      | .error (.unexpectedCollection _) | .error (.unexpectedValue _ _)
      | .error (.unmappedType _) | .error (.duplicateFactory _)
      | .error (.unknownChildRule _ _) | .error (.edit _) => exact avoids_throw rfl

end

theorem avoids_watchNode (contained : engine.config.containFailures = true) (fuel : Nat)
    (foreign : ForeignNode) (parent : Option NodeId) :
    Avoids message
      (engine.watchNode (Event.sparesHooks message) fuel foreign parent).run := by
  induction fuel generalizing foreign parent with
  | zero =>
      intro run after ended
      cases ended
  | succ fuel ih => exact avoids_watchWith ih contained engine.adopt foreign parent

/-- The issue that is reported with an error node. -/
def failureIssue (foreign : ForeignNode) (message : String) : Issue :=
  ⟨.translation, .error, "Failed to transform " ++ foreign.typeName ++ ": " ++ message,
    foreign.range⟩

/-- A factory is found for the foreign node, and its constructor reports a failure. -/
def Fails (engine : Engine) (fuel : Nat) (foreign : ForeignNode) (message : String)
    (run made : Run) : Prop :=
  ∃ factory looked, (engine.factoryFor foreign).run run = some (some factory, looked) ∧
    (engine.construct (engine.transformNode fuel) factory foreign).run looked =
      some (.error (.factory message), made)

end Engine

namespace Forest

variable {forest : Forest} {node : NodeId}

/-- An error node that stands for a foreign node. -/
structure ErrorNode (forest : Forest) (node : NodeId) (message : String)
    (foreign : ForeignNode) (parent : Option NodeId) : Prop where
  concept : forest.concept? node = some .error
  message : (forest.cell? node).bind (·.errorMessage?) = some message
  origin : (forest.cell? node).bind (·.origin) = some (.foreign foreign)
  range : (forest.cell? node).bind (·.range) = foreign.range
  parent : forest.parentLink? node = parent

theorem cell?_createError (forest : Forest) (message : String) :
    (forest.createError message).2.cell? forest.nextId =
      some ((Cell.blank .error).setSlot Concept.messageFeature.name
        (.attribute (some (.str message)))) :=
  forest.cell?_add_self _

theorem errorNode_createError (forest : Forest) (message : String) (source : Option Source)
    (foreign : ForeignNode) (parent : Option NodeId) :
    (Engine.attachMetadata source forest.nextId foreign parent
      (forest.createError message).2).ErrorNode forest.nextId message foreign parent := by
  have found := cell?_attachMetadata_self (forest.cell?_createError message) source foreign parent
  refine ⟨?_, ?_, ?_, ?_, ?_⟩ <;> simp only [concept?, parentLink?, found] <;>
    first
      | rfl
      | cases parent <;> rfl

section

variable {after : Forest} {child : NodeId} {feature : String} {source : Option Source}
  {message : String} {foreign : ForeignNode}

theorem cell?_attach_of_linked {placement : Placement} (apart : child ≠ node)
    (linked : forest.parent? child = some node) :
    (forest.attach node feature [child] placement).cell? child =
      (forest.cell? child).map fun cell => { cell with parent := some node } := by
  have stays : child ∉ forest.displacedBy node feature [child] placement := by
    simp [displacedBy]
  change (((((forest.detach child).modify node _).setParents
    (forest.displacedBy node feature [child] placement) none).setParents [child]
      (some node)).cell? child) = _
  rw [cell?_setParents, if_pos List.mem_cons_self, cell?_setParents, if_neg stays, cell?_modify,
    if_neg apart, detach, linked]
  dsimp only
  rw [setParent, cell?_modify, if_pos rfl, cell?_modify, if_neg apart]
  cases forest.cell? child <;> rfl

theorem ErrorNode.attach {placement : Placement}
    (errorNode : forest.ErrorNode child message foreign (some node)) (apart : child ≠ node)
    (alive : forest.isAlive node = true) :
    (forest.attach node feature [child] placement).ErrorNode child message foreign
      (some node) := by
  have linked : forest.parent? child = some node :=
    parent?_eq_some_iff.mpr ⟨errorNode.parent, alive⟩
  have kept : (forest.attach node feature [child] placement).cell? child = _ :=
    cell?_attach_of_linked apart linked
  obtain ⟨cell, found, isError⟩ := Option.map_eq_some_iff.mp errorNode.concept
  obtain ⟨_, text, origin, range, _⟩ := errorNode
  rw [found, Option.bind_some] at text origin range
  rw [found, Option.map_some] at kept
  refine ⟨?_, ?_, ?_, ?_, ?_⟩
  · rw [concept?, kept]
    exact congrArg some isError
  · rw [kept]
    exact text
  · rw [kept]
    exact origin
  · rw [kept]
    exact range
  · rw [parentLink?, kept]
    rfl

end

end Forest

namespace Engine

variable {message : String} {engine : Engine} {fuel : Nat} {foreign : ForeignNode}
  {run made : Run}

theorem run_substituteError (engine : Engine) (mark : NodeId) (message : String)
    (foreign : ForeignNode) (parent : Option NodeId) (run : Run) :
    (substituteError engine.adopt mark message foreign parent).run.run run =
      some (.ok (some (run.forest.discardSince mark).nextId),
        { run with
          forest := attachMetadata engine.source (run.forest.discardSince mark).nextId foreign
            parent ((run.forest.discardSince mark).createError message).2
          issues := run.issues ++ [failureIssue foreign message] }) := rfl

theorem nextId_le_of_fails (fails : engine.Fails fuel foreign message run made) :
    run.forest.nextId ≤ made.forest.nextId := by
  obtain ⟨factory, looked, found, failed⟩ := fails
  have same : looked.forest = run.forest :=
    (congrArg (·.2.forest) (Option.some.inj found)).symm
  refine holds_of_construct (Forest.stable_nextId engine.schema _) ?_ failed
  rw [same]

/-- A failure is answered with an error node and an issue. The nodes that were there before
the constructor began are as the constructor left them, and of its own some may go. -/
structure Answered (foreign : ForeignNode) (message : String) (parent : Option NodeId)
    (run made after : Run) : Prop where
  node : after.forest.ErrorNode made.forest.nextId message foreign parent
  issues : after.issues = made.issues ++ [failureIssue foreign message]
  older : ∀ old < run.forest.nextId, after.forest.cell? old = made.forest.cell? old
  others : ∀ node ≠ made.forest.nextId, ∀ cell, after.forest.cell? node = some cell →
    made.forest.cell? node = some cell

/-- When it comes to the foreign node in a list and its factory fails, then the error node
stands between the nodes that `answer` gives for what comes before and after. -/
def AnsweredAmong (engine : Engine) (fuel : Nat) (foreign : ForeignNode) (parent : Option NodeId)
    (answer : List ForeignValue → EngineM (List NodeId)) (earlier later : List ForeignValue)
    (run : Run) (nodes : List NodeId) (after : Run) : Prop :=
  ∃ first before, (answer earlier).run.run run = some (.ok first, before) ∧
    ∀ message made, engine.Fails fuel foreign message before made →
      ∃ placed rest, Answered foreign message parent before made placed ∧
        (answer later).run.run placed = some (.ok rest, after) ∧
        nodes = first ++ made.forest.nextId :: rest

theorem run_transformNode_of_fails (contained : engine.config.containFailures = true)
    (fails : engine.Fails fuel foreign message run made) (parent : Option NodeId) :
    ∃ after, (engine.transformNode (fuel + 1) foreign parent).run.run run =
        some (.ok (some made.forest.nextId), after) ∧
      Answered foreign message parent run made after := by
  have grows := nextId_le_of_fails fails
  obtain ⟨factory, looked, found, failed⟩ := fails
  have same : looked.forest = run.forest :=
    (congrArg (·.2.forest) (Option.some.inj found)).symm
  -- Numbers are not used again, also not those of what is given up.
  have next : (made.forest.discardSince looked.forest.nextId).nextId = made.forest.nextId :=
    Forest.nextId_discardSince
  have ran : (engine.transformNode (fuel + 1) foreign parent).run.run run =
      (substituteError engine.adopt looked.forest.nextId message foreign parent).run.run made := by
    rw [transformNode]
    unfold transformWith
    rw [run_lift_bind found]
    dsimp only
    rw [run_get_bind, ExceptT.run_bind_lift, StateT.run_bind, failed]
    dsimp only [Option.bind_eq_bind, Option.bind_some]
    rw [if_pos contained]
  have untouched (node : NodeId) (different : node ≠ made.forest.nextId) :
      (attachMetadata engine.source made.forest.nextId foreign parent
        ((made.forest.discardSince looked.forest.nextId).createError message).2).cell? node =
      (made.forest.discardSince looked.forest.nextId).cell? node := by
    rw [attachMetadata, Forest.cell?_modify, if_neg different, Forest.createError,
      Forest.cell?_add_of_ne _ _ (next ▸ different)]
  rw [ran, run_substituteError, next]
  refine ⟨_, rfl, ?_, rfl, fun old isOld => ?_, fun node different cell there => ?_⟩
  · have made := Forest.errorNode_createError
      (made.forest.discardSince looked.forest.nextId) message engine.source foreign parent
    rwa [next] at made
  · have older : old < looked.forest.nextId := by rwa [same]
    rw [untouched old (Nat.ne_of_lt (Nat.lt_of_lt_of_le isOld grows)),
      Forest.cell?_discardSince_of_lt older]
  · rw [untouched node different] at there
    exact (Forest.swept_sweepRounds _ _).cells node cell there

theorem run_transformEach_of_fails (contained : engine.config.containFailures = true)
    {earlier later : List ForeignValue} {parent : Option NodeId} {nodes : List NodeId}
    {after : Run}
    (ran : (transformEach (engine.transformNode (fuel + 1)) parent
      (earlier ++ .node foreign :: later)).run.run run = some (.ok nodes, after)) :
    engine.AnsweredAmong fuel foreign parent
      (transformEach (engine.transformNode (fuel + 1)) parent) earlier later run nodes after := by
  obtain ⟨first, others, before, early, late, rfl⟩ := run_transformEach_append ran
  refine ⟨first, before, early, fun message made fails => ?_⟩
  obtain ⟨node, rest, placed, here, following, rfl⟩ := run_transformEach_cons late
  obtain ⟨_, answered, isAnswer⟩ := run_transformNode_of_fails contained fails parent
  cases answered.symm.trans here
  exact ⟨placed, rest, isAnswer, following, rfl⟩

/-- A new node is above another one only if a link already led to its number. -/
theorem not_isAncestor_of_new {before forest : Forest} {container : NodeId}
    (known : before.LinksKnown) (link : forest.parentLink? before.nextId = some container)
    (apart : before.nextId ≠ container)
    (others : ∀ node ≠ before.nextId, ∀ cell, forest.cell? node = some cell →
      before.cell? node = some cell) (node : NodeId) :
    ¬ forest.IsAncestor before.nextId node := by
  intro above
  obtain ⟨child, isParent, _⟩ := Relation.TransGen.head'_iff.mp above
  obtain ⟨stored, _⟩ := Forest.parent?_eq_some_iff.mp isParent
  by_cases same : child = before.nextId
  · subst same
    exact apart (Option.some.inj (stored.symm.trans link))
  · obtain ⟨cell, found, linked⟩ := Option.bind_eq_some_iff.mp stored
    have before : before.parentLink? child = some before.nextId := by
      rw [Forest.parentLink?, others child same cell found]
      exact linked
    exact Nat.lt_irrefl _ (known child _ before)

section

variable {decls : List ConceptDecl} {container : NodeId} {concept : Concept} {feature : Feature}
  {target : String} (contained : engine.config.containFailures = true)
  (built : Schema.build decls = .ok engine.schema)
  (typed : run.forest.TypedIn engine.schema)
include contained built typed

/-- A feature that holds one node takes the error node in. -/
theorem run_assign_of_fails (fails : engine.Fails fuel foreign message run made)
    (older : container < run.forest.nextId) (known : made.forest.LinksKnown)
    (kind : made.forest.concept? container = some concept)
    (declared : concept.feature? feature.name = some feature)
    (single : feature.type = .child target) :
    ∃ after, (assign (engine.transformNode (fuel + 1)) container concept.name feature
        (.node foreign)).run.run run = some (.ok (), after) ∧
      after.forest.childrenOf container feature.name = [made.forest.nextId] ∧
      after.forest.ErrorNode made.forest.nextId message foreign (some container) ∧
      after.issues = made.issues ++ [failureIssue foreign message] := by
  obtain ⟨after, ran, errorNode, issues, old, others⟩ :=
    run_transformNode_of_fails contained fails (some container)
  have apart : made.forest.nextId ≠ container :=
    Nat.ne_of_gt (Nat.lt_of_lt_of_le older (nextId_le_of_fails fails))
  obtain ⟨cell, found, isConcept⟩ := Option.map_eq_some_iff.mp kind
  rw [← old container older] at found
  have alive : after.forest.isAlive container = true := by rw [Forest.isAlive, found]; rfl
  -- A placeholder is of every type, and nothing can stand below a node that new.
  have accepts : after.forest.Accepts container feature made.forest.nextId := by
    refine ⟨apart, fun above => ?_, .error, errorNode.concept, fun _ _ => Or.inl rfl⟩
    exact not_isAncestor_of_new known errorNode.parent apart others container
      (Forest.isAncestor_of_mem_ancestorsUpTo above)
  have set : after.forest.setChild container feature.name (some made.forest.nextId) =
      .ok (after.forest.attach container feature.name [made.forest.nextId] .replace) := by
    refine Forest.setChild_eq_ok_iff.mpr
      ⟨cell, feature, target, found, isConcept ▸ declared, single, fun child isChild => ?_, rfl⟩
    cases isChild
    exact accepts
  have conforming : after.forest.Conforming :=
    (holds_of_transformNode (Forest.stable_typedIn built) typed ran).conforming
  refine ⟨{ after with
      forest := after.forest.attach container feature.name [made.forest.nextId] .replace },
    ?_, Forest.childrenOf_setChild conforming set, errorNode.attach apart alive, issues⟩
  unfold assign
  rw [single]
  dsimp only
  rw [run_bind_of_ok ran, run_edit, Forest.apply, set]

theorem childrenOf_assign_of_fails {earlier later : List ForeignValue} {after : Run}
    (many : feature.type = .children target)
    (ran : (assign (engine.transformNode (fuel + 1)) container concept.name feature
      (.list (earlier ++ .node foreign :: later))).run.run run = some (.ok (), after)) :
    ∃ last, engine.AnsweredAmong fuel foreign (some container)
      (transformElements (engine.transformNode (fuel + 1)) container concept.name feature.name)
      earlier later run (after.forest.childrenOf container feature.name) last := by
  unfold assign at ran
  rw [many] at ran
  dsimp only at ran
  obtain ⟨children, last, elements, edited⟩ := run_bind_eq_ok ran
  obtain ⟨forest, set, rfl⟩ := run_edit_eq_ok edited
  have conforming : last.forest.Conforming :=
    (holds_of_transformElements (Forest.stable_typedIn built) typed elements).conforming
  have held := Forest.childrenOf_setChildren conforming set
  obtain ⟨first, others, before, early, late, rfl⟩ := run_transformElements_append elements
  refine ⟨last, first, before, early, fun message made fails => ?_⟩
  obtain ⟨child, rest, placed, here, following, rfl⟩ := run_transformElements_node_iff.mp late
  obtain ⟨_, answered, isAnswer⟩ := run_transformNode_of_fails contained fails (some container)
  cases answered.symm.trans here
  exact ⟨placed, rest, isAnswer, following, held⟩

end

/-- Wherever the node for the foreign node would have stood, the error node stands if the
factory for it fails: as the result, as an element of a list, or in a feature. -/
structure Substitutes (engine : Engine) (fuel : Nat) (foreign : ForeignNode) : Prop where
  result : ∀ parent message run made, engine.Fails fuel foreign message run made →
    ∃ after, (engine.transformNode (fuel + 1) foreign parent).run.run run =
        some (.ok (some made.forest.nextId), after) ∧
      Answered foreign message parent run made after
  element : ∀ earlier later parent run nodes after,
    (transformEach (engine.transformNode (fuel + 1)) parent
      (earlier ++ .node foreign :: later)).run.run run = some (.ok nodes, after) →
    engine.AnsweredAmong fuel foreign parent
      (transformEach (engine.transformNode (fuel + 1)) parent) earlier later run nodes after
  child : ∀ decls container concept feature target run message made,
    Schema.build decls = .ok engine.schema → run.forest.TypedIn engine.schema →
    engine.Fails fuel foreign message run made →
    container < run.forest.nextId → made.forest.LinksKnown →
    made.forest.concept? container = some concept →
    concept.feature? feature.name = some feature → feature.type = .child target →
    ∃ after, (assign (engine.transformNode (fuel + 1)) container concept.name feature
        (.node foreign)).run.run run = some (.ok (), after) ∧
      after.forest.childrenOf container feature.name = [made.forest.nextId] ∧
      after.forest.ErrorNode made.forest.nextId message foreign (some container) ∧
      after.issues = made.issues ++ [failureIssue foreign message]
  children : ∀ decls container (concept : Concept) feature target earlier later run after,
    Schema.build decls = .ok engine.schema → run.forest.TypedIn engine.schema →
    feature.type = .children target →
    (assign (engine.transformNode (fuel + 1)) container concept.name feature
      (.list (earlier ++ .node foreign :: later))).run.run run = some (.ok (), after) →
    ∃ last, engine.AnsweredAmong fuel foreign (some container)
      (transformElements (engine.transformNode (fuel + 1)) container concept.name feature.name)
      earlier later run (after.forest.childrenOf container feature.name) last

theorem substitutes_of_contained (contained : engine.config.containFailures = true) (fuel : Nat)
    (foreign : ForeignNode) : engine.Substitutes fuel foreign where
  result parent _ _ _ fails := run_transformNode_of_fails contained fails parent
  element _ _ _ _ _ _ ran := run_transformEach_of_fails contained ran
  child _ _ _ _ _ _ _ _ built typed fails older known kind declared single :=
    run_assign_of_fails contained built typed fails older known kind declared single
  children _ _ _ _ _ _ _ _ _ built typed many ran :=
    childrenOf_assign_of_fails contained built typed many ran

end Engine

namespace Transformer

variable {transformer : Transformer} {forest : Forest} {message : String}

theorem avoids_outcome {α : Type} {watched : Engine → EngineM α} {outcome : Outcome α}
    (avoids : Engine.Avoids message (watched transformer.engine).run)
    (ended : transformer.perform forest watched = some outcome) :
    outcome.result ≠ .error (.factory message) := by
  intro failed
  obtain ⟨run, ran, _⟩ := perform_eq_some ended
  rw [failed] at ran
  exact avoids _ run ran

/-- Calls in which no hook reports the failure do not end with it. -/
structure Withstands (transformer : Transformer) (message : String) : Prop where
  transform : ∀ forest fuel value parent outcome, transformer.perform forest
      (·.watch (Event.sparesHooks message) fuel value parent) = some outcome →
    transformer.transform fuel forest value parent = some outcome ∧
      outcome.result ≠ .error (.factory message)
  transformList : ∀ forest fuel value parent outcome, transformer.perform forest
      (·.watchList (Event.sparesHooks message) fuel value parent) = some outcome →
    transformer.transformList fuel forest value parent = some outcome ∧
      outcome.result ≠ .error (.factory message)
  transformNode : ∀ forest fuel foreign parent outcome, transformer.perform forest
      (·.watchNode (Event.sparesHooks message) fuel foreign parent) = some outcome →
    transformer.perform forest (·.transformNode fuel foreign parent) = some outcome ∧
      outcome.result ≠ .error (.factory message)

/-- Where failures are contained, a call fails with the failure of a factory only if a hook
reports it. A failure that a constructor reports is answered with an error node and an issue,
and the error node stands where the node for the foreign node would have. -/
theorem failures_contained (transformer : Transformer)
    (contained : transformer.engine.config.containFailures = true) :
    (∀ message, transformer.Withstands message) ∧
      ∀ fuel foreign, transformer.engine.Substitutes fuel foreign := by
  refine ⟨fun message => ⟨?_, ?_, ?_⟩, Engine.substitutes_of_contained contained⟩
  · intro forest fuel value parent outcome ended
    refine ⟨transform_of_watch ended, avoids_outcome ?_ ended⟩
    exact (Engine.congruent_avoids message).transformValue (fun _ => Engine.watchNode _ _ _)
      (Engine.avoids_watchNode contained fuel) value parent
  · intro forest fuel value parent outcome ended
    refine ⟨transformList_of_watchList ended, avoids_outcome ?_ ended⟩
    exact (Engine.congruent_avoids message).transformAll (fun _ => Engine.watchNode _ _ _)
      (Engine.avoids_watchNode contained fuel) value parent
  · intro forest fuel foreign parent outcome ended
    exact ⟨transformNode_of_watchNode ended,
      avoids_outcome (Engine.avoids_watchNode contained fuel foreign parent) ended⟩

/-- Boxes hold one node. Making an item fails, and so does finishing a lid. -/
def fragile (schema : Schema) : Transformer :=
  let box : Factory :=
    { Factory.ofConcept "Box" "Box" with rules := ExtractionRules.empty.add "item" (.path "item") }
  let item : Factory :=
    { Factory.ofConcept "Item" "Box" with construct := fun _ _ => .fail (.factory "boom") }
  let lid : Factory :=
    { Factory.ofConcept "Lid" "Box" with finish := some fun _ _ => .fail (.factory "boom") }
  let transformer := Transformer.new schema .lenient none
  { transformer with
    engine :=
      { transformer.engine with
        factories := .ofEntries [("Box", box), ("Item", item), ("Lid", lid)] } }

def brokenItem : ForeignNode := .record "Item" [] [] none none

/-- A box with an item is made, and box 0 takes the error node 1 in. -/
theorem failures_contained_item :
    ∃ schema, Schema.build boxDecls = .ok schema ∧
      (∃ outcome, (fragile schema).transform 2 ∅ boxedItem none = some outcome ∧
        outcome.result ≠ .error (.factory "boom")) ∧
      ∃ concept feature after,
        (Engine.assign ((fragile schema).engine.transformNode 1) 0 concept feature
          (.node brokenItem)).run.run ⟨Forest.run schema [.create "Box"], [], .empty⟩ =
            some (.ok (), after) ∧
        after.forest.ErrorNode (Forest.run schema [.create "Box"]).nextId "boom" brokenItem
          (some 0) := by
  have evaluated : ((Schema.build boxDecls).toOption.any fun schema =>
      ((fragile schema).perform ∅
        (·.watch (Event.sparesHooks "boom") 2 boxedItem none)).isSome &&
      ((Forest.run schema [.create "Box"]).concept? 0).any fun concept =>
        (concept.feature? "item").any fun feature =>
          decide (feature.name = "item" ∧ feature.type = .child "Node" ∧
            0 < (Forest.run schema [.create "Box"]).nextId)) = true := by
    decide +kernel
  cases built : Schema.build boxDecls with
  | error reason =>
      rw [built] at evaluated
      cases evaluated
  | ok schema =>
      rw [built, Except.toOption, Option.any_some, Bool.and_eq_true] at evaluated
      obtain ⟨watched, declared⟩ := evaluated
      obtain ⟨outcome, ended⟩ := Option.isSome_iff_exists.mp watched
      obtain ⟨concept, kind, declared⟩ := (Option.any_eq_true _ _).mp declared
      obtain ⟨feature, isFeature, checked⟩ := (Option.any_eq_true _ _).mp declared
      obtain ⟨named, single, older⟩ := of_decide_eq_true checked
      have contains := (fragile schema).failures_contained rfl
      have fails : (fragile schema).engine.Fails 0 brokenItem "boom"
          ⟨Forest.run schema [.create "Box"], [], .empty⟩
          ⟨Forest.run schema [.create "Box"], [], _⟩ := ⟨_, _, rfl, rfl⟩
      have known : (Forest.run schema [.create "Box"]).LinksKnown :=
        fun _ _ link => (Forest.wellLinked_run built _).known link
      obtain ⟨after, assigned, _, errorNode, _⟩ :=
        (contains.2 0 brokenItem).child boxDecls 0 concept feature "Node"
          ⟨Forest.run schema [.create "Box"], [], .empty⟩ "boom" _ built
          ((Forest.typedIn_empty schema).perform built (.create "Box")) fails older
          known kind (named ▸ isFeature) single
      exact ⟨schema, rfl,
        ⟨outcome, (contains.1 "boom").transform ∅ 2 boxedItem none outcome ended⟩,
        concept.name, feature, after, assigned, errorNode⟩

/-- Nothing answers the failure of the hook. -/
theorem transform_fails_with_hook :
    ∃ schema, Schema.build boxDecls = .ok schema ∧
      (fragile schema).engine.config.containFailures = true ∧
      ∃ outcome,
        (fragile schema).transform 1 ∅ (.node (.record "Lid" [] [] none none)) none =
          some outcome ∧
        outcome.result = .error (.factory "boom") ∧ outcome.transformer.issues = [] := by
  have evaluated : ((Schema.build boxDecls).toOption.any fun schema =>
      ((fragile schema).transform 1 ∅ (.node (.record "Lid" [] [] none none)) none).any
        fun outcome => decide (outcome.result = .error (.factory "boom")) &&
          decide (outcome.transformer.issues = [])) = true := by
    decide +kernel
  cases built : Schema.build boxDecls with
  | error reason =>
      rw [built] at evaluated
      cases evaluated
  | ok schema =>
      rw [built, Except.toOption, Option.any_some] at evaluated
      obtain ⟨outcome, ended, both⟩ := (Option.any_eq_true _ _).mp evaluated
      obtain ⟨failed, quiet⟩ := (Bool.and_eq_true _ _).mp both
      exact ⟨schema, rfl, rfl, outcome, ended, of_decide_eq_true failed, of_decide_eq_true quiet⟩

end Transformer

end TypedTree
