import TypedTree.Proofs.Forest.History
import TypedTree.Proofs.Transform.Simulation
import TypedTree.Transform.Transformer

namespace TypedTree

/-! # Nodes that the engine adopts

A constructor may return any node, and the engine sets the parent link of that node
without looking at where it stands. This keeps the forest linked exactly if nothing but
the parent contains the node and the node is not above the parent. A supervised engine
works like the engine it watches and has no outcome once this fails; where it has one,
the forest is linked again.
-/

namespace Forest

variable {forest : Forest} {node other parent container : NodeId} {feature : String}
  {link : Option NodeId} {source : Option Source} {foreign : ForeignNode}

/-- Whether the link from `node` to a new parent would agree with what contains what. -/
def adoptable (forest : Forest) (node : NodeId) : (parent : Option NodeId) → Bool
  | none => true
  | some parent =>
      !forest.isAlive node ||
        ((forest.parent? node).all fun container =>
          container == parent || !(forest.children container).contains node) &&
        node != parent && !(forest.ancestors parent).contains node

theorem Linked.adoptable_some_iff (linked : forest.Linked) :
    forest.adoptable node (some parent) = true ↔
      (forest.isAlive node = true →
        (∀ container feature, node ∈ forest.childrenOf container feature → container = parent) ∧
        node ≠ parent ∧ ¬ forest.IsAncestor node parent) := by
  -- The only place to look for the node is where its link leads.
  have elsewhere : ((forest.parent? node).all fun container =>
        container == parent || !(forest.children container).contains node) = true ↔
      ∀ container feature, node ∈ forest.childrenOf container feature → container = parent := by
    constructor
    · intro checked container feature member
      have inside : node ∈ forest.children container := mem_children_iff.mpr ⟨feature, member⟩
      rw [linked.parent?_of_mem member] at checked
      simpa [inside] using checked
    · intro only
      cases found : forest.parent? node with
      | none => rfl
      | some container =>
          by_cases inside : node ∈ forest.children container
          · obtain ⟨feature, member⟩ := mem_children_iff.mp inside
            simp [only container feature member]
          · simp [inside]
  have above : (!(forest.ancestors parent).contains node) = true ↔
      ¬ forest.IsAncestor node parent := by
    simp [linked.grounded.mem_ancestors_iff]
  unfold adoptable
  rw [Bool.or_eq_true, Bool.and_eq_true, Bool.and_eq_true, elsewhere, above, and_assoc]
  cases alive : forest.isAlive node <;> simp

@[simp]
theorem childrenOf_attachMetadata :
    (Engine.attachMetadata source node foreign link forest).childrenOf container feature =
      forest.childrenOf container feature :=
  childrenOf_modify_of_same _ _ _ _ fun _ => rfl

@[simp]
theorem isAlive_attachMetadata :
    (Engine.attachMetadata source node foreign link forest).isAlive other =
      forest.isAlive other :=
  isAlive_modify _ _ _ _

theorem cell?_attachMetadata_self {cell : Cell} (found : forest.cell? node = some cell)
    (source : Option Source) (foreign : ForeignNode) (link : Option NodeId) :
    (Engine.attachMetadata source node foreign link forest).cell? node =
      some { cell with
        origin := cell.origin <|> some (.foreign foreign)
        range := cell.range <|> foreign.range
        parent := link <|> cell.parent
        source := if link.isSome then cell.source else cell.source <|> source } := by
  rw [Engine.attachMetadata, cell?_modify, if_pos rfl, found, Option.map_some]

theorem parentLink?_attachMetadata :
    (Engine.attachMetadata source node foreign link forest).parentLink? other =
      if other = node ∧ forest.isAlive other = true then link <|> forest.parentLink? other
      else forest.parentLink? other := by
  by_cases same : other = node
  · subst same
    cases found : forest.cell? other <;>
      simp [parentLink?, Engine.attachMetadata, cell?_modify, isAlive, found]
  · rw [if_neg fun both => same both.1]
    exact parentLink?_modify_of_ne same _

theorem parent?_attachMetadata_of_ne (different : other ≠ node) :
    (Engine.attachMetadata source node foreign link forest).parent? other =
      forest.parent? other := by
  refine Option.ext fun above => ?_
  rw [parent?_eq_some_iff, parent?_eq_some_iff, parentLink?_attachMetadata,
    if_neg fun both => different both.1, isAlive_attachMetadata]

theorem parent?_attachMetadata_self (alive : forest.isAlive node = true)
    (present : forest.isAlive parent = true) :
    (Engine.attachMetadata source node foreign (some parent) forest).parent? node =
      some parent := by
  rw [parent?_eq_some_iff, parentLink?_attachMetadata, if_pos ⟨rfl, alive⟩]
  exact ⟨rfl, by rwa [isAlive_attachMetadata]⟩

theorem Linked.attachMetadata_none (linked : forest.Linked) :
    (Engine.attachMetadata source node foreign none forest).Linked :=
  linked.setMetadata (fun _ => rfl) fun _ => rfl

theorem Linked.attachMetadata (linked : forest.Linked)
    (only : ∀ container feature, node ∈ forest.childrenOf container feature → container = parent)
    (apart : node ≠ parent) (below : ¬ forest.IsAncestor node parent) :
    (Engine.attachMetadata source node foreign (some parent) forest).Linked where
  distinct container feature := by
    rw [childrenOf_attachMetadata]
    exact linked.distinct container feature
  single inFirst inSecond := by
    rw [childrenOf_attachMetadata] at inFirst inSecond
    exact linked.single inFirst inSecond
  linked {container feature child} member := by
    rw [childrenOf_attachMetadata] at member
    rw [parentLink?_attachMetadata]
    split
    · next here =>
        obtain ⟨rfl, _⟩ := here
        rw [only container feature member]
        rfl
    · exact linked.linked member
  grounded := by
    refine linked.grounded.redirect (· = node) parent ?_ ?_
    · intro above onChain same
      subst same
      exact onChain.elim apart below
    · intro child above found
      by_cases same : child = node
      · subst same
        obtain ⟨stored, present⟩ := parent?_eq_some_iff.mp found
        have alive : forest.isAlive child = true := by simpa using isAlive_of_parentLink? stored
        rw [parentLink?_attachMetadata, if_pos ⟨rfl, alive⟩] at stored
        cases stored
        exact Or.inl ⟨rfl, rfl⟩
      · rw [IsParent, parent?_attachMetadata_of_ne same] at found
        exact Or.inr found

theorem isAncestor_attachMetadata (grounded : forest.Grounded)
    (ancestor : forest.IsAncestor node other) :
    (Engine.attachMetadata source node foreign link forest).IsAncestor node other := by
  -- No link on the way up to `node` starts at `node`.
  have kept : ∀ {above below : NodeId}, forest.IsParent above below → below ≠ node →
      (Engine.attachMetadata source node foreign link forest).IsParent above below := by
    intro above below found different
    rw [IsParent, parent?_attachMetadata_of_ne different]
    exact found
  induction ancestor with
  | single found =>
      refine .single (kept found fun same => ?_)
      exact grounded.not_isAncestor_self node (.single (same ▸ found))
  | tail chain found ih =>
      refine .tail ih (kept found fun same => ?_)
      exact grounded.not_isAncestor_self node (.tail chain (same ▸ found))

/-- What the engine does to a node keeps the forest linked only if the node may be
adopted. -/
theorem Linked.attachMetadata_iff (linked : forest.Linked) :
    (Engine.attachMetadata source node foreign link forest).Linked ↔
      forest.adoptable node link = true := by
  cases link with
  | none => exact iff_of_true linked.attachMetadata_none rfl
  | some parent =>
      rw [linked.adoptable_some_iff]
      constructor
      · intro after alive
        refine ⟨fun container feature member => ?_, fun same => ?_, fun ancestor => ?_⟩
        · have stored := after.linked (by rwa [childrenOf_attachMetadata])
          rw [parentLink?_attachMetadata, if_pos ⟨rfl, alive⟩] at stored
          exact (Option.some.inj stored).symm
        · subst same
          exact after.grounded.not_isAncestor_self node
            (.single (parent?_attachMetadata_self alive alive))
        · have present : forest.isAlive parent = true := by
            obtain ⟨_, _, last⟩ := Relation.TransGen.tail'_iff.mp ancestor
            exact isAlive_of_parent?_eq_some last
          have up : (Engine.attachMetadata source node foreign (some parent) forest).IsAncestor
              node parent := isAncestor_attachMetadata linked.grounded ancestor
          exact after.grounded.not_isAncestor_self parent
            (.head (parent?_attachMetadata_self alive present) up)
      · intro allowed
        cases alive : forest.isAlive node with
        | true =>
            obtain ⟨only, apart, below⟩ := allowed alive
            exact linked.attachMetadata only apart below
        | false =>
            have gone : forest.cell? node = none := by simpa [isAlive] using alive
            rw [Engine.attachMetadata, Forest.modify, gone]
            exact linked

end Forest

namespace Engine

/-- Adopts as the engine does, and has no outcome if the node may not be adopted. -/
def adoptIfAllowed (engine : Engine) : Adopt := fun node foreign parent => do
  if (← get).forest.adoptable node parent then engine.adopt node foreign parent
  else failure

/-- As `transformNode`, but every adoption is checked. -/
def superviseNode (engine : Engine) : (fuel : Nat) → Recur
  | 0 => fun _ _ => outOfFuel
  | fuel + 1 => fun foreign parent =>
      engine.transformWith engine.adoptIfAllowed (engine.superviseNode fuel) foreign parent

def supervise (engine : Engine) (fuel : Nat) (value : ForeignValue) (parent : Option NodeId) :
    EngineM (Option NodeId) :=
  transformValue (engine.superviseNode fuel) value parent

def superviseList (engine : Engine) (fuel : Nat) (value : ForeignValue)
    (parent : Option NodeId) : EngineM (List NodeId) :=
  transformAll (engine.superviseNode fuel) value parent

/-- One run, whose forest is linked, seen twice. -/
def SameLinked (run other : Run) : Prop := other = run ∧ run.forest.Linked

theorem compatible_sameLinked (schema : Schema) : Compatible schema SameLinked where
  forest related := related.1 ▸ rfl
  issues related := related.1 ▸ rfl
  setIssues related _ := ⟨related.1 ▸ rfl, related.2⟩
  create related _ _ _ created := ⟨related.1 ▸ rfl, related.2.create created⟩
  createGeneric related := ⟨related.1 ▸ rfl, related.2.createGeneric⟩
  createError related message := ⟨related.1 ▸ rfl, related.2.createError message⟩
  apply related _ _ applied := ⟨related.1 ▸ rfl, related.2.apply applied⟩
  discardSince related _ := ⟨related.1 ▸ rfl, related.2.swept (Forest.swept_sweepRounds _ _)⟩

theorem simulates_adoptIfAllowed (engine : Engine) (node : NodeId) (foreign : ForeignNode)
    (parent : Option NodeId) :
    Simulates SameLinked (engine.adoptIfAllowed node foreign parent)
      (engine.adopt node foreign parent) := by
  intro run other answer after related ended
  obtain ⟨rfl, linked⟩ := related
  change (if other.forest.adoptable node parent = true then
      engine.adopt node foreign parent else failure : RunM Unit).run other =
    some (answer, after) at ended
  split at ended
  · next allowed =>
      cases ended
      exact ⟨_, rfl, rfl, linked.attachMetadata_iff.mpr allowed⟩
  · cases ended

theorem follows_supervised (engine : Engine) :
    Follows SameLinked engine engine engine.adoptIfAllowed engine.adopt where
  schema := rfl
  config := rfl
  compatible := compatible_sameLinked engine.schema
  factoryFor _ := simulates_modifyGet fun _ _ related =>
    ⟨related.1 ▸ rfl, related.1 ▸ rfl, related.2⟩
  planFor _ _ := simulates_modifyGet fun _ _ related =>
    ⟨related.1 ▸ rfl, related.1 ▸ rfl, related.2⟩
  adopts := engine.simulates_adoptIfAllowed

theorem simulatesRecur_superviseNode (engine : Engine) (fuel : Nat) :
    SimulatesRecur SameLinked (engine.superviseNode fuel) (engine.transformNode fuel) := by
  induction fuel with
  | zero =>
      intro foreign parent run other answer after related ended
      cases ended
  | succ fuel ih => exact engine.follows_supervised.transformWith ih

end Engine

namespace Transformer

variable {α : Type} {transformer : Transformer} {forest : Forest}
  {supervised action : Engine → EngineM α} {outcome : Outcome α}

theorem perform_of_ran {result : Except TransformError α} {run : Run}
    (ran : (action transformer.engine).run.run ⟨forest, transformer.issues, transformer.memo⟩ =
      some (result, run)) :
    transformer.perform forest action =
      some ⟨result, run.forest, { transformer with issues := run.issues, memo := run.memo }⟩ := by
  rw [perform, ran]
  rfl

theorem perform_eq_some (ended : transformer.perform forest action = some outcome) :
    ∃ run, (action transformer.engine).run.run ⟨forest, transformer.issues, transformer.memo⟩ =
        some (outcome.result, run) ∧
      outcome = ⟨outcome.result, run.forest,
        { transformer with issues := run.issues, memo := run.memo }⟩ := by
  obtain ⟨⟨result, run⟩, ran, same⟩ := Option.bind_eq_some_iff.mp ended
  cases same
  exact ⟨run, ran, rfl⟩

theorem register_eq_ok {before after : Transformer} {factory : Factory}
    (registered : before.register factory = .ok after) :
    after = { before with
      engine := { before.engine with
        factories := before.engine.factories.insert factory.sourceType factory }
      memo := .empty } := by
  unfold register at registered
  dsimp only at registered
  split at registered
  · cases registered
  · split at registered
    · cases registered
    · exact (Except.ok.inj registered).symm

theorem perform_of_simulates (linked : forest.Linked)
    (simulated : Engine.Simulates Engine.SameLinked (supervised transformer.engine).run
      (action transformer.engine).run)
    (ended : transformer.perform forest supervised = some outcome) :
    transformer.perform forest action = some outcome ∧ outcome.forest.Linked := by
  obtain ⟨run, ran, same⟩ := perform_eq_some ended
  obtain ⟨_, otherRan, rfl, after⟩ := simulated _ _ _ _ ⟨rfl, linked⟩ ran
  rw [same]
  exact ⟨perform_of_ran otherRan, after⟩

/-- If every node that a call adopts may be adopted when its turn comes, then the call
leaves a linked forest, whether it succeeds or fails. No adoption may be excepted: one
that is not allowed leaves a forest that is not linked. -/
theorem linked_of_supervised (transformer : Transformer) (linked : forest.Linked)
    (fuel : Nat) (parent : Option NodeId) :
    (∀ value outcome,
      transformer.perform forest (·.supervise fuel value parent) = some outcome →
        transformer.transform fuel forest value parent = some outcome ∧
          outcome.forest.Linked) ∧
    (∀ value outcome,
      transformer.perform forest (·.superviseList fuel value parent) = some outcome →
        transformer.transformList fuel forest value parent = some outcome ∧
          outcome.forest.Linked) ∧
    (∀ foreign outcome,
      transformer.perform forest (·.superviseNode fuel foreign parent) = some outcome →
        transformer.perform forest (·.transformNode fuel foreign parent) = some outcome ∧
          outcome.forest.Linked) ∧
    ∀ source node foreign,
      (Engine.attachMetadata source node foreign parent forest).Linked ↔
        forest.adoptable node parent = true := by
  have recursive := transformer.engine.simulatesRecur_superviseNode fuel
  refine ⟨fun value outcome ended => ?_, fun value outcome ended => ?_,
    fun foreign outcome ended => ?_, fun source node foreign => linked.attachMetadata_iff⟩
  · exact perform_of_simulates linked (recursive.transformValue value parent) ended
  · exact perform_of_simulates linked (recursive.transformAll value parent) ended
  · exact perform_of_simulates linked (recursive foreign parent) ended

/-- Boxes hold one node. Foreign boxes become boxes, and every foreign item stands for
the node 1, which is there already. -/
def reusing (schema : Schema) : Transformer :=
  let transformer := Transformer.new schema .strict none
  let box : Factory :=
    { Factory.ofConcept "Box" "Box" with rules := ExtractionRules.empty.add "item" (.path "item") }
  let item : Factory :=
    { Factory.ofConcept "Item" "Box" with construct := fun _ _ => .done (some 1) }
  { transformer with
    engine := { transformer.engine with factories := .ofEntries [("Box", box), ("Item", item)] } }

def boxDecls : List ConceptDecl := [(ConceptDecl.named "Box").addFeature "item" (.child "Node")]

def boxedItem : ForeignValue :=
  .node (.record "Box" [] [("item", .node (.record "Item" [] [] none none))] none none)

/-- The old node is in no other box: it moves into the new one. -/
theorem linked_of_supervised_loose :
    ∃ schema, Schema.build boxDecls = .ok schema ∧
      ∃ outcome,
        (reusing schema).transform 2 (Forest.run schema [.create "Box", .create "Box"])
          boxedItem none = some outcome ∧
        outcome.forest.Linked := by
  have evaluated : ((Schema.build boxDecls).toOption.any fun schema =>
      ((reusing schema).perform (Forest.run schema [.create "Box", .create "Box"])
        (·.supervise 2 boxedItem none)).isSome) = true := by
    decide +kernel
  cases built : Schema.build boxDecls with
  | error reason =>
      rw [built] at evaluated
      cases evaluated
  | ok schema =>
      rw [built] at evaluated
      obtain ⟨outcome, ended⟩ := Option.isSome_iff_exists.mp evaluated
      have linked := (Forest.wellLinked_run built [.create "Box", .create "Box"]).toLinked
      exact ⟨schema, rfl, outcome,
        ((reusing schema).linked_of_supervised linked 2 none).1 boxedItem outcome ended⟩

/-- The old node is in box 0 and stays there while box 2 takes it in as well. -/
theorem transform_contains_twice :
    ∃ schema, Schema.build boxDecls = .ok schema ∧
      ∃ forest : Forest, forest.Linked ∧
        ∃ outcome, (reusing schema).transform 2 forest boxedItem none = some outcome ∧
          1 ∈ outcome.forest.childrenOf 0 "item" ∧ 1 ∈ outcome.forest.childrenOf 2 "item" ∧
          ¬ outcome.forest.Linked := by
  have evaluated : ((Schema.build boxDecls).toOption.any fun schema =>
      ((reusing schema).transform 2
        (Forest.run schema [.create "Box", .create "Box", .edit (.setChild 0 "item" (some 1))])
        boxedItem none).any fun outcome =>
          decide (1 ∈ outcome.forest.childrenOf 0 "item" ∧
            1 ∈ outcome.forest.childrenOf 2 "item")) = true := by
    decide +kernel
  cases built : Schema.build boxDecls with
  | error reason =>
      rw [built] at evaluated
      cases evaluated
  | ok schema =>
      rw [built, Except.toOption, Option.any_some] at evaluated
      obtain ⟨outcome, ended, both⟩ := (Option.any_eq_true _ _).mp evaluated
      obtain ⟨inOld, inNew⟩ := of_decide_eq_true both
      refine ⟨schema, rfl, _, (Forest.wellLinked_run built _).toLinked, outcome, ended, inOld,
        inNew, fun linked => ?_⟩
      have sameLink := (linked.linked inOld).symm.trans (linked.linked inNew)
      cases sameLink

end Transformer

end TypedTree
