import TypedTree.Proofs.Forest.Paths

namespace TypedTree

namespace Slot

/-- The slot without some of the nodes it contains; the others keep their order. -/
def lacking (slot : Slot) (nodes : List NodeId) : Slot :=
  match slot with
  | .child held => .child (held.filter (· ∉ nodes))
  | .children held => .children (held.filter (· ∉ nodes))
  | .attribute _ | .reference _ => slot

/-- The slot as it is when it contains nothing. -/
def emptied : Slot → Slot
  | .child _ => .child none
  | .children _ => .children []
  | .attribute value => .attribute value
  | .reference link => .reference link

theorem contained_lacking (slot : Slot) (nodes : List NodeId) :
    (slot.lacking nodes).contained = slot.contained.filter (· ∉ nodes) := by
  match slot with
  | .child none => rfl
  | .child (some held) =>
      by_cases member : held ∈ nodes <;> simp [lacking, contained, Option.filter, member]
  | .children _ | .attribute _ | .reference _ => rfl

@[simp]
theorem lacking_nil (slot : Slot) : slot.lacking [] = slot := by
  match slot with
  | .child none | .child (some _) => rfl
  | .children _ => simp [lacking]
  | .attribute _ | .reference _ => rfl

theorem lacking_without (slot : Slot) (node : NodeId) (nodes : List NodeId) :
    (slot.without node).lacking nodes = slot.lacking (node :: nodes) := by
  match slot with
  | .child none => rfl
  | .child (some held) =>
      by_cases same : held = node <;> simp [lacking, without, Option.filter, same]
  | .children held =>
      simp only [lacking, without, List.filter_filter, Slot.children.injEq]
      refine List.filter_congr fun inner _ => ?_
      by_cases same : inner = node <;> simp [same]
  | .attribute _ | .reference _ => rfl

@[simp]
theorem emptied_without (slot : Slot) (node : NodeId) :
    (slot.without node).emptied = slot.emptied := by
  cases slot <;> rfl

@[simp]
theorem emptied_place (slot : Slot) (incoming : List NodeId) (placement : Placement) :
    (slot.place incoming placement).emptied = slot.emptied := by
  cases slot <;> cases placement <;> rfl

end Slot

theorem Registry.mapValues_mapValues {κ α β γ : Type} (registry : Registry κ α) (first : α → β)
    (second : β → γ) :
    (registry.mapValues first).mapValues second = registry.mapValues (second ∘ first) := by
  ext1
  simp [mapValues]

namespace Cell

/-- What a cell holds apart from other nodes: its concept, attributes and references,
origin, range and source. -/
def alone (cell : Cell) : Cell :=
  { cell with content := cell.content.mapValues (·.emptied), parent := none }

theorem alone_without (cell : Cell) (node : NodeId) : (cell.without node).alone = cell.alone := by
  simp [alone, without, Registry.mapValues_mapValues, Function.comp_def]

theorem alone_place (cell : Cell) (feature : String) (incoming : List NodeId)
    (placement : Placement) :
    (cell.changeSlot feature (·.place incoming placement)).alone = cell.alone := by
  simp only [alone, changeSlot, Cell.mk.injEq, true_and, and_true]
  ext1
  simp [Registry.mapValues, Registry.modify, apply_ite Slot.emptied]

end Cell

namespace Forest

variable {forest after later : Forest} {node other container child top : NodeId}
  {feature name : String} {incoming nodes : List NodeId} {placement : Placement}

theorem alone_modify {change : Cell → Cell} (same : ∀ cell, (change cell).alone = cell.alone) :
    ((forest.modify node change).cell? other).map Cell.alone =
      (forest.cell? other).map Cell.alone := by
  rw [cell?_modify]
  split
  · simp only [Option.map_map, Function.comp_def, same]
  · rfl

theorem alone_setParent (link : Option NodeId) :
    ((forest.setParent node link).cell? other).map Cell.alone =
      (forest.cell? other).map Cell.alone :=
  alone_modify fun _ => rfl

theorem alone_setParents (link : Option NodeId) :
    ((forest.setParents nodes link).cell? other).map Cell.alone =
      (forest.cell? other).map Cell.alone := by
  induction nodes generalizing forest with
  | nil => rfl
  | cons first rest ih => exact ih.trans (alone_setParent link)

theorem alone_detach :
    ((forest.detach node).cell? other).map Cell.alone = (forest.cell? other).map Cell.alone := by
  unfold detach
  split
  · rfl
  · exact (alone_setParent none).trans (alone_modify (·.alone_without node))

theorem alone_detachAll :
    ((forest.detachAll incoming).cell? other).map Cell.alone =
      (forest.cell? other).map Cell.alone := by
  induction incoming generalizing forest with
  | nil => rfl
  | cons first rest ih => exact ih.trans alone_detach

theorem alone_attach :
    ((forest.attach node feature incoming placement).cell? other).map Cell.alone =
      (forest.cell? other).map Cell.alone :=
  (alone_setParents _).trans ((alone_setParents _).trans
    ((alone_modify (·.alone_place feature incoming placement)).trans alone_detachAll))

def content? (forest : Forest) (node : NodeId) : Option (Registry String Slot) :=
  (forest.cell? node).map (·.content)

theorem content?_modify {change : Cell → Cell} :
    (forest.modify node change).content? other =
      if other = node then (forest.cell? other).map fun cell => (change cell).content
      else forest.content? other := by
  rw [content?, cell?_modify]
  split
  · simp only [Option.map_map, Function.comp_def]
  · rfl

theorem content?_setParent (link : Option NodeId) :
    (forest.setParent node link).content? other = forest.content? other := by
  rw [setParent, content?_modify]
  split <;> rfl

theorem content?_setParents (link : Option NodeId) :
    (forest.setParents nodes link).content? other = forest.content? other := by
  induction nodes generalizing forest with
  | nil => rfl
  | cons first rest ih => exact ih.trans (content?_setParent link)

theorem Linked.content?_detach (linked : forest.Linked) :
    (forest.detach node).content? other =
      (forest.content? other).map (·.mapValues (·.without node)) := by
  -- taking a node out of a cell that does not contain it changes nothing
  have unchanged (elsewhere : forest.parent? node ≠ some other) :
      forest.content? other = (forest.content? other).map (·.mapValues (·.without node)) := by
    cases found : forest.cell? other with
    | none => simp [content?, found]
    | some cell =>
        have absent (name : String) : node ∉ cell.childrenOf name := by
          simpa [childrenOf, found] using linked.not_mem_of_parent?_ne elsewhere
        have same := congrArg Cell.content (Cell.without_eq_self absent)
        simpa [content?, found, Cell.without, eq_comm] using same
  unfold Forest.detach
  cases up : forest.parent? node with
  | none => exact unchanged (by simp [up])
  | some parent =>
      simp only [content?_setParent, content?_modify]
      split
      · simp [content?, Cell.without, Function.comp_def]
      · next differs => exact unchanged (by simpa [up, eq_comm] using differs)

theorem Linked.content?_detachAll (linked : forest.Linked) :
    (forest.detachAll incoming).content? other =
      (forest.content? other).map (·.mapValues (·.lacking incoming)) := by
  induction incoming generalizing forest with
  | nil => simp [Forest.detachAll, Registry.mapValues]
  | cons first rest ih =>
      have step : (forest.detachAll (first :: rest)).content? other =
          ((forest.detach first).detachAll rest).content? other := rfl
      rw [step, ih linked.detach, linked.content?_detach]
      simp [Registry.mapValues_mapValues, Function.comp_def, Slot.lacking_without]

theorem content?_attach :
    (forest.attach node feature incoming placement).content? other =
      ((forest.detachAll incoming).content? other).map fun content =>
        if other = node then content.modify feature (·.place incoming placement) else content := by
  refine (content?_setParents _).trans ((content?_setParents _).trans ?_)
  rw [content?_modify]
  by_cases here : other = node
  · simp only [here, if_true, content?, Option.map_map]
    rfl
  · simp [here, detachAll]

theorem slot?_eq_content? :
    forest.slot? node feature = (forest.content? node).bind (·.get? feature) := by
  rw [slot?, content?]
  cases forest.cell? node <;> rfl

theorem slot?_attach :
    (forest.attach node feature incoming placement).slot? container name =
      ((forest.detachAll incoming).slot? container name).map fun slot =>
        if container = node ∧ name = feature then slot.place incoming placement else slot := by
  rw [slot?_eq_content?, slot?_eq_content?, content?_attach]
  cases (forest.detachAll incoming).content? container with
  | none => rfl
  | some content =>
      by_cases here : container = node <;> by_cases same : name = feature <;>
        simp [here, same, Registry.get?_modify]

theorem Linked.slot?_detachAll (linked : forest.Linked) :
    (forest.detachAll incoming).slot? container name =
      (forest.slot? container name).map (·.lacking incoming) := by
  rw [slot?_eq_content?, slot?_eq_content?, linked.content?_detachAll]
  cases forest.content? container with
  | none => rfl
  | some content => exact content.get?_mapValues name _

theorem Linked.slot?_attach_self (linked : forest.Linked) :
    (forest.attach node feature incoming placement).slot? node feature =
      (forest.slot? node feature).map fun slot =>
        (slot.lacking incoming).place incoming placement := by
  simp [slot?_attach, linked.slot?_detachAll, Function.comp_def]

theorem Linked.slot?_attach_of_ne (linked : forest.Linked)
    (elsewhere : ¬ (container = node ∧ name = feature)) :
    (forest.attach node feature incoming placement).slot? container name =
      (forest.slot? container name).map (·.lacking incoming) := by
  simp [slot?_attach, elsewhere, linked.slot?_detachAll, Function.comp_def]

theorem children_eq_content? :
    forest.children node =
      ((forest.content? node).map (·.entries.flatMap (·.2.contained))).getD [] := by
  rw [children, content?]
  cases forest.cell? node <;> rfl

theorem Linked.children_attach_of_ne (linked : forest.Linked) (differs : other ≠ node) :
    (forest.attach node feature incoming placement).children other =
      (forest.children other).filter (· ∉ incoming) := by
  rw [children_eq_content?, children_eq_content?, content?_attach, linked.content?_detachAll]
  cases forest.content? other with
  | none => rfl
  | some content =>
      simp [differs, Registry.mapValues, List.flatMap_map, List.filter_flatMap,
        Slot.contained_lacking]

theorem flatMap_filter_eq {α β : Type} {items : List α} {keep : α → Bool}
    {first second : α → List β}
    (kept : ∀ item ∈ items, keep item = true → first item = second item)
    (dropped : ∀ item ∈ items, keep item = false → second item = []) :
    (items.filter keep).flatMap first = items.flatMap second := by
  induction items with
  | nil => rfl
  | cons item rest ih =>
      simp only [List.forall_mem_cons] at kept dropped
      cases choice : keep item with
      | true => simp [choice, kept.1 choice, ih kept.2 dropped.2]
      | false => simp [choice, dropped.1 choice, ih kept.2 dropped.2]

/-- A tree that neither takes nodes in nor lies below a moved one keeps its nodes in their
order, less the moved ones and what lies below these. -/
theorem TreeShaped.walkTo_attach (shaped : forest.TreeShaped) (linked : forest.Linked)
    (movable : ∀ child ∈ incoming, forest.Movable node child) (depth : Nat)
    (alive : forest.isAlive top = true) (apart : node ∉ forest.walk top)
    (outside : ∀ moved ∈ incoming, top ∉ forest.walk moved) :
    (forest.attach node feature incoming placement).walkTo depth top =
      (forest.walkTo depth top).filter fun inner =>
        ∀ moved ∈ incoming, inner ∉ forest.walk moved := by
  induction depth generalizing top with
  | zero => rfl
  | succ depth ih =>
      have differs : top ≠ node := by
        rintro rfl
        exact apart ((shaped.mem_walk_iff alive).mpr ⟨[], .here top⟩)
      simp only [walkTo, linked.children_attach_of_ne differs]
      rw [List.filter_cons_of_pos (by simpa using outside), List.filter_flatMap]
      have up (child : NodeId) (member : child ∈ forest.children top) :
          forest.parent? child = some top := by
        obtain ⟨name, held⟩ := mem_children_iff.mp member
        exact linked.parent?_of_mem held
      -- a child that stays is walked as before; of one that is moved nothing is left
      refine congrArg (top :: ·) (flatMap_filter_eq (fun child member stays => ?_)
        fun child member comes => ?_)
      · have below := up child member
        have childAlive := isAlive_of_parent?_eq_some below
        refine ih childAlive (fun inside => ?_) fun moved comes inside => ?_
        · rw [shaped.mem_walk_iff_isAncestor childAlive] at inside
          refine apart ((shaped.mem_walk_iff_isAncestor alive).mpr (Or.inr ?_))
          rcases inside with rfl | further
          · exact .single below
          · exact .head below further
        · have movedAlive := (movable moved comes).1
          refine outside moved comes ((shaped.mem_walk_iff_isAncestor movedAlive).mpr ?_)
          rcases (shaped.mem_walk_iff_isAncestor movedAlive).mp inside with rfl | above
          · simp [comes] at stays
          · exact ((isAncestor_iff_of_parent? below).mp above).imp_left Eq.symm
      · have member : child ∈ incoming := by simpa using comes
        refine List.filter_eq_nil_iff.mpr fun inner inside kept => ?_
        have within := (shaped.mem_walk_iff (movable child member).1).mpr
          (exists_leads_of_mem_walkTo inside)
        exact of_decide_eq_true kept child member within

/-- Where a sweep leaves the top of a tree, it leaves all of the tree. -/
theorem Swept.walk_eq (swept : forest.Swept after) (linked : forest.Linked)
    (alive : after.isAlive top = true) : after.walk top = forest.walk top := by
  rw [walk, walk, swept.nextId]
  generalize forest.nextId = depth
  induction depth generalizing top with
  | zero => rfl
  | succ depth ih =>
      obtain ⟨cell, there⟩ := Option.isSome_iff_exists.mp alive
      have same : after.children top = forest.children top := by
        simp [children, there, swept.cells top cell there]
      simp only [walkTo, same]
      refine congrArg (top :: ·) (List.flatMap_congr fun child member => ih ?_)
      obtain ⟨name, held⟩ := mem_children_iff.mp (same ▸ member)
      rw [isAlive, swept.contents top name child held]
      obtain ⟨name, held⟩ := mem_children_iff.mp member
      exact isAlive_of_parentLink? (linked.linked held)

/-- The nodes whose places `incoming` ones take. -/
def replaced (forest : Forest) (node : NodeId) (feature : String) : Placement → List NodeId
  | .append => []
  | .replace => forest.childrenOf node feature

theorem Linked.mem_displacedBy_iff (linked : forest.Linked) :
    child ∈ forest.displacedBy node feature incoming placement ↔
      child ∈ forest.replaced node feature placement ∧ child ∉ incoming := by
  cases placement with
  | append =>
      cases found : (forest.detachAll incoming).slot? node feature <;>
        simp [displacedBy, replaced, Slot.displaced, found]
  | replace =>
      have freed : (((forest.detachAll incoming).slot? node feature).map
          (·.displaced .replace)).getD [] =
          (forest.childrenOf node feature).filter (· ∉ incoming) := by
        rw [← linked.childrenOf_detachAll, childrenOf_eq_slot?]
        rfl
      rw [displacedBy, freed]
      simp [replaced]

/-- What moving `incoming` into a feature of `node` does to the nodes that are there
afterwards; `replaced` are the nodes that stood in the feature if it is filled anew. -/
structure Moved (before after : Forest) (node : NodeId) (feature : String)
    (incoming replaced : List NodeId) : Prop where
  /-- Every other slot has lost the moved nodes and nothing else. -/
  elsewhere : ∀ container name, after.isAlive container = true →
    ¬ (container = node ∧ name = feature) →
    after.slot? container name = (before.slot? container name).map (·.lacking incoming)
  arrived : after.isAlive node = true → ∀ child ∈ incoming, after.parent? child = some node
  /-- What was driven out is a root and keeps its tree, less the moved nodes and what lies
  below these. -/
  released : ∀ child ∈ replaced, child ∉ incoming → after.isAlive child = true →
    after.isRoot child = true ∧
      after.walk child = (before.walk child).filter fun inner =>
        ∀ moved ∈ incoming, inner ∉ before.walk moved
  links : ∀ other, after.isAlive other = true → other ∉ incoming → other ∉ replaced →
    after.parentLink? other = before.parentLink? other
  alone : ∀ other, after.isAlive other = true →
    (after.cell? other).map Cell.alone = (before.cell? other).map Cell.alone

theorem Swept.cell?_of_isAlive (swept : forest.Swept after) (alive : after.isAlive node = true) :
    after.cell? node = forest.cell? node := by
  obtain ⟨cell, there⟩ := Option.isSome_iff_exists.mp alive
  rw [there, swept.cells node cell there]

theorem Swept.isAlive_of_isAlive (swept : forest.Swept after)
    (alive : after.isAlive node = true) : forest.isAlive node = true := by
  rw [isAlive, ← swept.cell?_of_isAlive alive]
  exact alive

theorem isRoot_eq :
    forest.isRoot node = (forest.isAlive node && (forest.parentLink? node).isNone) := by
  cases found : forest.cell? node <;> simp [isRoot, isAlive, parentLink?, found]

section

variable (wellLinked : forest.WellLinked)
  (movable : ∀ child ∈ incoming, forest.Movable node child)
include wellLinked movable

theorem WellLinked.walk_attach_of_replaced
    (stood : child ∈ forest.childrenOf node feature) (stays : child ∉ incoming) :
    (forest.attach node feature incoming placement).walk child =
      (forest.walk child).filter fun inner => ∀ moved ∈ incoming, inner ∉ forest.walk moved := by
  have shaped := wellLinked.treeShaped
  have up := wellLinked.toLinked.parent?_of_mem stood
  have alive := isAlive_of_parent?_eq_some up
  rw [walk, nextId_attach]
  refine shaped.walkTo_attach wellLinked.toLinked movable _ alive
    (shaped.not_mem_walk_of_parent? up) fun moved comes inside => ?_
  obtain ⟨movedAlive, notSelf, notAbove⟩ := movable moved comes
  rcases (shaped.mem_walk_iff_isAncestor movedAlive).mp inside with rfl | above
  · exact stays comes
  · rcases (isAncestor_iff_of_parent? up).mp above with rfl | higher
    · exact notSelf rfl
    · exact notAbove higher

theorem WellLinked.moved (distinct : incoming.Nodup)
    (taken : ∀ child ∈ incoming,
      child ∈ (forest.attach node feature incoming placement).childrenOf node feature)
    (swept : (forest.attach node feature incoming placement).Swept later) :
    forest.Moved later node feature incoming (forest.replaced node feature placement) where
  elsewhere container name alive differs := by
    rw [slot?, swept.cell?_of_isAlive alive]
    exact wellLinked.toLinked.slot?_attach_of_ne differs
  arrived alive child comes := by
    have held : child ∈ later.childrenOf node feature := by
      rw [childrenOf, swept.cell?_of_isAlive alive]
      exact taken child comes
    refine parent?_eq_some_iff.mpr ⟨?_, alive⟩
    rw [parentLink?, swept.contents node feature child held]
    exact parentLink?_attach_of_mem comes (movable child comes).1
  released child stood stays alive := by
    have after : (forest.attach node feature incoming placement).Linked :=
      wellLinked.toLinked.attach distinct movable
    have driven := (wellLinked.toLinked.mem_displacedBy_iff).mpr ⟨stood, stays⟩
    have present : forest.isAlive child = true := by
      simpa using swept.isAlive_of_isAlive alive
    constructor
    · rw [isRoot_eq, alive, Bool.true_and, Option.isNone_iff_eq_none, parentLink?,
        swept.cell?_of_isAlive alive]
      refine parentLink?_attach.trans ?_
      rw [if_neg fun both => stays both.1, if_pos ⟨driven, present⟩]
    · rw [swept.walk_eq after alive]
      cases placement with
      | append => cases stood
      | replace => exact wellLinked.walk_attach_of_replaced movable stood stays
  links other alive stays kept := by
    have undisturbed : other ∉ forest.displacedBy node feature incoming placement :=
      fun driven => kept (wellLinked.toLinked.mem_displacedBy_iff.mp driven).1
    rw [parentLink?, swept.cell?_of_isAlive alive]
    exact parentLink?_attach_of_not_mem stays undisturbed
  alone other alive := by
    rw [swept.cell?_of_isAlive alive]
    exact alone_attach

end

section

variable (wellLinked : forest.WellLinked)
include wellLinked

theorem WellLinked.moved_addChild (added : forest.addChild node feature child = .ok after)
    (swept : after.Swept later) :
    (later.isAlive node = true → later.childrenOf node feature =
      (forest.childrenOf node feature).filter (· ≠ child) ++ [child]) ∧
    forest.Moved later node feature [child] [] := by
  obtain ⟨cell, declared, target, found, known, kind, accepted, rfl⟩ :=
    addChild_eq_ok_iff.mp added
  have linked := wellLinked.toLinked
  have movable : ∀ inner ∈ [child], forest.Movable node inner := by
    simpa using accepted.movable linked
  constructor
  · intro alive
    obtain ⟨slot, held, fits⟩ := (wellLinked.conforming node cell found).slot? known
    rw [kind] at fits
    have stored : forest.slot? node feature = some slot := by
      rw [slot?, found]
      exact held
    rw [childrenOf, swept.cell?_of_isAlive alive]
    refine childrenOf_eq_slot?.trans ?_
    rw [linked.slot?_attach_self, childrenOf_eq_slot?, stored]
    cases slot <;> simp_all [Slot.fits, Slot.lacking, Slot.place, Slot.contained]
  · refine wellLinked.moved movable (by simp) (fun inner member => ?_) swept
    refine wellLinked.taken found known fun slot fits => ?_
    exact Slot.mem_place_of_children (kind ▸ fits) member

theorem WellLinked.moved_setChildren (set : forest.setChildren node feature incoming = .ok after)
    (swept : after.Swept later) :
    (later.isAlive node = true → later.childrenOf node feature = incoming) ∧
    forest.Moved later node feature incoming (forest.childrenOf node feature) := by
  have filled := childrenOf_setChildren wellLinked.conforming set
  obtain ⟨cell, declared, target, found, known, kind, distinct, accepted, rfl⟩ :=
    setChildren_eq_ok_iff.mp set
  constructor
  · intro alive
    rw [childrenOf, swept.cell?_of_isAlive alive]
    exact filled
  · have movable (inner : NodeId) (member : inner ∈ incoming) : forest.Movable node inner :=
      (accepted inner member).movable wellLinked.toLinked
    exact wellLinked.moved movable distinct (fun inner member => filled.symm ▸ member) swept

theorem WellLinked.moved_setChild {held : Option NodeId}
    (set : forest.setChild node feature held = .ok after) (swept : after.Swept later) :
    (later.isAlive node = true → later.childrenOf node feature = held.toList) ∧
    forest.Moved later node feature held.toList (forest.childrenOf node feature) := by
  have filled := childrenOf_setChild wellLinked.conforming set
  obtain ⟨cell, declared, target, found, known, kind, accepted, rfl⟩ := setChild_eq_ok_iff.mp set
  constructor
  · intro alive
    rw [childrenOf, swept.cell?_of_isAlive alive]
    exact filled
  · have movable (inner : NodeId) (member : inner ∈ held.toList) : forest.Movable node inner :=
      (accepted inner (Option.mem_toList.mp member)).movable wellLinked.toLinked
    refine wellLinked.moved movable (by cases held <;> simp) (fun inner member => ?_) swept
    exact filled.symm ▸ member

end

variable {decls : List ConceptDecl} {schema : Schema}

/-- The effect of every successful move in every forest, whatever nodes are then let go. -/
theorem moved_run (built : Schema.build decls = .ok schema) (operations : List Operation) :
    let forest := run schema operations
    (∀ node feature child after later, forest.addChild node feature child = .ok after →
      after.Swept later →
      (later.isAlive node = true → later.childrenOf node feature =
        (forest.childrenOf node feature).filter (· ≠ child) ++ [child]) ∧
      forest.Moved later node feature [child] []) ∧
    (∀ node feature children after later, forest.setChildren node feature children = .ok after →
      after.Swept later →
      (later.isAlive node = true → later.childrenOf node feature = children) ∧
      forest.Moved later node feature children (forest.childrenOf node feature)) ∧
    (∀ node feature child after later, forest.setChild node feature child = .ok after →
      after.Swept later →
      (later.isAlive node = true → later.childrenOf node feature = child.toList) ∧
      forest.Moved later node feature child.toList (forest.childrenOf node feature)) := by
  intro forest
  have wellLinked : forest.WellLinked := wellLinked_run built operations
  exact ⟨fun _ _ _ _ _ => wellLinked.moved_addChild, fun _ _ _ _ _ => wellLinked.moved_setChildren,
    fun _ _ _ _ _ => wellLinked.moved_setChild⟩

/-- A list of three, the first of which contains a node that contains another one. -/
def nestedMoves : List Operation :=
  [.create "Box", .create "Box", .create "Box", .create "Box", .create "Box", .create "Box",
    .edit (.setChildren 0 "items" [1, 2, 3]), .edit (.setChildren 1 "items" [4]),
    .edit (.setChildren 4 "items" [5])]

/-- The list is replaced by its last node and the one that its first node contains. The
first node remains as a tree of its own, and the second one is let go. -/
theorem moved_run_nested :
    ∃ schema after,
      Schema.build [(ConceptDecl.named "Box").addFeature "items" (.children "Box")] = .ok schema ∧
      (run schema nestedMoves).setChildren 0 "items" [3, 4] = .ok after ∧
      (after.sweep [0, 1]).childrenOf 0 "items" = [3, 4] ∧
      (after.sweep [0, 1]).parent? 4 = some 0 ∧
      (after.sweep [0, 1]).isRoot 1 = true ∧ (after.sweep [0, 1]).walk 1 = [1] ∧
      (after.sweep [0, 1]).isAlive 2 = false := by
  have answers : (Schema.build
      [(ConceptDecl.named "Box").addFeature "items" (.children "Box")]).toOption.map (fun schema =>
      let forest := run schema nestedMoves
      (forest.childrenOf 0 "items", forest.walk 1, forest.walk 3, forest.walk 4,
        (forest.setChildren 0 "items" [3, 4]).toOption.map fun after =>
          [0, 1, 2].map (after.sweep [0, 1]).isAlive)) =
      some ([1, 2, 3], [1, 4, 5], [3], [4, 5], some [true, true, false]) := by
    rfl
  cases built : Schema.build
      [(ConceptDecl.named "Box").addFeature "items" (.children "Box")] with
  | error reason =>
      rw [built] at answers
      cases answers
  | ok schema =>
      rw [built] at answers
      simp only [Except.toOption, Option.map_some, Option.some.injEq, Prod.mk.injEq] at answers
      obtain ⟨stood, first, last, inner, lives⟩ := answers
      cases set : (run schema nestedMoves).setChildren 0 "items" [3, 4] with
      | error reason =>
          rw [set] at lives
          cases lives
      | ok after =>
          simp only [set, Option.map_some, Option.some.injEq, List.map_cons, List.map_nil,
            List.cons.injEq, and_true] at lives
          obtain ⟨top, kept, gone⟩ := lives
          obtain ⟨_, replaces, _⟩ := moved_run built nestedMoves
          obtain ⟨filled, moved⟩ := replaces 0 "items" [3, 4] after (after.sweep [0, 1]) set
            (swept_sweepRounds _ _)
          obtain ⟨isRoot, walk⟩ := moved.released 1 (by simp [stood]) (by decide) kept
          refine ⟨schema, after, rfl, set, filled top, moved.arrived top 4 (by decide), isRoot, ?_,
            gone⟩
          rw [walk, first]
          simp [last, inner]

end Forest

end TypedTree
