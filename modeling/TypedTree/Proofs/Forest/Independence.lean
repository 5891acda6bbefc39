import TypedTree.Proofs.Forest.Fitting
import TypedTree.Proofs.Forest.Placing

namespace TypedTree

/-- A change of a cell that does not depend on its content and leaves it alone. -/
structure Cell.Outward (change : Cell → Cell) : Prop where
  concept : ∀ cell, (change cell).concept = cell.concept
  content : ∀ cell content,
    change { cell with content := content } = { change cell with content := content }

theorem Cell.Outward.content_eq {change : Cell → Cell} (outward : Outward change) (cell : Cell) :
    (change cell).content = cell.content := by
  rw [outward.content cell cell.content]

theorem Cell.Outward.comm {change : Cell → Cell} (outward : Outward change)
    (inside : Registry String Slot → Registry String Slot) (cell : Cell) :
    { change cell with content := inside (change cell).content } =
      change { cell with content := inside cell.content } := by
  rw [outward.content cell (inside cell.content), outward.content_eq]

/-- Edits that give the node what one of its features is to contain. -/
def Edit.Fills (node : NodeId) : Edit → Prop
  | .setChild container _ _ | .setChildren container _ _ => container = node
  | .setAttribute _ _ _ | .setReference _ _ _ | .resolveReference _ _ _ | .addChild _ _ _
  | .setOrigin _ _ | .setRange _ _ | .setSource _ _ => False

namespace Forest

variable {forest after : Forest} {node child : NodeId} {feature : String}
  {incoming nodes : List NodeId} {placement : Placement} {change : Cell → Cell}

theorem modify_comm {other : NodeId} {next : Cell → Cell}
    (commute : other = node → ∀ cell, next (change cell) = change (next cell)) :
    (forest.modify node change).modify other next =
      (forest.modify other next).modify node change := by
  refine ext_cell? ?_ (by simp) fun inner => ?_
  · simp only [handles_modify]
  · simp only [cell?_modify]
    by_cases here : inner = node <;> by_cases there : inner = other
    · have same := funext (commute (there.symm.trans here))
      simp only [if_pos here, if_pos there, Option.map_map, Function.comp_def, same]
    · simp only [if_pos here, if_neg there]
    · simp only [if_neg here, if_pos there]
    · simp only [if_neg here, if_neg there]

theorem setParents_modify (apart : node ∉ nodes) (link : Option NodeId) :
    (forest.modify node change).setParents nodes link =
      (forest.setParents nodes link).modify node change := by
  induction nodes generalizing forest with
  | nil => rfl
  | cons first rest ih =>
      rw [List.mem_cons, not_or] at apart
      change ((forest.modify node change).setParent first link).setParents rest link = _
      rw [setParent, modify_comm fun same => absurd same.symm apart.1, ih apart.2]
      rfl

section

variable (outward : Cell.Outward change)
include outward

theorem childrenOf_modify_outward {container : NodeId} :
    (forest.modify node change).childrenOf container feature =
      forest.childrenOf container feature := by
  rw [childrenOf, childrenOf, cell?_modify]
  split
  · cases forest.cell? container with
    | none => rfl
    | some cell =>
        rw [Option.map_some, Option.map_some, Option.map_some, Cell.childrenOf, Cell.slot?,
          outward.content_eq]
        rfl
  · rfl

theorem detach_modify (apart : child ≠ node) :
    (forest.modify node change).detach child = (forest.detach child).modify node change := by
  have alive : (forest.modify node change).isAlive = forest.isAlive :=
    funext fun _ => isAlive_modify _ _ _ _
  have up : (forest.modify node change).parent? child = forest.parent? child := by
    rw [parent?, parent?, cell?_modify, if_neg apart, alive]
  rw [detach, detach, up]
  cases forest.parent? child with
  | none => rfl
  | some parent =>
      dsimp only
      rw [modify_comm fun _ cell => outward.comm (·.mapValues (·.without child)) cell, setParent,
        setParent, modify_comm fun same => absurd same apart]

theorem detachAll_modify (apart : node ∉ incoming) :
    (forest.modify node change).detachAll incoming =
      (forest.detachAll incoming).modify node change := by
  induction incoming generalizing forest with
  | nil => rfl
  | cons first rest ih =>
      rw [List.mem_cons, not_or] at apart
      change ((forest.modify node change).detach first).detachAll rest = _
      rw [detach_modify outward (Ne.symm apart.1), ih apart.2]
      rfl

theorem displacedBy_modify (apart : node ∉ incoming) :
    (forest.modify node change).displacedBy node feature incoming placement =
      forest.displacedBy node feature incoming placement := by
  rw [displacedBy, displacedBy, detachAll_modify outward apart, slot?, slot?, cell?_modify,
    if_pos rfl]
  cases (forest.detachAll incoming).cell? node with
  | none => rfl
  | some cell =>
      rw [Option.map_some, Option.bind_some, Option.bind_some, Cell.slot?, outward.content_eq]
      rfl

theorem attach_modify (apart : node ∉ incoming)
    (kept : node ∉ forest.displacedBy node feature incoming placement) :
    (forest.modify node change).attach node feature incoming placement =
      (forest.attach node feature incoming placement).modify node change := by
  change (((((forest.modify node change).detachAll incoming).modify node _).setParents
    ((forest.modify node change).displacedBy node feature incoming placement) none).setParents
      incoming (some node)) = _
  rw [displacedBy_modify outward apart, detachAll_modify outward apart,
    modify_comm fun _ cell => outward.comm
      (·.modify feature (·.place incoming placement)) cell,
    setParents_modify kept, setParents_modify apart]
  rfl

end

/-- A node that has no parent and does not contain itself. -/
structure Alone (forest : Forest) (node : NodeId) : Prop where
  unlinked : forest.parentLink? node = none
  loose : ∀ {feature}, node ∉ forest.childrenOf node feature

theorem Alone.not_displaced (alone : forest.Alone node) :
    node ∉ forest.displacedBy node feature incoming placement := by
  intro displaced
  obtain ⟨inSlot, _⟩ := List.mem_filter.mp displaced
  cases found : (forest.detachAll incoming).slot? node feature with
  | none => simp [found] at inSlot
  | some slot =>
      rw [found] at inSlot
      have held : node ∈ (forest.detachAll incoming).childrenOf node feature := by
        rw [childrenOf_eq_slot?, found]
        exact slot.displaced_subset placement inSlot
      exact alone.loose (mem_childrenOf_of_detachAll held)

theorem Alone.attach (alone : forest.Alone node) (apart : node ∉ incoming) :
    (forest.attach node feature incoming placement).Alone node where
  unlinked := by
    rw [parentLink?_attach_of_not_mem apart alone.not_displaced]
    exact alone.unlinked
  loose member := by
    rcases mem_childrenOf_of_attach member with before | ⟨_, _, came⟩
    · exact alone.loose before
    · exact apart came

theorem Alone.ancestors (alone : forest.Alone node) : forest.ancestors node = [] := by
  refine ancestors_of_parent?_none ?_
  rw [parent?, ← parentLink?, alone.unlinked]
  rfl

theorem Accepts.of_modify {declared : Feature} (alone : forest.Alone node)
    (accepts : (forest.modify node change).Accepts node declared child) :
    forest.Accepts node declared child where
  notSelf := accepts.notSelf
  notAbove := by
    rw [alone.ancestors]
    exact List.not_mem_nil
  fits := by
    have fits := accepts.fits
    rwa [concept?, cell?_modify, if_neg accepts.notSelf] at fits

theorem cell?_of_modify {changed : Cell}
    (found : (forest.modify node change).cell? node = some changed) :
    ∃ cell, forest.cell? node = some cell ∧ change cell = changed := by
  rw [cell?_modify, if_pos rfl] at found
  exact Option.map_eq_some_iff.mp found

section

variable (outward : Cell.Outward change)
include outward

/-- What may be put into a node with its metadata may be put into it before it has any. -/
theorem apply_of_modify {edit : Edit} (fills : edit.Fills node) (alone : forest.Alone node)
    (applied : (forest.modify node change).apply edit = .ok after) :
    ∃ before, forest.apply edit = .ok before ∧ before.modify node change = after ∧
      before.Alone node ∧ before.concept? node = forest.concept? node := by
  match edit with
  | .setChild _ feature held =>
      cases fills
      obtain ⟨_, declared, target, found, known, kind, accepted, rfl⟩ :=
        setChild_eq_ok_iff.mp applied
      obtain ⟨cell, present, rfl⟩ := cell?_of_modify found
      have apart : node ∉ held.toList := fun member =>
        (accepted node (Option.mem_toList.mp member)).notSelf rfl
      refine ⟨forest.attach node feature held.toList .replace, setChild_eq_ok_iff.mpr ?_,
        (attach_modify outward apart alone.not_displaced).symm, alone.attach apart, concept?_attach⟩
      exact ⟨cell, declared, target, present, outward.concept cell ▸ known, kind,
        fun inner is => (accepted inner is).of_modify alone, rfl⟩
  | .setChildren _ feature children =>
      cases fills
      obtain ⟨_, declared, target, found, known, kind, distinct, accepted, rfl⟩ :=
        setChildren_eq_ok_iff.mp applied
      obtain ⟨cell, present, rfl⟩ := cell?_of_modify found
      have apart : node ∉ children := fun member => (accepted node member).notSelf rfl
      refine ⟨forest.attach node feature children .replace, setChildren_eq_ok_iff.mpr ?_,
        (attach_modify outward apart alone.not_displaced).symm, alone.attach apart, concept?_attach⟩
      exact ⟨cell, declared, target, present, outward.concept cell ▸ known, kind, distinct,
        fun inner is => (accepted inner is).of_modify alone, rfl⟩

end

end Forest

end TypedTree
