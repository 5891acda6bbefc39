import TypedTree.Forest.Edit
import TypedTree.Forest.Liveness
import TypedTree.Proofs.Forest.Ancestors

namespace TypedTree

/-! # Containment and parent links

Where a node is contained is recorded twice: in a slot of its container and by its
own parent link. `Forest.Linked` says that the first record is never wrong: a node
stands in one place at most, and its link leads there. The link may say more than the
slots, since it may be set before the node is put anywhere. Every operation is
described by the children and the links it leaves, and from these descriptions
`Linked` is seen to survive it.
-/

namespace Slot

theorem mem_place {slot : Slot} {incoming : List NodeId} {placement : Placement}
    {node : NodeId} (member : node ∈ (slot.place incoming placement).contained) :
    node ∈ incoming ∨ (node ∈ slot.contained ∧ node ∉ slot.displaced placement) := by
  match slot, placement with
  | .children nodes, .append =>
      rcases List.mem_append.mp member with old | new
      · exact Or.inr ⟨old, by simp [displaced]⟩
      · exact Or.inl new
  | .children nodes, .replace => exact Or.inl member
  | .child held, .replace =>
      exact Or.inl (List.mem_of_mem_head? (Option.mem_toList.mp member))
  | .child held, .append => exact Or.inr ⟨member, by simp [displaced]⟩
  | .attribute _, .append | .attribute _, .replace => cases member
  | .reference _, .append | .reference _, .replace => cases member

theorem mem_place_or_displaced {slot : Slot} (incoming : List NodeId) (placement : Placement)
    {node : NodeId} (member : node ∈ slot.contained) :
    node ∈ (slot.place incoming placement).contained ∨ node ∈ slot.displaced placement := by
  match slot, placement with
  | .children nodes, .append => exact Or.inl (List.mem_append_left _ member)
  | .child held, .append => exact Or.inl member
  | .children _, .replace | .child _, .replace => exact Or.inr member
  | .attribute _, _ | .reference _, _ => cases member

theorem displaced_subset (slot : Slot) (placement : Placement) :
    slot.displaced placement ⊆ slot.contained := by
  cases placement <;> simp [displaced]

theorem nodup_place {slot : Slot} {incoming : List NodeId} {placement : Placement}
    (old : slot.contained.Nodup) (new : incoming.Nodup)
    (apart : ∀ node ∈ slot.contained, node ∉ incoming) :
    (slot.place incoming placement).contained.Nodup := by
  match slot, placement with
  | .children nodes, .append =>
      refine List.nodup_append.mpr ⟨old, new, ?_⟩
      intro first inOld second inNew same
      exact apart first inOld (same ▸ inNew)
  | .children nodes, .replace => exact new
  | .child held, .replace => cases incoming <;> simp [place, contained]
  | .child held, .append => exact old
  | .attribute _, .append | .attribute _, .replace => exact .nil
  | .reference _, .append | .reference _, .replace => exact .nil

end Slot

namespace Forest

variable {forest after : Forest} {node other parent container child : NodeId}
  {feature : String} {incoming nodes : List NodeId} {placement : Placement}

/-- The parent link as it is stored; the parent may be gone. -/
def parentLink? (forest : Forest) (node : NodeId) : Option NodeId :=
  (forest.cell? node).bind (·.parent)

theorem parent?_eq_some_iff :
    forest.parent? node = some parent ↔
      forest.parentLink? node = some parent ∧ forest.isAlive parent = true :=
  Option.filter_eq_some_iff

theorem isAlive_of_mem_childrenOf (member : child ∈ forest.childrenOf container feature) :
    forest.isAlive container = true := by
  cases found : forest.cell? container with
  | none => simp [childrenOf, found] at member
  | some cell => simp [isAlive, found]

theorem isAlive_of_parentLink? (link : forest.parentLink? node = some parent) :
    forest.isAlive node = true := by
  cases found : forest.cell? node with
  | none => simp [parentLink?, found] at link
  | some cell => simp [isAlive, found]

/-- A node stands in at most one place, its link leads to that place, and no chain of
links is endless. -/
structure Linked (forest : Forest) : Prop where
  /-- No feature holds a node twice. -/
  distinct : ∀ container feature, (forest.childrenOf container feature).Nodup
  /-- No two features of a node hold the same one. -/
  single : ∀ {container first second child}, child ∈ forest.childrenOf container first →
    child ∈ forest.childrenOf container second → first = second
  linked : ∀ {container feature child}, child ∈ forest.childrenOf container feature →
    forest.parentLink? child = some container
  grounded : forest.Grounded

theorem Linked.parent?_of_mem (linked : forest.Linked)
    (member : child ∈ forest.childrenOf container feature) :
    forest.parent? child = some container :=
  parent?_eq_some_iff.mpr ⟨linked.linked member, isAlive_of_mem_childrenOf member⟩

theorem Linked.empty : (∅ : Forest).Linked where
  distinct container feature := List.nodup_nil
  single member := by cases member
  linked member := by cases member
  grounded := ⟨fun node => ⟨node, fun above link => by cases link⟩⟩

/-- Taking nodes out of features, and links from nodes, does no harm. -/
theorem Linked.mono (linked : forest.Linked)
    (children : ∀ container feature,
      (after.childrenOf container feature).Sublist (forest.childrenOf container feature))
    (kept : ∀ container feature child, child ∈ after.childrenOf container feature →
      after.parentLink? child = forest.parentLink? child)
    (links : ∀ node above, after.parent? node = some above → forest.parent? node = some above) :
    after.Linked where
  distinct container feature := (linked.distinct container feature).sublist (children _ _)
  single inFirst inSecond :=
    linked.single ((children _ _).subset inFirst) ((children _ _).subset inSecond)
  linked {container feature child} member := by
    rw [kept container feature child member]
    exact linked.linked ((children _ _).subset member)
  grounded := linked.grounded.mono links

theorem parentLink?_modify_of_ne (different : other ≠ node) (change : Cell → Cell) :
    (forest.modify node change).parentLink? other = forest.parentLink? other := by
  simp [parentLink?, cell?_modify, different]

theorem parentLink?_modify_of_same {change : Cell → Cell}
    (same : ∀ cell, (change cell).parent = cell.parent) :
    (forest.modify node change).parentLink? other = forest.parentLink? other := by
  rw [parentLink?, cell?_modify]
  split
  · simp only [parentLink?, Option.bind_map, Function.comp_def, same]
  · rfl

theorem parent?_modify_of_same {change : Cell → Cell}
    (same : ∀ cell, (change cell).parent = cell.parent) :
    (forest.modify node change).parent? other = forest.parent? other := by
  refine Option.ext fun above => ?_
  rw [parent?_eq_some_iff, parent?_eq_some_iff, parentLink?_modify_of_same same, isAlive_modify]

theorem childrenOf_modify_sublist {change : Cell → Cell}
    (fewer : ∀ cell feature,
      ((change cell).childrenOf feature).Sublist (cell.childrenOf feature)) :
    ((forest.modify node change).childrenOf container feature).Sublist
      (forest.childrenOf container feature) := by
  by_cases here : container = node
  · subst here
    rw [childrenOf_modify_self, childrenOf]
    cases forest.cell? container with
    | none => exact .slnil
    | some cell => exact fewer cell feature
  · rw [childrenOf_modify_of_ne _ here]

theorem Linked.modify (linked : forest.Linked) {change : Cell → Cell}
    (link : ∀ cell, (change cell).parent = cell.parent)
    (fewer : ∀ cell feature,
      ((change cell).childrenOf feature).Sublist (cell.childrenOf feature)) :
    (forest.modify node change).Linked := by
  refine linked.mono (fun _ _ => childrenOf_modify_sublist fewer) ?_ ?_
  · intro container feature child _
    exact parentLink?_modify_of_same link
  · intro child above found
    rwa [parent?_modify_of_same link] at found

theorem sublist_setSlot (cell : Cell) (feature : String) (content : Slot)
    (bare : content.contained = []) (other : String) :
    ((cell.setSlot feature content).childrenOf other).Sublist (cell.childrenOf other) := by
  by_cases here : other = feature
  · subst here
    have gone : (cell.setSlot other content).childrenOf other = [] := by
      rw [Cell.setSlot, Cell.childrenOf_changeSlot_self]
      cases cell.slot? other with
      | none => rfl
      | some slot => exact bare
    rw [gone]
    exact List.nil_sublist _
  · rw [Cell.setSlot, Cell.childrenOf_changeSlot_of_ne _ here]

theorem Linked.setSlot (linked : forest.Linked) {content : Slot}
    (bare : content.contained = []) :
    (forest.modify node (·.setSlot feature content)).Linked :=
  linked.modify (fun _ => rfl) fun cell => sublist_setSlot cell feature content bare

@[simp]
theorem childrenOf_setParent (link : Option NodeId) :
    (forest.setParent node link).childrenOf container feature =
      forest.childrenOf container feature :=
  childrenOf_modify_of_same _ _ _ _ fun _ => rfl

@[simp]
theorem isAlive_setParent (link : Option NodeId) :
    (forest.setParent node link).isAlive other = forest.isAlive other :=
  isAlive_modify _ _ _ _

@[simp]
theorem nextId_setParent (link : Option NodeId) :
    (forest.setParent node link).nextId = forest.nextId :=
  nextId_modify _ _ _

theorem parentLink?_setParent (link : Option NodeId) :
    (forest.setParent node link).parentLink? other =
      if other = node ∧ forest.isAlive other then link else forest.parentLink? other := by
  by_cases same : other = node
  · subst same
    cases found : forest.cell? other <;>
      simp [parentLink?, setParent, cell?_modify, isAlive, found]
  · rw [if_neg fun both => same both.1]
    exact parentLink?_modify_of_ne same _

/-- The links of all `nodes` set to one value. -/
def setParents (forest : Forest) (nodes : List NodeId) (link : Option NodeId) : Forest :=
  nodes.foldl (·.setParent · link) forest

@[simp]
theorem childrenOf_setParents (link : Option NodeId) :
    (forest.setParents nodes link).childrenOf container feature =
      forest.childrenOf container feature := by
  induction nodes generalizing forest with
  | nil => rfl
  | cons first rest ih => exact ih.trans (childrenOf_setParent link)

@[simp]
theorem isAlive_setParents (link : Option NodeId) :
    (forest.setParents nodes link).isAlive other = forest.isAlive other := by
  induction nodes generalizing forest with
  | nil => rfl
  | cons first rest ih => exact ih.trans (isAlive_setParent link)

@[simp]
theorem nextId_setParents (link : Option NodeId) :
    (forest.setParents nodes link).nextId = forest.nextId := by
  induction nodes generalizing forest with
  | nil => rfl
  | cons first rest ih => exact ih.trans (nextId_setParent link)

theorem parentLink?_setParents (link : Option NodeId) :
    (forest.setParents nodes link).parentLink? other =
      if other ∈ nodes ∧ forest.isAlive other then link else forest.parentLink? other := by
  induction nodes generalizing forest with
  | nil => simp [setParents]
  | cons first rest ih =>
      have step : (forest.setParents (first :: rest) link).parentLink? other =
          ((forest.setParent first link).setParents rest link).parentLink? other := rfl
      rw [step, ih, isAlive_setParent, parentLink?_setParent]
      by_cases alive : forest.isAlive other = true
      · simp only [alive, and_true, List.mem_cons]
        by_cases later : other ∈ rest
        · rw [if_pos later, if_pos (Or.inr later)]
        · simp only [later, or_false, if_false]
      · simp [alive]

end Forest

end TypedTree
