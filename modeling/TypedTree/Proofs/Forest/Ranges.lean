import TypedTree.Proofs.Forest.Linkage

namespace TypedTree

/-- The edit sets no range and moves no node. -/
def Edit.isDescriptive : Edit → Bool
  | .setAttribute _ _ _ | .setReference _ _ _ | .resolveReference _ _ _ | .setOrigin _ _
  | .setSource _ _ => true
  | .setChild _ _ _ | .setChildren _ _ _ | .addChild _ _ _ | .setRange _ _ => false

namespace Forest

variable {forest before after : Forest} {node other container child outer middle inner : NodeId}
  {floor : NodeId} {cell : Cell} {feature name : String} {incoming : List NodeId}
  {placement : Placement} {span : Span}

def range? (forest : Forest) (node : NodeId) : Option Span := (forest.cell? node).bind (·.range)

theorem lt_nextId_of_range? (found : forest.range? node = some span) : node < forest.nextId := by
  obtain ⟨cell, present, _⟩ := Option.bind_eq_some_iff.mp found
  exact lt_nextId_of_isAlive (by simp [isAlive, present])

/-- Both nodes have a range, and that of the second lies inside that of the first. -/
def Encloses (forest : Forest) (outer inner : NodeId) : Prop :=
  ∃ range inside, forest.range? outer = some range ∧ forest.range? inner = some inside ∧
    range.encloses inside = true

theorem Encloses.trans (upper : forest.Encloses outer middle)
    (lower : forest.Encloses middle inner) : forest.Encloses outer inner := by
  obtain ⟨range, between, hasRange, hasBetween, encloses⟩ := upper
  obtain ⟨same, inside, isSame, hasInside, enclosesInside⟩ := lower
  cases hasBetween.symm.trans isSame
  exact ⟨range, inside, hasRange, hasInside, Span.encloses_trans encloses enclosesInside⟩

theorem Encloses.mono (encloses : forest.Encloses outer inner)
    (outerKept : ∀ span, forest.range? outer = some span → after.range? outer = some span)
    (innerKept : ∀ span, forest.range? inner = some span → after.range? inner = some span) :
    after.Encloses outer inner := by
  obtain ⟨range, inside, hasRange, hasInside, within⟩ := encloses
  exact ⟨range, inside, outerKept range hasRange, innerKept inside hasInside, within⟩

/-- The nodes made since `floor` contain only nodes made since then, and enclose them. -/
def Nested (floor : NodeId) (forest : Forest) : Prop :=
  ∀ node child, floor ≤ node → child ∈ forest.children node →
    floor ≤ child ∧ forest.Encloses node child

/-- Ranges that are set stay, and ranges that lie inside each other go on to do so. -/
structure KeepsRanges (floor : NodeId) (before after : Forest) : Prop where
  nested : before.Nested floor → after.Nested floor
  ranges : ∀ node span, before.range? node = some span → after.range? node = some span
  nextId : before.nextId ≤ after.nextId

theorem KeepsRanges.refl (floor : NodeId) (forest : Forest) : KeepsRanges floor forest forest :=
  ⟨id, fun _ _ => id, Nat.le_refl _⟩

theorem KeepsRanges.trans (first : KeepsRanges floor before forest)
    (second : KeepsRanges floor forest after) : KeepsRanges floor before after where
  nested := second.nested ∘ first.nested
  ranges node span := second.ranges node span ∘ first.ranges node span
  nextId := Nat.le_trans first.nextId second.nextId

/-- Whatever is new in a node has to have its range inside that of the node. -/
theorem keepsRanges_of_contents
    (contents : ∀ container feature child, child ∈ after.childrenOf container feature →
      child ∈ forest.childrenOf container feature ∨
        floor ≤ child ∧ forest.Encloses container child)
    (ranges : ∀ node span, forest.range? node = some span → after.range? node = some span)
    (nextId : forest.nextId ≤ after.nextId) : KeepsRanges floor forest after where
  nested nested container child since member := by
    obtain ⟨feature, contained⟩ := mem_children_iff.mp member
    have inside : floor ≤ child ∧ forest.Encloses container child := by
      rcases contents container feature child contained with old | new
      · exact nested container child since (mem_children_iff.mpr ⟨feature, old⟩)
      · exact new
    exact ⟨inside.1, inside.2.mono (ranges container) (ranges child)⟩
  ranges := ranges
  nextId := nextId

theorem keepsRanges_of_fewer
    (fewer : ∀ container feature,
      (after.childrenOf container feature).Sublist (forest.childrenOf container feature))
    (ranges : ∀ node span, forest.range? node = some span → after.range? node = some span)
    (nextId : forest.nextId ≤ after.nextId) : KeepsRanges floor forest after :=
  keepsRanges_of_contents
    (fun container feature _ member => Or.inl ((fewer container feature).subset member)) ranges
    nextId

theorem range?_modify_of_same {change : Cell → Cell}
    (same : ∀ cell, (change cell).range = cell.range) :
    (forest.modify node change).range? other = forest.range? other := by
  rw [range?, cell?_modify]
  split
  · simp only [range?, Option.bind_map, Function.comp_def, same]
  · rfl

theorem keepsRanges_modify {change : Cell → Cell}
    (ranges : ∀ cell span, cell.range = some span → (change cell).range = some span)
    (fewer : ∀ cell feature,
      ((change cell).childrenOf feature).Sublist (cell.childrenOf feature)) :
    KeepsRanges floor forest (forest.modify node change) := by
  refine keepsRanges_of_fewer (fun _ _ => childrenOf_modify_sublist fewer) ?_ (by simp)
  intro other span found
  obtain ⟨cell, present, isRange⟩ := Option.bind_eq_some_iff.mp found
  rw [range?, cell?_modify, present]
  split
  · exact ranges cell span isRange
  · exact isRange

theorem keepsRanges_add (bare : cell.Bare) : KeepsRanges floor forest (forest.add cell).2 := by
  refine keepsRanges_of_fewer (fun container feature => ?_) (fun node span found => ?_) (by simp)
  · rw [childrenOf_add bare]
  · rw [range?, cell?_add_of_ne forest cell (Nat.ne_of_lt (lt_nextId_of_range? found))]
    exact found

theorem KeepsRanges.discardSince (keeps : KeepsRanges floor before forest) :
    KeepsRanges floor before (forest.discardSince before.nextId) where
  nested nested container child since member := by
    have swept : forest.Swept (forest.discardSince before.nextId) := swept_sweepRounds _ _
    obtain ⟨feature, contained⟩ := mem_children_iff.mp member
    obtain ⟨held, encloses⟩ := keeps.nested nested container child since
      (mem_children_iff.mpr ⟨feature, swept.childrenOf_sublist.subset contained⟩)
    -- The container is still there, and with it all that it contains.
    obtain ⟨cell, present⟩ := Option.isSome_iff_exists.mp (isAlive_of_mem_childrenOf contained)
    refine ⟨held, encloses.mono (fun span found => ?_) fun span found => ?_⟩
    · rwa [range?, present, ← swept.cells container cell present]
    · rwa [range?, swept.contents container feature child contained]
  ranges node span found := by
    rw [range?, cell?_discardSince_of_lt (lt_nextId_of_range? found)]
    exact keeps.ranges node span found
  nextId := by
    rw [nextId_discardSince]
    exact keeps.nextId

theorem childrenOf_detach_sublist :
    ((forest.detach node).childrenOf container feature).Sublist
      (forest.childrenOf container feature) := by
  unfold detach
  split
  · exact List.Sublist.refl _
  · rw [childrenOf_setParent]
    refine childrenOf_modify_sublist fun cell feature => ?_
    rw [cell.childrenOf_without]
    exact List.filter_sublist

theorem childrenOf_detachAll_sublist :
    ((forest.detachAll incoming).childrenOf container feature).Sublist
      (forest.childrenOf container feature) := by
  induction incoming generalizing forest with
  | nil => exact List.Sublist.refl _
  | cons first rest ih => exact ih.trans childrenOf_detach_sublist

theorem mem_childrenOf_attach
    (member : child ∈ (forest.attach node feature incoming placement).childrenOf container name) :
    child ∈ forest.childrenOf container name ∨ container = node ∧ child ∈ incoming := by
  by_cases here : container = node ∧ name = feature
  · obtain ⟨rfl, rfl⟩ := here
    rw [childrenOf_attach_self] at member
    cases found : (forest.detachAll incoming).slot? container name with
    | none =>
        rw [found] at member
        cases member
    | some slot =>
        rw [found] at member
        rcases Slot.mem_place member with comes | ⟨stays, _⟩
        · exact Or.inr ⟨rfl, comes⟩
        · have held : child ∈ (forest.detachAll incoming).childrenOf container name := by
            rw [childrenOf_eq_slot?, found]
            exact stays
          exact Or.inl (childrenOf_detachAll_sublist.subset held)
  · rw [childrenOf_attach_of_ne here] at member
    exact Or.inl (childrenOf_detachAll_sublist.subset member)

theorem range?_setParent (link : Option NodeId) :
    (forest.setParent node link).range? other = forest.range? other :=
  range?_modify_of_same fun _ => rfl

theorem range?_setParents {nodes : List NodeId} (link : Option NodeId) :
    (forest.setParents nodes link).range? other = forest.range? other := by
  induction nodes generalizing forest with
  | nil => rfl
  | cons first rest ih => exact ih.trans (range?_setParent link)

theorem range?_detach : (forest.detach node).range? other = forest.range? other := by
  unfold detach
  split
  · rfl
  · next parent _ =>
      have taken : (forest.modify parent (·.without node)).range? other = forest.range? other :=
        range?_modify_of_same fun _ => rfl
      exact (range?_setParent none).trans taken

theorem range?_detachAll : (forest.detachAll incoming).range? other = forest.range? other := by
  induction incoming generalizing forest with
  | nil => rfl
  | cons first rest ih => exact ih.trans range?_detach

theorem range?_attach :
    (forest.attach node feature incoming placement).range? other = forest.range? other := by
  have placed : ((forest.detachAll incoming).modify node
      (·.changeSlot feature (·.place incoming placement))).range? other =
        (forest.detachAll incoming).range? other :=
    range?_modify_of_same fun _ => rfl
  exact (range?_setParents _).trans ((range?_setParents _).trans (placed.trans range?_detachAll))

/-- Nodes with ranges inside that of a node may move into it. -/
theorem keepsRanges_attach
    (enclosed : ∀ child ∈ incoming, floor ≤ child ∧ forest.Encloses node child) :
    KeepsRanges floor forest (forest.attach node feature incoming placement) := by
  refine keepsRanges_of_contents (fun container name child member => ?_)
    (fun _ _ found => range?_attach.trans found) (by simp)
  rcases mem_childrenOf_attach member with old | ⟨rfl, new⟩
  · exact Or.inl old
  · exact Or.inr (enclosed child new)

variable {wider : Span} {nodes others : List NodeId}

/-- The node was made since `floor`, and its range lies inside the span. -/
def MadeIn (floor : NodeId) (span : Span) (forest : Forest) (node : NodeId) : Prop :=
  floor ≤ node ∧ ∃ inside, forest.range? node = some inside ∧ span.encloses inside = true

/-- What happened keeps the ranges as they are, and brought `nodes`, which lie inside the span. -/
structure Ranged (floor : NodeId) (span : Span) (nodes : List NodeId) (before after : Forest) :
    Prop where
  keeps : KeepsRanges floor before after
  inside : ∀ node ∈ nodes, after.MadeIn floor span node

theorem ranged_nil (keeps : KeepsRanges floor before after) : Ranged floor span [] before after :=
  ⟨keeps, nofun⟩

theorem Ranged.preceded (ranged : Ranged floor span nodes forest after)
    (keeps : KeepsRanges floor before forest) : Ranged floor span nodes before after :=
  ⟨keeps.trans ranged.keeps, ranged.inside⟩

theorem Ranged.followed (ranged : Ranged floor span nodes before forest)
    (keeps : KeepsRanges floor forest after) : Ranged floor span nodes before after where
  keeps := ranged.keeps.trans keeps
  inside node member := by
    obtain ⟨since, inside, found, encloses⟩ := ranged.inside node member
    exact ⟨since, inside, keeps.ranges node inside found, encloses⟩

theorem Ranged.append (first : Ranged floor span nodes before forest)
    (second : Ranged floor span others forest after) :
    Ranged floor span (nodes ++ others) before after where
  keeps := first.keeps.trans second.keeps
  inside node member := by
    rcases List.mem_append.mp member with early | late
    · exact (first.followed second.keeps).inside node early
    · exact second.inside node late

theorem Ranged.widen (ranged : Ranged floor span nodes before after)
    (encloses : wider.encloses span = true) : Ranged floor wider nodes before after where
  keeps := ranged.keeps
  inside node member := by
    obtain ⟨since, inside, found, within⟩ := ranged.inside node member
    exact ⟨since, inside, found, Span.encloses_trans encloses within⟩

theorem ranged_singleton (keeps : KeepsRanges floor before after) (since : floor ≤ node)
    (found : after.range? node = some span) : Ranged floor span [node] before after where
  keeps := keeps
  inside other member := by
    cases List.mem_singleton.mp member
    exact ⟨since, span, found, span.encloses_refl⟩

theorem Ranged.attach (ranged : Ranged floor span nodes before forest)
    (found : forest.range? node = some span) (feature : String) (placement : Placement) :
    KeepsRanges floor before (forest.attach node feature nodes placement) := by
  refine ranged.keeps.trans (keepsRanges_attach fun child member => ?_)
  obtain ⟨since, range, hasRange, encloses⟩ := ranged.inside child member
  exact ⟨since, span, range, found, hasRange, encloses⟩

theorem exists_modify_of_isDescriptive {edit : Edit} (descriptive : edit.isDescriptive = true)
    (applied : forest.apply edit = .ok after) :
    ∃ node change, after = forest.modify node change ∧
      (∀ cell, (change cell).range = cell.range) ∧
      ∀ cell feature, ((change cell).childrenOf feature).Sublist (cell.childrenOf feature) := by
  match edit with
  | .setAttribute node feature value =>
      obtain ⟨_, _, _, _, _, rfl⟩ := setAttribute_eq_ok_iff.mp applied
      exact ⟨node, _, rfl, fun _ => rfl, fun cell => sublist_setSlot cell feature _ rfl⟩
  | .setReference node feature link =>
      obtain ⟨_, _, _, _, _, rfl⟩ := setReference_eq_ok_iff.mp applied
      exact ⟨node, _, rfl, fun _ => rfl, fun cell => sublist_setSlot cell feature _ rfl⟩
  | .resolveReference node feature target =>
      obtain ⟨_, _, _, _, _, _, _, rfl⟩ := resolveReference_eq_ok_iff.mp applied
      exact ⟨node, _, rfl, fun _ => rfl, fun cell => sublist_setSlot cell feature _ rfl⟩
  | .setOrigin node origin | .setSource node source =>
      cases applied
      exact ⟨node, _, rfl, fun _ => rfl, fun _ _ => .refl _⟩
  | .setChild _ _ _ | .setChildren _ _ _ | .addChild _ _ _ | .setRange _ _ => cases descriptive

theorem keepsRanges_of_isDescriptive {edit : Edit} (descriptive : edit.isDescriptive = true)
    (applied : forest.apply edit = .ok after) : KeepsRanges floor forest after := by
  obtain ⟨node, change, rfl, same, fewer⟩ := exists_modify_of_isDescriptive descriptive applied
  exact keepsRanges_modify (fun cell span found => (same cell).trans found) fewer

/-- The node was made since `floor`, and no range has been recorded for it yet. -/
structure Unranged (floor : NodeId) (forest : Forest) (node : NodeId) : Prop where
  since : floor ≤ node
  vacant : ∃ cell, forest.cell? node = some cell ∧ cell.range = none

theorem Unranged.add (unranged : forest.Unranged floor node) (cell : Cell) :
    (forest.add cell).2.Unranged floor node where
  since := unranged.since
  vacant := by
    obtain ⟨held, found, vacant⟩ := unranged.vacant
    have alive : forest.isAlive node = true := by simp [isAlive, found]
    have old : node ≠ forest.nextId := Nat.ne_of_lt (lt_nextId_of_isAlive alive)
    exact ⟨held, (forest.cell?_add_of_ne cell old).trans found, vacant⟩

theorem unranged_add (low : floor ≤ forest.nextId) (vacant : cell.range = none) :
    (forest.add cell).2.Unranged floor forest.nextId :=
  ⟨low, cell, forest.cell?_add_self cell, vacant⟩

theorem Unranged.of_isDescriptive {edit : Edit} (unranged : forest.Unranged floor node)
    (descriptive : edit.isDescriptive = true) (applied : forest.apply edit = .ok after) :
    after.Unranged floor node where
  since := unranged.since
  vacant := by
    obtain ⟨place, change, rfl, same, _⟩ := exists_modify_of_isDescriptive descriptive applied
    obtain ⟨held, found, vacant⟩ := unranged.vacant
    rw [cell?_modify, found]
    split
    · exact ⟨change held, rfl, (same held).trans vacant⟩
    · exact ⟨held, rfl, vacant⟩

end Forest

end TypedTree
