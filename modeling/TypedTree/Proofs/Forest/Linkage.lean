import TypedTree.Proofs.Forest.Attachment

namespace TypedTree

theorem Cell.mem_children_iff {cell : Cell} {node : NodeId} :
    node ∈ cell.children ↔ ∃ feature, node ∈ cell.childrenOf feature := by
  simp only [Cell.children, Cell.slots, List.mem_flatMap, Prod.exists]
  constructor
  · intro listed
    obtain ⟨feature, slot, entry, member⟩ := listed
    have found : cell.slot? feature = some slot := Registry.mem_entries_iff.mp entry
    exact ⟨feature, by simpa [Cell.childrenOf, found] using member⟩
  · intro held
    obtain ⟨feature, member⟩ := held
    cases found : cell.slot? feature with
    | none => simp [Cell.childrenOf, found] at member
    | some slot =>
        refine ⟨feature, slot, Registry.mem_entries_iff.mpr found, ?_⟩
        simpa [Cell.childrenOf, found] using member

/-- A cell that contains nothing and belongs to nothing. -/
structure Cell.Bare (cell : Cell) : Prop where
  childless : ∀ feature, cell.childrenOf feature = []
  unlinked : cell.parent = none

theorem Cell.bare_blank (concept : Concept) : (Cell.blank concept).Bare where
  childless feature := by
    cases found : (Cell.blank concept).slot? feature with
    | none => simp [Cell.childrenOf, found]
    | some slot =>
        obtain ⟨declared, _, same⟩ :=
          List.mem_map.mp (Registry.mem_of_get?_ofEntries found)
        simp [Cell.childrenOf, found, ← (Prod.mk.injEq _ _ _ _ ▸ same).2]
  unlinked := rfl

theorem Cell.Bare.setSlot {cell : Cell} (bare : cell.Bare) (feature : String) {content : Slot}
    (empty : content.contained = []) : (cell.setSlot feature content).Bare where
  childless other := by
    have fewer := Forest.sublist_setSlot cell feature content empty other
    rw [bare.childless other] at fewer
    exact List.eq_nil_of_sublist_nil fewer
  unlinked := bare.unlinked

namespace Forest

variable {forest after : Forest} {node other container child : NodeId} {feature : String}
  {cell : Cell}

theorem mem_children_iff :
    node ∈ forest.children container ↔ ∃ feature, node ∈ forest.childrenOf container feature := by
  cases found : forest.cell? container with
  | none => simp [children, childrenOf, found]
  | some cell => simp [children, childrenOf, found, Cell.mem_children_iff]

theorem cell?_nextId : forest.cell? forest.nextId = none := by
  simp [cell?, nextId]

theorem cell?_add :
    (forest.add cell).2.cell? other =
      if other = forest.nextId then some cell else forest.cell? other := by
  split
  case isTrue same => rw [same]; exact forest.cell?_add_self cell
  case isFalse different => exact forest.cell?_add_of_ne cell different

@[simp]
theorem nextId_add : (forest.add cell).2.nextId = forest.nextId + 1 := by
  simp [add, nextId]

theorem childrenOf_add (bare : cell.Bare) :
    (forest.add cell).2.childrenOf container feature = forest.childrenOf container feature := by
  rw [childrenOf, cell?_add]
  split
  case isTrue same => simp [childrenOf, same, cell?_nextId, bare.childless]
  case isFalse => rfl

theorem parentLink?_add (bare : cell.Bare) :
    (forest.add cell).2.parentLink? other = forest.parentLink? other := by
  rw [parentLink?, cell?_add]
  split
  case isTrue same => simp [parentLink?, same, cell?_nextId, bare.unlinked]
  case isFalse => rfl

theorem isAlive_add :
    (forest.add cell).2.isAlive other = (other == forest.nextId || forest.isAlive other) := by
  rw [isAlive, cell?_add]
  split
  case isTrue same => simp [same]
  case isFalse different => simp [isAlive, different]

theorem Linked.add (linked : forest.Linked) (bare : cell.Bare) : (forest.add cell).2.Linked where
  distinct container feature := by
    rw [childrenOf_add bare]
    exact linked.distinct container feature
  single inFirst inSecond := by
    rw [childrenOf_add bare] at inFirst inSecond
    exact linked.single inFirst inSecond
  linked member := by
    rw [childrenOf_add bare] at member
    rw [parentLink?_add bare]
    exact linked.linked member
  grounded := by
    -- A link may have waited for the new number; the new node itself has none.
    refine linked.grounded.redirect (fun node => forest.parentLink? node = some forest.nextId)
      forest.nextId ?_ ?_
    · intro above reached waiting
      rcases reached with rfl | higher
      · simp [parentLink?, cell?_nextId] at waiting
      · obtain ⟨below, _, last⟩ := Relation.TransGen.tail'_iff.mp higher
        have stored := (parent?_eq_some_iff.mp last).1
        simp [parentLink?, cell?_nextId] at stored
    · intro child above link
      obtain ⟨stored, alive⟩ := parent?_eq_some_iff.mp link
      rw [parentLink?_add bare] at stored
      rw [isAlive_add, Bool.or_eq_true, beq_iff_eq] at alive
      rcases alive with rfl | old
      · exact Or.inl ⟨stored, rfl⟩
      · exact Or.inr (parent?_eq_some_iff.mpr ⟨stored, old⟩)

theorem Linked.createGeneric (linked : forest.Linked) : forest.createGeneric.2.Linked :=
  linked.add (Cell.bare_blank _)

theorem Linked.createError (linked : forest.Linked) (message : String) :
    (forest.createError message).2.Linked :=
  linked.add ((Cell.bare_blank _).setSlot _ rfl)

theorem Linked.create (linked : forest.Linked) {schema : Schema} {concept : String}
    (created : forest.create schema concept = .ok (node, after)) : after.Linked := by
  unfold Forest.create at created
  split at created
  · have added : (forest.add (.blank ‹Concept›)).2 = after :=
      congrArg Prod.snd (Except.ok.inj created)
    exact added ▸ linked.add (Cell.bare_blank _)
  · cases created

theorem Accepts.movable (linked : forest.Linked) {declared : Feature}
    (accepted : forest.Accepts node declared child) : forest.Movable node child := by
  refine ⟨?_, accepted.notSelf, fun above => ?_⟩
  · obtain ⟨concept, found, _⟩ := accepted.fits
    cases present : forest.cell? child with
    | none => simp [concept?, present] at found
    | some cell => simp [isAlive, present]
  · exact accepted.notAbove (linked.grounded.mem_ancestors_iff.mpr above)

theorem Linked.setMetadata (linked : forest.Linked) {change : Cell → Cell}
    (link : ∀ cell, (change cell).parent = cell.parent)
    (content : ∀ cell, (change cell).content = cell.content) :
    (forest.modify node change).Linked := by
  refine linked.modify link fun cell feature => ?_
  have same : (change cell).childrenOf feature = cell.childrenOf feature := by
    simp only [Cell.childrenOf, Cell.slot?, content]
  rw [same]

theorem Linked.apply (linked : forest.Linked) {edit : Edit}
    (applied : forest.apply edit = .ok after) : after.Linked := by
  match edit with
  | .setAttribute node feature value =>
      obtain ⟨_, _, _, _, _, rfl⟩ := setAttribute_eq_ok_iff.mp applied
      exact linked.setSlot rfl
  | .setReference node feature link =>
      obtain ⟨_, _, _, _, _, rfl⟩ := setReference_eq_ok_iff.mp applied
      exact linked.setSlot rfl
  | .resolveReference node feature target =>
      obtain ⟨_, _, _, _, _, _, _, rfl⟩ := resolveReference_eq_ok_iff.mp applied
      exact linked.setSlot rfl
  | .setChild node feature child =>
      obtain ⟨_, declared, _, _, _, _, accepted, rfl⟩ := setChild_eq_ok_iff.mp applied
      refine linked.attach (by cases child <;> simp) fun inner member => ?_
      exact (accepted inner (Option.mem_toList.mp member)).movable linked
  | .setChildren node feature children =>
      obtain ⟨_, declared, _, _, _, _, distinct, accepted, rfl⟩ :=
        setChildren_eq_ok_iff.mp applied
      exact linked.attach distinct fun inner member => (accepted inner member).movable linked
  | .addChild node feature child =>
      obtain ⟨_, declared, _, _, _, _, accepted, rfl⟩ := addChild_eq_ok_iff.mp applied
      refine linked.attach (by simp) fun inner member => ?_
      rw [List.mem_singleton] at member
      exact member ▸ accepted.movable linked
  | .setOrigin node origin =>
      cases applied
      exact linked.setMetadata (fun _ => rfl) fun _ => rfl
  | .setRange node range =>
      cases applied
      exact linked.setMetadata (fun _ => rfl) fun _ => rfl
  | .setSource node source =>
      cases applied
      exact linked.setMetadata (fun _ => rfl) fun _ => rfl

theorem mem_containedNodes (member : child ∈ forest.childrenOf container feature) :
    child ∈ forest.containedNodes := by
  cases found : forest.cell? container with
  | none => simp [childrenOf, found] at member
  | some cell =>
      have within : child ∈ cell.children :=
        Cell.mem_children_iff.mpr ⟨feature, by simpa [childrenOf, found] using member⟩
      have listed : some cell ∈ forest.cells.toList := by
        rw [cell?, Option.join_eq_some_iff] at found
        exact List.mem_of_getElem? (by simpa using found)
      exact List.mem_flatMap.mpr ⟨some cell, listed, by simpa using within⟩

theorem cell?_sweepOnce (held : NodeId → Bool) :
    (forest.sweepOnce held).cell? node =
      if held node || forest.containedNodes.contains node then forest.cell? node else none := by
  rw [cell?, sweepOnce, Array.getElem?_mapIdx, cell?]
  cases forest.cells[node]? with
  | none => simp
  | some entry => split <;> simp_all

@[simp]
theorem nextId_sweepOnce (held : NodeId → Bool) :
    (forest.sweepOnce held).nextId = forest.nextId := by
  simp [nextId, sweepOnce]

/-- What a sweep leaves: some cells as they were, and with a cell all that it contains. -/
structure Swept (forest after : Forest) : Prop where
  cells : ∀ node cell, after.cell? node = some cell → forest.cell? node = some cell
  contents : ∀ container feature child, child ∈ after.childrenOf container feature →
    after.cell? child = forest.cell? child
  nextId : after.nextId = forest.nextId

theorem Swept.childrenOf_sublist (swept : forest.Swept after) :
    (after.childrenOf container feature).Sublist (forest.childrenOf container feature) := by
  cases found : after.cell? container with
  | none => simp [childrenOf, found]
  | some cell => simp [childrenOf, found, swept.cells container cell found]

theorem Swept.parent?_eq_some (swept : forest.Swept after)
    (found : after.parent? node = some container) : forest.parent? node = some container := by
  obtain ⟨link, alive⟩ := parent?_eq_some_iff.mp found
  obtain ⟨cell, present, linked⟩ := Option.bind_eq_some_iff.mp link
  obtain ⟨above, there⟩ := Option.isSome_iff_exists.mp alive
  refine parent?_eq_some_iff.mpr ⟨?_, ?_⟩
  · rw [parentLink?, swept.cells node cell present]
    exact linked
  · rw [isAlive, swept.cells container above there]
    rfl

theorem Swept.refl (forest : Forest) : forest.Swept forest :=
  ⟨fun _ _ found => found, fun _ _ _ _ => rfl, rfl⟩

theorem Swept.trans {middle : Forest} (first : forest.Swept middle) (second : middle.Swept after) :
    forest.Swept after where
  cells node cell found := first.cells node cell (second.cells node cell found)
  contents container feature child member := by
    rw [second.contents container feature child member]
    exact first.contents container feature child (second.childrenOf_sublist.subset member)
  nextId := second.nextId.trans first.nextId

theorem swept_sweepOnce (held : NodeId → Bool) : forest.Swept (forest.sweepOnce held) := by
  have cells : ∀ node cell, (forest.sweepOnce held).cell? node = some cell →
      forest.cell? node = some cell := by
    intro node cell found
    rw [cell?_sweepOnce] at found
    split at found
    · exact found
    · cases found
  refine ⟨cells, fun container feature child member => ?_, nextId_sweepOnce held⟩
  have before : child ∈ forest.childrenOf container feature := by
    cases found : (forest.sweepOnce held).cell? container with
    | none => simp [childrenOf, found] at member
    | some cell =>
        rw [childrenOf, found] at member
        rw [childrenOf, cells container cell found]
        exact member
  have kept : forest.containedNodes.contains child = true := by
    simpa using mem_containedNodes before
  rw [cell?_sweepOnce, kept, Bool.or_true, if_pos rfl]

theorem swept_sweepRounds (held : NodeId → Bool) (rounds : Nat) :
    forest.Swept (forest.sweepRounds held rounds) := by
  induction rounds generalizing forest with
  | zero => exact Swept.refl forest
  | succ rounds ih =>
      simp only [sweepRounds]
      split
      · exact Swept.refl forest
      · exact (swept_sweepOnce held).trans ih

theorem cell?_sweepRounds_of_held {held : NodeId → Bool} (kept : held node = true)
    (rounds : Nat) : (forest.sweepRounds held rounds).cell? node = forest.cell? node := by
  induction rounds generalizing forest with
  | zero => rfl
  | succ rounds ih =>
      simp only [sweepRounds]
      split
      · rfl
      · rw [ih, cell?_sweepOnce, kept, Bool.true_or, if_pos rfl]

theorem cell?_discardSince_of_lt {mark : NodeId} (old : node < mark) :
    (forest.discardSince mark).cell? node = forest.cell? node :=
  cell?_sweepRounds_of_held (decide_eq_true old) _

theorem nextId_discardSince {mark : NodeId} :
    (forest.discardSince mark).nextId = forest.nextId :=
  (swept_sweepRounds _ _).nextId

theorem Linked.swept (linked : forest.Linked) (swept : forest.Swept after) : after.Linked := by
  refine linked.mono (fun _ _ => swept.childrenOf_sublist) ?_ fun _ _ => swept.parent?_eq_some
  intro container feature child member
  rw [parentLink?, swept.contents container feature child member, parentLink?]

end Forest

end TypedTree
