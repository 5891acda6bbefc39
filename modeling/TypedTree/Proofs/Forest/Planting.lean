import TypedTree.Proofs.Forest.Placing
import TypedTree.Proofs.Forest.Trees

namespace TypedTree

theorem Cell.Conforms.names {cell : Cell} (conforms : cell.Conforms) :
    cell.slots.map Prod.fst = cell.concept.features.map (·.name) := by
  rw [← List.forall₂_eq_eq_eq, List.forall₂_map_left_iff, List.forall₂_map_right_iff]
  exact conforms.imp fun _ _ fitting => fitting.1

theorem Cell.Bare.children_eq {cell : Cell} (bare : cell.Bare) : cell.children = [] := by
  refine List.eq_nil_iff_forall_not_mem.mpr fun child contained => ?_
  obtain ⟨feature, held⟩ := Cell.mem_children_iff.mp contained
  rw [bare.childless feature] at held
  cases held

namespace Forest

variable {forest grown before after : Forest} {node child floor mark base : NodeId} {cell : Cell}
  {roots others nodes more children : List NodeId} {feature : Feature} {rest : List Feature}

/-- The nodes from `floor` on are the same in both forests, as far as the first has them. -/
structure Keeps (floor : NodeId) (before after : Forest) : Prop where
  cells : ∀ node, floor ≤ node → node < before.nextId → after.cell? node = before.cell? node
  nextId : before.nextId ≤ after.nextId

theorem Keeps.refl (floor : NodeId) (forest : Forest) : Keeps floor forest forest :=
  ⟨fun _ _ _ => rfl, Nat.le_refl _⟩

theorem Keeps.trans (first : Keeps floor before forest) (second : Keeps floor forest after) :
    Keeps floor before after where
  cells node above old :=
    (second.cells node above (Nat.lt_of_lt_of_le old first.nextId)).trans
      (first.cells node above old)
  nextId := Nat.le_trans first.nextId second.nextId

theorem Keeps.add (keeps : Keeps floor before forest) (cell : Cell) :
    Keeps floor before (forest.add cell).2 where
  cells node above old := by
    rw [cell?_add_of_ne forest cell (Nat.ne_of_lt (Nat.lt_of_lt_of_le old keeps.nextId))]
    exact keeps.cells node above old
  nextId := by
    rw [nextId_add]
    exact Nat.le_succ_of_le keeps.nextId

theorem Keeps.modify (keeps : Keeps floor before forest) (new : before.nextId ≤ node)
    (change : Cell → Cell) : Keeps floor before (forest.modify node change) where
  cells other above old := by
    rw [cell?_modify, if_neg (Nat.ne_of_lt (Nat.lt_of_lt_of_le old new))]
    exact keeps.cells other above old
  nextId := by
    rw [nextId_modify]
    exact keeps.nextId

theorem Keeps.discardSince (keeps : Keeps floor before forest) :
    Keeps floor before (forest.discardSince before.nextId) where
  cells node above old := by
    rw [cell?_discardSince_of_lt old]
    exact keeps.cells node above old
  nextId := by
    rw [nextId_discardSince]
    exact keeps.nextId

/-- The trees at `roots` have the nodes `nodes`, all different and made from `mark` on. -/
structure Planted (forest : Forest) (mark : NodeId) (roots nodes : List NodeId) : Prop
    extends Trees forest roots nodes where
  within : ∀ node ∈ nodes, mark ≤ node ∧ node < forest.nextId
  distinct : nodes.Nodup

theorem Planted.nil (forest : Forest) (mark : NodeId) : forest.Planted mark [] [] where
  toTrees := .nil forest
  within := nofun
  distinct := .nil

/-- More trees are planted, and those that are there stay. -/
theorem Planted.extend (planted : forest.Planted mark roots nodes)
    (same : ∀ node ∈ nodes, after.cell? node = forest.cell? node)
    (later : after.Planted forest.nextId others more) (below : mark ≤ forest.nextId)
    (grows : forest.nextId ≤ after.nextId) :
    after.Planted mark (roots ++ others) (nodes ++ more) where
  toTrees := (planted.toTrees.congr same).append later.toTrees
  within node member := by
    rcases List.mem_append.mp member with old | new
    · obtain ⟨since, known⟩ := planted.within node old
      exact ⟨since, Nat.lt_of_lt_of_le known grows⟩
    · obtain ⟨since, known⟩ := later.within node new
      exact ⟨Nat.le_trans below since, known⟩
  distinct := by
    refine List.nodup_append'.mpr ⟨planted.distinct, later.distinct, fun node old new => ?_⟩
    exact Nat.not_lt_of_le (later.within node new).1 (planted.within node old).2

theorem Planted.over (below : forest.Planted base (forest.children node) nodes)
    (older : node < base) (since : mark ≤ node) (known : node < forest.nextId) :
    forest.Planted mark [node] (node :: nodes) where
  toTrees := below.toTrees.over
  within inner member := by
    rcases List.mem_cons.mp member with rfl | inside
    · exact ⟨since, known⟩
    · obtain ⟨late, isKnown⟩ := below.within inner inside
      exact ⟨Nat.le_trans since (Nat.le_trans (Nat.le_of_lt older) late), isKnown⟩
  distinct := by
    refine List.nodup_cons.mpr ⟨fun inside => ?_, below.distinct⟩
    exact Nat.not_lt_of_le (below.within node inside).1 older

theorem Planted.single (since : mark ≤ node) (known : node < forest.nextId)
    (childless : forest.children node = []) : forest.Planted mark [node] [node] := by
  have nothing : forest.Planted (node + 1) (forest.children node) [] := by
    rw [childless]
    exact .nil forest _
  exact nothing.over (Nat.lt_succ_self node) since known

/-- The node holds trees that were made from `base` on, and the features `rest` hold nothing
yet. The slots that do hold something come before. -/
structure Filling (forest : Forest) (base node : NodeId) (rest : List Feature)
    (nodes : List NodeId) : Prop where
  older : node < base
  reached : base ≤ forest.nextId
  slots : ∃ cell filled vacant, forest.cell? node = some cell ∧ cell.slots = filled ++ vacant ∧
    vacant.flatMap (·.2.contained) = [] ∧ (rest.map (·.name)).Sublist (vacant.map Prod.fst)
  planted : forest.Planted base (forest.children node) nodes

theorem filling_childless (found : forest.cell? node = some cell) (conforms : cell.Conforms)
    (childless : cell.children = []) (coming : rest.Sublist cell.concept.features) :
    forest.Filling forest.nextId node rest [] where
  older := lt_nextId_of_isAlive (by simp [isAlive, found])
  reached := Nat.le_refl _
  slots := by
    refine ⟨cell, [], cell.slots, found, rfl, childless, ?_⟩
    rw [conforms.names]
    exact coming.map _
  planted := by
    have none : forest.children node = [] := by simpa [Forest.children, found] using childless
    rw [none]
    exact .nil forest _

/-- The next feature has a slot that holds nothing, and neither do those after it. -/
theorem Filling.vacancy (filling : forest.Filling base node (feature :: rest) nodes) :
    ∃ cell first slot last, forest.cell? node = some cell ∧
      cell.slots = first ++ (feature.name, slot) :: last ∧ slot.contained = [] ∧
      last.flatMap (·.2.contained) = [] ∧ (rest.map (·.name)).Sublist (last.map Prod.fst) := by
  obtain ⟨cell, filled, vacant, found, slots, empty, coming⟩ := filling.slots
  rw [List.map_cons, List.cons_sublist_iff] at coming
  obtain ⟨front, back, names, here, coming⟩ := coming
  obtain ⟨early, late, rfl, rfl, rfl⟩ := List.map_eq_append_iff.mp names
  obtain ⟨⟨name, slot⟩, member, rfl⟩ := List.mem_map.mp here
  obtain ⟨skipped, remaining, rfl⟩ := List.append_of_mem member
  simp only [List.flatMap_append, List.flatMap_cons, List.append_eq_nil_iff] at empty
  obtain ⟨⟨-, slotEmpty, remainingEmpty⟩, lateEmpty⟩ := empty
  refine ⟨cell, filled ++ skipped, slot, remaining ++ late, found, ?_, slotEmpty, ?_, ?_⟩
  · rw [slots]
    simp
  · rw [List.flatMap_append, remainingEmpty, lateEmpty, List.append_nil]
  · rw [List.map_append]
    exact coming.trans (List.sublist_append_right _ _)

theorem Filling.cell?_held (filling : forest.Filling base node rest nodes)
    (keeps : Keeps floor forest grown) (low : floor ≤ node) (change : Cell → Cell) :
    ∀ inner ∈ nodes, (grown.modify node change).cell? inner = forest.cell? inner := by
  intro inner member
  obtain ⟨late, known⟩ := filling.planted.within inner member
  have later : node < inner := Nat.lt_of_lt_of_le filling.older late
  rw [cell?_modify, if_neg (Nat.ne_of_gt later)]
  exact keeps.cells inner (Nat.le_trans low (Nat.le_of_lt later)) known

theorem Filling.cell?_made (filling : forest.Filling base node rest nodes)
    (planted : grown.Planted forest.nextId children more) (change : Cell → Cell) :
    ∀ inner ∈ more, (grown.modify node change).cell? inner = grown.cell? inner := by
  intro inner member
  have late := Nat.le_trans filling.reached (planted.within inner member).1
  rw [cell?_modify, if_neg (Nat.ne_of_gt (Nat.lt_of_lt_of_le filling.older late))]

section

variable (filling : forest.Filling base node (feature :: rest) nodes)
  (keeps : Keeps floor forest grown) (low : floor ≤ node)
  (planted : grown.Planted forest.nextId children more)
include filling keeps low planted

/-- The next feature takes in trees that were just made. -/
theorem Filling.fill {change : Slot → Slot}
    (holds : (grown.modify node (·.changeSlot feature.name change)).childrenOf node feature.name =
      children) :
    (grown.modify node (·.changeSlot feature.name change)).Filling base node rest
      (nodes ++ more) := by
  obtain ⟨cell, first, slot, last, found, slots, empty, lastEmpty, coming⟩ := filling.vacancy
  have foundNow : grown.cell? node = some cell :=
    (keeps.cells node low (Nat.lt_of_lt_of_le filling.older filling.reached)).trans found
  have slotsAfter := Cell.slots_changeSlot slots change
  have entry : (feature.name, change slot) ∈ (cell.changeSlot feature.name change).slots := by
    rw [slotsAfter]
    exact List.mem_append_right _ List.mem_cons_self
  rw [childrenOf_modify_self, foundNow, Option.map_some, Option.getD_some,
    Cell.childrenOf_of_mem entry] at holds
  have foundAfter : (grown.modify node (·.changeSlot feature.name change)).cell? node =
      some (cell.changeSlot feature.name change) := by
    rw [cell?_modify, if_pos rfl, foundNow, Option.map_some]
  have held : (grown.modify node (·.changeSlot feature.name change)).children node =
      forest.children node ++ children := by
    rw [Forest.children, Forest.children, foundAfter, found]
    simp [Cell.children, slotsAfter, slots, holds, empty, lastEmpty]
  refine ⟨filling.older, ?_, ?_, ?_⟩
  · rw [nextId_modify]
    exact Nat.le_trans filling.reached keeps.nextId
  · refine ⟨_, first ++ [(feature.name, change slot)], last, foundAfter, ?_, lastEmpty, coming⟩
    rw [slotsAfter, List.append_assoc, List.singleton_append]
  · rw [held]
    refine filling.planted.extend (filling.cell?_held keeps low _)
      ⟨planted.toTrees.congr (filling.cell?_made planted _), ?_, planted.distinct⟩
      filling.reached ?_
    · rw [nextId_modify]
      exact planted.within
    · rw [nextId_modify]
      exact keeps.nextId

theorem Filling.attach (linked : ∀ child ∈ children, grown.parentLink? child = some node)
    (placement : Placement) :
    grown.attach node feature.name children placement =
      grown.modify node (·.changeSlot feature.name (·.place children placement)) := by
  obtain ⟨cell, first, slot, last, found, slots, empty, _⟩ := filling.vacancy
  have foundNow : grown.cell? node = some cell :=
    (keeps.cells node low (Nat.lt_of_lt_of_le filling.older filling.reached)).trans found
  have held : cell.slot? feature.name = some slot := by
    refine Registry.mem_entries_iff.mp (?_ : (feature.name, slot) ∈ cell.slots)
    rw [slots]
    exact List.mem_append_right _ List.mem_cons_self
  refine attach_of_absent foundNow (planted.toTrees.nodup_roots planted.distinct) linked
    (fun child member => ?_) held empty
  have late := (planted.within child (planted.mem_of_root member)).1
  refine ⟨Nat.ne_of_gt (Nat.lt_of_lt_of_le filling.older (Nat.le_trans filling.reached late)),
    fun name contained => ?_⟩
  have inside : child ∈ forest.children node := by
    rw [Forest.children, found]
    exact Cell.mem_children_iff.mpr ⟨name, contained⟩
  exact Nat.not_lt_of_le late (filling.planted.within child (filling.planted.mem_of_root inside)).2

end

end Forest

end TypedTree
