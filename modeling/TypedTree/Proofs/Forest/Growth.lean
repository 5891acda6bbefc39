import Mathlib.Data.List.Pairwise
import TypedTree.Proofs.Forest.History
import TypedTree.Proofs.Forest.Placing
import TypedTree.Proofs.Forest.Trees
import TypedTree.Proofs.Transform.Draft

namespace TypedTree.Forest

/-! # New trees in a forest

Trees that are made one after the other fill consecutive numbers. `Grown` says of such a
run of numbers that it belongs to the trees at certain roots, in the order in which the
trees are walked, and that every link in it leads to the container.
-/

variable {forest after before : Forest} {node parent child : NodeId} {cell : Cell}
  {feature : String} {roots others : List NodeId} {mark size more : Nat}

/-- `after` has the nodes of `forest` as they were, and perhaps others. -/
structure Extends (forest after : Forest) : Prop where
  cells : ∀ node < forest.nextId, after.cell? node = forest.cell? node
  handles : after.handles = forest.handles
  nextId : forest.nextId ≤ after.nextId

theorem Extends.refl (forest : Forest) : forest.Extends forest :=
  ⟨fun _ _ => rfl, rfl, Nat.le_refl _⟩

theorem Extends.trans (first : before.Extends forest) (second : forest.Extends after) :
    before.Extends after where
  cells node old :=
    (second.cells node (Nat.lt_of_lt_of_le old first.nextId)).trans (first.cells node old)
  handles := second.handles.trans first.handles
  nextId := Nat.le_trans first.nextId second.nextId

theorem Extends.add (forest : Forest) (cell : Cell) : forest.Extends (forest.add cell).2 where
  cells node old := cell?_add_of_ne forest cell (Nat.ne_of_lt old)
  handles := rfl
  nextId := by
    rw [nextId_add]
    exact Nat.le_succ _

theorem Extends.modify (extended : before.Extends forest) (new : before.nextId ≤ node)
    (change : Cell → Cell) : before.Extends (forest.modify node change) where
  cells other old := by
    rw [cell?_modify, if_neg (Nat.ne_of_lt (Nat.lt_of_lt_of_le old new))]
    exact extended.cells other old
  handles := (handles_modify _ _ _).trans extended.handles
  nextId := by
    rw [nextId_modify]
    exact extended.nextId

/-- Links lead to nodes that were made before. -/
def LinksKnown (forest : Forest) : Prop :=
  ∀ node parent, forest.parentLink? node = some parent → parent < forest.nextId

theorem index_unique_of_nodup {container : NodeId} {first second : String}
    {firstIndex secondIndex : Nat} (distinct : (forest.children container).Nodup)
    (here : (forest.childrenOf container first)[firstIndex]? = some child)
    (there : (forest.childrenOf container second)[secondIndex]? = some child) :
    first = second ∧ firstIndex = secondIndex := by
  cases found : forest.cell? container with
  | none => simp [childrenOf, found] at here
  | some cell =>
      have slots : cell.children.Nodup := by simpa [children, found] using distinct
      rw [Cell.children, List.nodup_flatMap] at slots
      have held : ∀ name, child ∈ forest.childrenOf container name →
          ∃ slot, (name, slot) ∈ cell.slots ∧
            forest.childrenOf container name = slot.contained := by
        intro name member
        rw [childrenOf, found] at member
        cases present : cell.slot? name with
        | none => simp [Cell.childrenOf, present] at member
        | some slot =>
            have entry : (name, slot) ∈ cell.slots := Registry.mem_entries_iff.mpr present
            exact ⟨slot, entry, by rw [childrenOf, found]; exact Cell.childrenOf_of_mem entry⟩
      obtain ⟨slot, inSlots, contents⟩ := held first (List.mem_of_getElem? here)
      refine index_unique (contents ▸ slots.1 _ inSlots) (fun inFirst inSecond => ?_) here there
      obtain ⟨other, alsoInSlots, otherContents⟩ := held second inSecond
      by_contra different
      have symmetric : Std.Symm (Function.onFun List.Disjoint
          fun slot : String × Slot => slot.2.contained) :=
        ⟨fun _ _ disjoint _ inSecond inFirst => disjoint inFirst inSecond⟩
      have apart := slots.2.forall inSlots alsoInSlots
        fun same => different (congrArg Prod.fst same)
      rw [contents] at inFirst
      rw [otherContents] at inSecond
      exact apart inFirst inSecond

/-- The trees at `roots` have the `size` nodes from `mark` on, in the order of a walk. -/
structure Grown (forest : Forest) (roots : List NodeId) (mark size : Nat) : Prop
    extends Trees forest roots (List.range' mark size) where
  links : ∀ node ∈ List.range' mark size, ∀ child ∈ forest.children node,
    forest.parentLink? child = some node
  distinct : ∀ node ∈ List.range' mark size, (forest.children node).Nodup

theorem Grown.nodup_roots (grown : forest.Grown roots mark size) : roots.Nodup :=
  grown.toTrees.nodup_roots List.nodup_range'

theorem Grown.nil (forest : Forest) (mark : Nat) : forest.Grown [] mark 0 where
  toTrees := .nil forest
  links _ member := by cases member
  distinct _ member := by cases member

theorem Grown.append (first : forest.Grown roots mark size)
    (second : forest.Grown others (mark + size) more) :
    forest.Grown (roots ++ others) mark (size + more) where
  toTrees := by
    rw [← List.range'_append_1]
    exact first.toTrees.append second.toTrees
  links node member := by
    rw [← List.range'_append_1, List.mem_append] at member
    exact member.elim (first.links node) (second.links node)
  distinct node member := by
    rw [← List.range'_append_1, List.mem_append] at member
    exact member.elim (first.distinct node) (second.distinct node)

theorem Grown.over (found : forest.cell? node = some cell)
    (below : forest.Grown cell.children (node + 1) size)
    (linked : ∀ child ∈ cell.children, forest.parentLink? child = some node) :
    forest.Grown [node] node (size + 1) := by
  have children : forest.children node = cell.children := by simp [children, found]
  rw [← children] at below linked
  refine ⟨?_, fun inner member => ?_, fun inner member => ?_⟩
  · rw [List.range'_succ]
    exact below.toTrees.over
  · rw [List.range'_succ, List.mem_cons] at member
    rcases member with rfl | inside
    · exact linked
    · exact below.links inner inside
  · rw [List.range'_succ, List.mem_cons] at member
    rcases member with rfl | inside
    · exact below.nodup_roots
    · exact below.distinct inner inside

section

variable (same : ∀ node ∈ List.range' mark size, after.cell? node = forest.cell? node)
include same

theorem Grown.sketchTo_eq (grown : forest.Grown roots mark size)
    (member : node ∈ List.range' mark size) (depth : Nat) :
    after.sketchTo depth node = forest.sketchTo depth node := by
  induction depth generalizing node with
  | zero => rfl
  | succ depth ih =>
      rw [sketchTo, sketchTo, same node member]
      cases found : forest.cell? node with
      | none => rfl
      | some cell =>
          have parts : cell.slots.map (fun slot => (slot.1, slot.2.toPart (after.sketchTo depth))) =
              cell.slots.map fun slot => (slot.1, slot.2.toPart (forest.sketchTo depth)) := by
            refine List.map_congr_left fun slot inSlots => ?_
            refine Prod.ext rfl (Slot.toPart_congr fun child contained => ?_)
            rw [← Cell.childrenOf_of_mem inSlots] at contained
            refine ih (grown.closed node member child (mem_children_iff.mpr ⟨slot.1, ?_⟩))
            rwa [childrenOf, found]
          rw [Option.map_some, Option.map_some, parts]

theorem Grown.congr (grown : forest.Grown roots mark size) : after.Grown roots mark size where
  toTrees := grown.toTrees.congr same
  links node member child contained := by
    rw [children, same node member] at contained
    rw [parentLink?, same child (grown.closed node member child contained)]
    exact grown.links node member child contained
  distinct node member := by
    rw [children, same node member]
    exact grown.distinct node member

end

end TypedTree.Forest
