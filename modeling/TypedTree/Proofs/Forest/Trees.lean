import TypedTree.Proofs.Forest.Containment

namespace TypedTree.Forest

variable {forest after : Forest} {node : NodeId} {roots others nodes more : List NodeId}

/-- The trees at `roots` have the nodes `nodes`, in the order of a walk. -/
structure Trees (forest : Forest) (roots nodes : List NodeId) : Prop where
  walk : ∀ depth ≥ nodes.length, roots.flatMap (forest.walkTo depth) = nodes
  closed : ∀ node ∈ nodes, ∀ child ∈ forest.children node, child ∈ nodes

theorem mem_walkTo_succ (depth : Nat) : node ∈ forest.walkTo (depth + 1) node :=
  List.mem_cons_self

theorem Trees.mem_of_root (trees : forest.Trees roots nodes) (root : node ∈ roots) :
    node ∈ nodes := by
  rw [← trees.walk (nodes.length + 1) (Nat.le_succ _)]
  exact List.mem_flatMap.mpr ⟨node, root, mem_walkTo_succ _⟩

theorem sublist_flatMap_walkTo (depth : Nat) (roots : List NodeId) :
    roots.Sublist (roots.flatMap (forest.walkTo (depth + 1))) := by
  induction roots with
  | nil => exact .slnil
  | cons root rest ih =>
      rw [List.flatMap_cons, walkTo, List.cons_append]
      exact (ih.trans (List.sublist_append_right _ _)).cons_cons root

theorem Trees.nodup_roots (trees : forest.Trees roots nodes) (distinct : nodes.Nodup) :
    roots.Nodup := by
  rw [← trees.walk (nodes.length + 1) (Nat.le_succ _)] at distinct
  exact distinct.sublist (sublist_flatMap_walkTo _ roots)

theorem Trees.nil (forest : Forest) : forest.Trees [] [] where
  walk _ _ := rfl
  closed _ member := by cases member

theorem Trees.append (first : forest.Trees roots nodes) (second : forest.Trees others more) :
    forest.Trees (roots ++ others) (nodes ++ more) where
  walk depth enough := by
    rw [List.length_append] at enough
    rw [List.flatMap_append, first.walk depth (by omega), second.walk depth (by omega)]
  closed node member child contained := by
    rw [List.mem_append] at member ⊢
    exact member.imp (first.closed node · child contained) (second.closed node · child contained)

theorem Trees.over (below : forest.Trees (forest.children node) nodes) :
    forest.Trees [node] (node :: nodes) where
  walk depth enough := by
    rw [List.length_cons] at enough
    obtain ⟨levels, rfl⟩ : ∃ levels, depth = levels + 1 := ⟨depth - 1, by omega⟩
    rw [List.flatMap_singleton, walkTo, below.walk levels (by omega)]
  closed inner member child contained := by
    rcases List.mem_cons.mp member with rfl | inside
    · exact List.mem_cons_of_mem _ (below.mem_of_root contained)
    · exact List.mem_cons_of_mem _ (below.closed inner inside child contained)

theorem Trees.walk_eq (trees : forest.Trees [node] nodes) (distinct : nodes.Nodup)
    (known : ∀ inner ∈ nodes, inner < forest.nextId) : forest.walk node = nodes := by
  have few : nodes.length ≤ forest.nextId := by
    have within : nodes ⊆ List.range forest.nextId := fun inner member =>
      List.mem_range.mpr (known inner member)
    have bounded := (distinct.subperm within).length_le
    rwa [List.length_range] at bounded
  rw [← trees.walk forest.nextId few, List.flatMap_singleton]
  rfl

section

variable (same : ∀ node ∈ nodes, after.cell? node = forest.cell? node)
include same

theorem Trees.walkTo_eq (trees : forest.Trees roots nodes) (member : node ∈ nodes)
    (depth : Nat) : after.walkTo depth node = forest.walkTo depth node := by
  induction depth generalizing node with
  | zero => rfl
  | succ depth ih =>
      have children : after.children node = forest.children node := by
        rw [children, children, same node member]
      rw [walkTo, walkTo, children]
      congr 1
      exact List.flatMap_congr fun child contained => ih (trees.closed node member child contained)

theorem Trees.congr (trees : forest.Trees roots nodes) : after.Trees roots nodes where
  walk depth enough := by
    refine Eq.trans ?_ (trees.walk depth enough)
    exact List.flatMap_congr fun root member =>
      trees.walkTo_eq same (trees.mem_of_root member) depth
  closed node member child contained := by
    rw [children, same node member] at contained
    exact trees.closed node member child contained

end

end TypedTree.Forest
