import TypedTree.Proofs.Forest.Paths
import TypedTree.Proofs.Forest.Planting

namespace TypedTree.Forest

/-! # Walking with a stack

A tree can be walked without recursion: a stack holds what is still to be visited, and the
node on top is replaced by what it contains. In a forest made by its operations this comes to
an end, and the nodes come in the order in which the recursive walk has them. That order is
read off the slots, from above to below; the ancestors of a node are read off the links, from
below to above. Both describe one tree.
-/

variable {forest : Forest} {top node child other : NodeId} {nodes more stack : List NodeId}
  {depth : Nat}

/-- The nodes still to be visited, the next one first. -/
structure Walker where
  stack : List NodeId

namespace Walker

/-- Visits the node on top and puts what it contains in its place. -/
def next? (forest : Forest) (walker : Walker) : Option (NodeId × Walker) :=
  match walker.stack with
  | [] => none
  | node :: rest => some (node, ⟨forest.children node ++ rest⟩)

/-- The walker visits `nodes`, one after the other, and then has nothing more to visit. -/
inductive Visits (forest : Forest) : Walker → List NodeId → Prop where
  | ended {walker : Walker} (stopped : walker.next? forest = none) : Visits forest walker []
  | next {walker later : Walker} {node : NodeId} {nodes : List NodeId}
      (visited : walker.next? forest = some (node, later)) (rest : Visits forest later nodes) :
      Visits forest walker (node :: nodes)

/-- A walker has one course only. -/
theorem Visits.unique {walker : Walker} (first : Visits forest walker nodes)
    (second : Visits forest walker more) : nodes = more := by
  induction first generalizing more with
  | ended stopped =>
      cases second with
      | ended _ => rfl
      | next visited _ => cases stopped.symm.trans visited
  | next visited _ ih =>
      cases second with
      | ended stopped => cases stopped.symm.trans visited
      | next alsoVisited rest =>
          cases visited.symm.trans alsoVisited
          rw [ih rest]

end Walker

namespace TreeShaped

variable (shaped : forest.TreeShaped)
include shaped

theorem parent?_of_mem_children (contained : child ∈ forest.children node) :
    forest.parent? child = some node := by
  obtain ⟨feature, held⟩ := mem_children_iff.mp contained
  obtain ⟨index, place⟩ := List.mem_iff_getElem?.mp held
  exact shaped.contained place

theorem isAlive_of_mem_children (contained : child ∈ forest.children node) :
    forest.isAlive child = true :=
  isAlive_of_parent?_eq_some (shaped.parent?_of_mem_children contained)

/-- Below a node there are at most as many levels as there may still be nodes. -/
theorem deep_of_mem_children (deep : depth + 1 + (forest.ancestors node).length ≥ forest.nextId)
    (contained : child ∈ forest.children node) :
    depth + (forest.ancestors child).length ≥ forest.nextId := by
  rw [shaped.grounded.ancestors_of_parent? (shaped.parent?_of_mem_children contained),
    List.length_cons]
  omega

theorem depth_pos (alive : forest.isAlive node = true)
    (deep : depth + (forest.ancestors node).length ≥ forest.nextId) : 0 < depth := by
  have bounded := shaped.grounded.length_ancestors_lt alive
  omega

theorem walkTo_succ (alive : forest.isAlive node = true)
    (deep : depth + (forest.ancestors node).length ≥ forest.nextId) :
    forest.walkTo (depth + 1) node = forest.walkTo depth node := by
  induction depth generalizing node with
  | zero => exact absurd (shaped.depth_pos alive deep) (Nat.lt_irrefl 0)
  | succ depth ih =>
      rw [walkTo, walkTo]
      refine congrArg (node :: ·) (List.flatMap_congr fun child contained => ?_)
      exact ih (shaped.isAlive_of_mem_children contained)
        (shaped.deep_of_mem_children deep contained)

/-- From some depth on, looking deeper shows nothing more. -/
theorem walkTo_eq_walk (alive : forest.isAlive node = true) (within : depth ≤ forest.nextId)
    (deep : depth + (forest.ancestors node).length ≥ forest.nextId) :
    forest.walkTo depth node = forest.walk node := by
  obtain ⟨further, isFurther⟩ := Nat.exists_eq_add_of_le within
  rw [walk, isFurther]
  clear isFurther within
  induction further with
  | zero => rfl
  | succ further ih =>
      rw [ih, ← Nat.add_assoc]
      exact (shaped.walkTo_succ alive (by omega)).symm

theorem walk_eq_cons (alive : forest.isAlive node = true) :
    forest.walk node = node :: (forest.children node).flatMap forest.walk := by
  obtain ⟨depth, levels⟩ : ∃ depth : Nat, depth + 1 = forest.nextId :=
    Nat.exists_add_one_eq.mpr (Nat.zero_lt_of_lt (lt_nextId_of_isAlive alive))
  rw [walk, ← levels, walkTo]
  refine congrArg (node :: ·) (List.flatMap_congr fun child contained => ?_)
  refine shaped.walkTo_eq_walk (shaped.isAlive_of_mem_children contained) (by omega) ?_
  exact shaped.deep_of_mem_children (by omega) contained

theorem visits_walkTo (alive : forest.isAlive node = true)
    (deep : depth + (forest.ancestors node).length ≥ forest.nextId)
    (later : Walker.Visits forest ⟨stack⟩ more) :
    Walker.Visits forest ⟨node :: stack⟩ (forest.walkTo depth node ++ more) := by
  induction depth generalizing node stack more with
  | zero => exact absurd (shaped.depth_pos alive deep) (Nat.lt_irrefl 0)
  | succ depth ih =>
      -- The children lie on the stack above what was there, and are visited one by one.
      have below (children : List NodeId) (contained : children ⊆ forest.children node) :
          Walker.Visits forest ⟨children ++ stack⟩
            (children.flatMap (forest.walkTo depth) ++ more) := by
        induction children with
        | nil => exact later
        | cons child rest inner =>
            have member := contained List.mem_cons_self
            rw [List.flatMap_cons, List.append_assoc]
            exact ih (shaped.isAlive_of_mem_children member)
              (shaped.deep_of_mem_children deep member)
              (inner (List.subset_of_cons_subset contained))
      exact .next rfl (below _ (List.Subset.refl _))

theorem visits_walk (alive : forest.isAlive top = true) :
    Walker.Visits forest ⟨[top]⟩ (forest.walk top) := by
  have course := shaped.visits_walkTo alive (Nat.le_add_right forest.nextId _)
    (.ended rfl : Walker.Visits forest ⟨[]⟩ [])
  rwa [List.append_nil] at course

theorem isAlive_of_mem_walk (alive : forest.isAlive top = true)
    (inside : node ∈ forest.walk top) : forest.isAlive node = true := by
  obtain ⟨path, leads⟩ := (shaped.mem_walk_iff alive).mp inside
  exact shaped.isAlive_of_leads leads alive

theorem mem_walk_iff_mem_ancestors (alive : forest.isAlive top = true) :
    node ∈ forest.walk top ↔
      forest.isAlive node = true ∧ (node = top ∨ top ∈ forest.ancestors node) := by
  rw [(shaped.ancestors node).1, ← shaped.mem_walk_iff_isAncestor alive]
  exact ⟨fun inside => ⟨shaped.isAlive_of_mem_walk alive inside, inside⟩, And.right⟩

theorem root_of_mem_walk (alive : forest.isAlive top = true) (inside : node ∈ forest.walk top) :
    forest.root node = forest.root top := by
  have last (node : NodeId) :
      some (forest.root node) = (node :: forest.ancestors node).getLast? := by
    rw [root, List.getLast?_cons]
  obtain ⟨path, leads⟩ := (shaped.mem_walk_iff alive).mp inside
  obtain ⟨between, _, chain⟩ := shaped.ancestors_of_leads leads
  have same := last node
  rw [chain, List.getLast?_append_cons, ← last top] at same
  exact Option.some.inj same

theorem not_isAncestor_of_mem_walk (alive : forest.isAlive top = true)
    (inside : node ∈ forest.walk top) : ¬ forest.IsAncestor node top := by
  intro above
  rcases (shaped.mem_walk_iff_isAncestor alive).mp inside with rfl | below
  · exact shaped.acyclic node above
  · exact shaped.acyclic node (above.trans below)

theorem pairwise_walkTo (alive : forest.isAlive top = true) (within : depth ≤ forest.nextId)
    (deep : depth + (forest.ancestors top).length ≥ forest.nextId) :
    (forest.walkTo depth top).Pairwise fun earlier later => later ∉ forest.ancestors earlier := by
  have distinct := shaped.nodup_walkTo depth top
  have whole := shaped.walkTo_eq_walk alive within deep
  induction depth generalizing top with
  | zero => exact .nil
  | succ depth ih =>
      have subtree {child : NodeId} (contained : child ∈ forest.children top) :
          forest.walkTo depth child = forest.walk child :=
        shaped.walkTo_eq_walk (shaped.isAlive_of_mem_children contained) (by omega)
          (shaped.deep_of_mem_children deep contained)
      rw [walkTo, List.nodup_cons, List.nodup_flatMap] at distinct
      rw [walkTo] at whole ⊢
      refine List.pairwise_cons.mpr ⟨fun later below above => ?_, List.pairwise_flatMap.mpr ⟨?_, ?_⟩⟩
      · have inside : later ∈ forest.walk top := whole ▸ List.mem_cons_of_mem _ below
        exact shaped.not_isAncestor_of_mem_walk alive inside (((shaped.ancestors top).1 later).mp above)
      · intro child contained
        have there := shaped.isAlive_of_mem_children contained
        exact ih there (by omega) (shaped.deep_of_mem_children deep contained)
          (distinct.2.1 child contained) (subtree contained)
      · -- A node above another one has it in its subtree, and subtrees of siblings are apart.
        refine distinct.2.2.imp_of_mem fun {first second} inFirst inSecond apart => ?_
        intro earlier below later beside above
        rw [subtree inFirst] at below
        rw [subtree inSecond] at beside
        have alsoBelow : earlier ∈ forest.walk second := by
          refine (shaped.mem_walk_iff_isAncestor (shaped.isAlive_of_mem_children inSecond)).mpr ?_
          have higher := ((shaped.ancestors earlier).1 later).mp above
          rcases (shaped.mem_walk_iff_isAncestor
            (shaped.isAlive_of_mem_children inSecond)).mp beside with rfl | between
          · exact Or.inr higher
          · exact Or.inr (between.trans higher)
        dsimp only [Function.onFun] at apart
        rw [subtree inFirst, subtree inSecond] at apart
        exact apart below alsoBelow

end TreeShaped

theorem Conforming.children_eq (conforming : forest.Conforming) {concept : Concept}
    (kind : forest.concept? node = some concept) :
    forest.children node = concept.features.flatMap fun feature =>
      forest.childrenOf node feature.name := by
  obtain ⟨cell, found, rfl⟩ := Option.map_eq_some_iff.mp kind
  have names := (conforming node cell found).names
  calc forest.children node = cell.slots.flatMap fun slot => slot.2.contained := by
        rw [children, found]
        rfl
    _ = cell.slots.flatMap fun slot => cell.childrenOf slot.1 :=
        List.flatMap_congr fun slot member => (Cell.childrenOf_of_mem member).symm
    _ = (cell.slots.map Prod.fst).flatMap cell.childrenOf := (List.flatMap_map ..).symm
    _ = cell.concept.features.flatMap fun feature => cell.childrenOf feature.name := by
        rw [names, List.flatMap_map]
    _ = _ := by simp only [childrenOf, found, Option.map_some, Option.getD_some]

/-- What a walk from `top` is. -/
structure Walked (forest : Forest) (top : NodeId) : Prop where
  /-- The stack runs empty, after the nodes of the walk and no others. -/
  visits : ∀ nodes, Walker.Visits forest ⟨[top]⟩ nodes ↔ nodes = forest.walk top
  /-- Every node is followed by the walks of what it contains, feature by feature. -/
  preorder : ∀ node ∈ forest.walk top, ∃ concept, forest.concept? node = some concept ∧
    forest.walk node = node :: concept.features.flatMap fun feature =>
      (forest.childrenOf node feature.name).flatMap forest.walk
  once : (forest.walk top).Nodup
  members : ∀ node, node ∈ forest.walk top ↔
    forest.isAlive node = true ∧ (node = top ∨ top ∈ forest.ancestors node)
  ancestorsFirst : (forest.walk top).Pairwise fun earlier later =>
    later ∉ forest.ancestors earlier
  oneRoot : ∀ node ∈ forest.walk top, forest.root node = forest.root top

theorem WellLinked.walked (wellLinked : forest.WellLinked) (alive : forest.isAlive top = true) :
    forest.Walked top where
  visits nodes := by
    have course := wellLinked.treeShaped.visits_walk alive
    exact ⟨fun other => other.unique course, fun same => same ▸ course⟩
  preorder node inside := by
    have there := wellLinked.treeShaped.isAlive_of_mem_walk alive inside
    obtain ⟨cell, found⟩ := Option.isSome_iff_exists.mp there
    have kind : forest.concept? node = some cell.concept := by rw [concept?, found]; rfl
    refine ⟨cell.concept, kind, ?_⟩
    rw [wellLinked.treeShaped.walk_eq_cons there, wellLinked.conforming.children_eq kind,
      List.flatMap_assoc]
  once := wellLinked.treeShaped.nodup_walkTo _ top
  members _ := wellLinked.treeShaped.mem_walk_iff_mem_ancestors alive
  ancestorsFirst :=
    wellLinked.treeShaped.pairwise_walkTo alive (Nat.le_refl _) (Nat.le_add_right _ _)
  oneRoot _ inside := wellLinked.treeShaped.root_of_mem_walk alive inside

/-- Over every schema and after every sequence of operations, walking from a node that is
there ends, goes through its tree in pre-order, and agrees with the chains of ancestors. -/
theorem walked_run {decls : List ConceptDecl} {schema : Schema}
    (built : Schema.build decls = .ok schema) (operations : List Operation)
    (alive : (run schema operations).isAlive top = true) :
    (run schema operations).Walked top :=
  (wellLinked_run built operations).walked alive

def crateDecls : List ConceptDecl :=
  [((ConceptDecl.named "Crate").addFeature "lid" (.child "Crate")).addFeature "items"
    (.children "Crate")]

/-- Two crates in one, of which the first gets a lid and is then moved into the second. -/
def packing : List Operation :=
  [.create "Crate", .create "Crate", .create "Crate", .create "Crate", .create "Crate",
    .edit (.setChildren 0 "items" [1, 2]), .edit (.setChild 1 "lid" (some 3)),
    .edit (.addChild 2 "items" 4), .edit (.addChild 2 "items" 1), .hold "outer" 0, .sweep []]

theorem walked_run_packed :
    ∃ schema, Schema.build crateDecls = .ok schema ∧
      (run schema packing).isAlive 0 = true ∧ (run schema packing).Walked 0 ∧
      Walker.Visits (run schema packing) ⟨[0]⟩ [0, 2, 4, 1, 3] := by
  have evaluated : ((Schema.build crateDecls).toOption.map fun schema =>
      ((run schema packing).isAlive 0, (run schema packing).walk 0)) =
      some (true, [0, 2, 4, 1, 3]) := by
    decide +kernel
  cases built : Schema.build crateDecls with
  | error reason =>
      rw [built] at evaluated
      cases evaluated
  | ok schema =>
      simp only [built, Except.toOption, Option.map_some, Option.some.injEq, Prod.mk.injEq]
        at evaluated
      obtain ⟨alive, listed⟩ := evaluated
      have walked := walked_run built packing alive
      exact ⟨schema, rfl, alive, walked, (walked.visits _).mpr listed.symm⟩

end TypedTree.Forest
