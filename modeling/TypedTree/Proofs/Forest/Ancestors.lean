import Mathlib.Data.List.Perm.Subperm
import Mathlib.Order.WellFounded
import TypedTree.Forest.Traversal

namespace TypedTree.Forest

variable {forest : Forest} {node parent above : NodeId}

/-- `above` is the parent of `node` and still there. -/
def IsParent (forest : Forest) (above node : NodeId) : Prop := forest.parent? node = some above

/-- No chain of parents is endless. -/
def Grounded (forest : Forest) : Prop := WellFounded forest.IsParent

/-- `above` is reached from `node` by one or more steps to a parent. -/
def IsAncestor (forest : Forest) : NodeId → NodeId → Prop := Relation.TransGen forest.IsParent

theorem lt_nextId_of_isAlive (alive : forest.isAlive node = true) : node < forest.nextId := by
  refine Nat.lt_of_not_le fun outside => ?_
  simp [isAlive, cell?, Array.getElem?_eq_none outside] at alive

theorem isAlive_of_parent? (found : forest.parent? node = some parent) :
    forest.isAlive parent = true := by
  unfold parent? at found
  exact (Option.filter_eq_some_iff.mp found).2

theorem isAlive_of_parent?_eq_some (found : forest.parent? node = some parent) :
    forest.isAlive node = true := by
  cases cell : forest.cell? node with
  | none => simp [parent?, cell] at found
  | some content => simp [isAlive, cell]

theorem isAncestor_iff_of_parent? (found : forest.parent? node = some parent) :
    forest.IsAncestor above node ↔ above = parent ∨ forest.IsAncestor above parent := by
  constructor
  · intro ancestor
    obtain ⟨middle, chain, last⟩ := Relation.TransGen.tail'_iff.mp ancestor
    have same : middle = parent := Option.some.inj (last.symm.trans found)
    subst same
    exact (Relation.reflTransGen_iff_eq_or_transGen.mp chain).imp_left Eq.symm
  · intro reached
    rcases reached with rfl | chain
    · exact .single found
    · exact .tail chain found

theorem not_isAncestor_of_parent?_none (root : forest.parent? node = none) :
    ¬ forest.IsAncestor above node := by
  intro ancestor
  obtain ⟨middle, _, last⟩ := Relation.TransGen.tail'_iff.mp ancestor
  rw [IsParent, root] at last
  cases last

theorem Grounded.not_isAncestor_self (grounded : forest.Grounded) (node : NodeId) :
    ¬ forest.IsAncestor node node :=
  fun cycle => grounded.transGen.irrefl.irrefl node cycle

theorem isAncestor_of_mem_ancestorsUpTo {count : Nat}
    (member : above ∈ forest.ancestorsUpTo count node) : forest.IsAncestor above node := by
  induction count generalizing node with
  | zero => simp [ancestorsUpTo] at member
  | succ count ih =>
      cases found : forest.parent? node with
      | none => simp [ancestorsUpTo, found] at member
      | some parent =>
          simp only [ancestorsUpTo, found, List.mem_cons] at member
          exact (isAncestor_iff_of_parent? found).mpr (member.imp_right ih)

theorem mem_ancestorsUpTo_of_isAncestor {count : Nat}
    (short : (forest.ancestorsUpTo count node).length < count)
    (ancestor : forest.IsAncestor above node) : above ∈ forest.ancestorsUpTo count node := by
  induction count generalizing node with
  | zero => exact absurd short (Nat.not_lt_zero _)
  | succ count ih =>
      cases found : forest.parent? node with
      | none => exact absurd ancestor (not_isAncestor_of_parent?_none found)
      | some parent =>
          simp only [ancestorsUpTo, found, List.length_cons, Nat.add_lt_add_iff_right] at short
          simp only [ancestorsUpTo, found, List.mem_cons]
          exact ((isAncestor_iff_of_parent? found).mp ancestor).imp_right (ih short)

theorem Grounded.nodup_ancestorsUpTo (grounded : forest.Grounded) (count : Nat)
    (node : NodeId) : (node :: forest.ancestorsUpTo count node).Nodup := by
  induction count generalizing node with
  | zero => simp [ancestorsUpTo]
  | succ count ih =>
      refine List.nodup_cons.mpr ⟨fun member => ?_, ?_⟩
      · exact grounded.not_isAncestor_self node (isAncestor_of_mem_ancestorsUpTo member)
      · cases found : forest.parent? node with
        | none => simp [ancestorsUpTo, found]
        | some parent => simpa only [ancestorsUpTo, found] using ih parent

theorem isAlive_of_mem_ancestorsUpTo {count : Nat}
    (member : above ∈ forest.ancestorsUpTo count node) : forest.isAlive above = true := by
  obtain ⟨below, first, _⟩ :=
    Relation.TransGen.head'_iff.mp (isAncestor_of_mem_ancestorsUpTo member)
  exact isAlive_of_parent? first

/-- The ancestors of a node that is there are other nodes that are there, so there are
fewer of them than nodes. -/
theorem Grounded.length_ancestors_lt (grounded : forest.Grounded)
    (alive : forest.isAlive node = true) : (forest.ancestors node).length < forest.nextId := by
  have within : (node :: forest.ancestors node) ⊆ List.range forest.nextId := by
    intro other member
    rw [List.mem_range]
    rcases List.mem_cons.mp member with rfl | above
    · exact lt_nextId_of_isAlive alive
    · exact lt_nextId_of_isAlive (isAlive_of_mem_ancestorsUpTo above)
  have bounded :=
    (List.subperm_of_subset (grounded.nodup_ancestorsUpTo forest.nextId node) within).length_le
  rw [List.length_range, List.length_cons] at bounded
  exact bounded

theorem Grounded.mem_ancestors_iff (grounded : forest.Grounded) :
    above ∈ forest.ancestors node ↔ forest.IsAncestor above node := by
  refine ⟨isAncestor_of_mem_ancestorsUpTo, fun ancestor => ?_⟩
  have alive : forest.isAlive node = true := by
    obtain ⟨below, _, last⟩ := Relation.TransGen.tail'_iff.mp ancestor
    exact isAlive_of_parent?_eq_some last
  exact mem_ancestorsUpTo_of_isAncestor (grounded.length_ancestors_lt alive) ancestor

theorem parent?_last_ancestorsUpTo {count : Nat}
    (short : (forest.ancestorsUpTo count node).length < count) :
    forest.parent? ((forest.ancestorsUpTo count node).getLast?.getD node) = none := by
  induction count generalizing node with
  | zero => exact absurd short (Nat.not_lt_zero _)
  | succ count ih =>
      cases found : forest.parent? node with
      | none => simp [ancestorsUpTo, found]
      | some parent =>
          simp only [ancestorsUpTo, found, List.length_cons, Nat.add_lt_add_iff_right] at short
          simp only [ancestorsUpTo, found, List.getLast?_cons, Option.getD_some]
          exact ih short

theorem ancestors_of_parent?_none (alone : forest.parent? node = none) :
    forest.ancestors node = [] := by
  refine List.eq_nil_iff_forall_not_mem.mpr fun above member => ?_
  exact not_isAncestor_of_parent?_none alone (isAncestor_of_mem_ancestorsUpTo member)

theorem Grounded.parent?_root (grounded : forest.Grounded) (node : NodeId) :
    forest.parent? (forest.root node) = none := by
  cases found : forest.parent? node with
  | none => simpa [root, ancestors_of_parent?_none found] using found
  | some parent =>
      exact parent?_last_ancestorsUpTo
        (grounded.length_ancestors_lt (isAlive_of_parent?_eq_some found))

theorem isAlive_root (alive : forest.isAlive node = true) :
    forest.isAlive (forest.root node) = true := by
  cases last : (forest.ancestors node).getLast? with
  | none => simpa [root, last] using alive
  | some top =>
      simpa [root, last] using isAlive_of_mem_ancestorsUpTo (List.mem_of_getLast? last)

/-- Chains stay finite when nodes are moved below `target`, unless one of them is
`target` or above it. Links may also be lost. -/
theorem Grounded.redirect {after : Forest} (grounded : forest.Grounded)
    (moved : NodeId → Prop) (target : NodeId)
    (safe : ∀ above, above = target ∨ forest.IsAncestor above target → ¬ moved above)
    (links : ∀ node above, after.IsParent above node →
      (moved node ∧ above = target) ∨ forest.IsParent above node) :
    after.Grounded := by
  -- Nothing from `target` upwards is moved: those chains only lose links.
  have unmoved : ∀ node, node = target ∨ forest.IsAncestor node target →
      Acc after.IsParent node := by
    intro node
    induction node using grounded.induction with
    | _ node ih =>
        intro onChain
        refine Acc.intro node fun above link => ?_
        rcases links node above link with ⟨isMoved, _⟩ | old
        · exact absurd isMoved (safe node onChain)
        · refine ih above old (Or.inr ?_)
          rcases onChain with rfl | chain
          · exact .single old
          · exact .head old chain
  refine ⟨fun node => ?_⟩
  induction node using grounded.induction with
  | _ node ih =>
      refine Acc.intro node fun above link => ?_
      rcases links node above link with ⟨_, rfl⟩ | old
      · exact unmoved above (Or.inl rfl)
      · exact ih above old

theorem Grounded.mono {after : Forest} (grounded : forest.Grounded)
    (links : ∀ node above, after.IsParent above node → forest.IsParent above node) :
    after.Grounded :=
  Subrelation.wf (fun {above node} link => links node above link) grounded

end TypedTree.Forest
