import TypedTree.Proofs.Forest.Containment
import TypedTree.Proofs.Forest.Edits

namespace TypedTree.Forest

variable {forest after : Forest} {node other parent container child : NodeId}
  {feature name : String} {incoming : List NodeId} {placement : Placement}

theorem Linked.not_mem_of_parent?_ne (linked : forest.Linked)
    (elsewhere : forest.parent? child ≠ some container) :
    child ∉ forest.childrenOf container feature :=
  fun member => elsewhere (linked.parent?_of_mem member)

theorem Linked.childrenOf_detach (linked : forest.Linked) :
    (forest.detach node).childrenOf container feature =
      (forest.childrenOf container feature).filter (· != node) := by
  have unchanged (absent : node ∉ forest.childrenOf container feature) :
      forest.childrenOf container feature =
        (forest.childrenOf container feature).filter (· != node) :=
    (List.filter_eq_self.mpr fun held member => by
      simpa using fun same : held = node => absent (same ▸ member)).symm
  unfold detach
  cases found : forest.parent? node with
  | none => exact unchanged (linked.not_mem_of_parent?_ne (by simp [found]))
  | some parent =>
      simp only [childrenOf_setParent]
      by_cases here : container = parent
      · subst here
        rw [childrenOf_modify_self, childrenOf]
        cases forest.cell? container with
        | none => rfl
        | some cell => exact cell.childrenOf_without node feature
      · rw [childrenOf_modify_of_ne _ here]
        refine unchanged (linked.not_mem_of_parent?_ne ?_)
        rw [found]
        exact fun same => here (Option.some.inj same).symm

@[simp]
theorem isAlive_detach : (forest.detach node).isAlive other = forest.isAlive other := by
  unfold detach
  split
  · rfl
  · simp

@[simp]
theorem nextId_detach : (forest.detach node).nextId = forest.nextId := by
  unfold detach
  split
  · rfl
  · simp

theorem parentLink?_detach_of_ne (different : other ≠ node) :
    (forest.detach node).parentLink? other = forest.parentLink? other := by
  unfold detach
  split
  · rfl
  · rw [parentLink?_setParent, if_neg fun both => different both.1]
    exact parentLink?_modify_of_same fun _ => rfl

theorem parent?_detach :
    (forest.detach node).parent? other = if other = node then none else forest.parent? other := by
  by_cases here : other = node
  · subst here
    rw [if_pos rfl]
    cases found : forest.parent? other with
    | none => rw [detach, found]; exact found
    | some parent =>
        refine Option.eq_none_iff_forall_not_mem.mpr fun above link => ?_
        have alive := isAlive_of_parent?_eq_some found
        have stored := (parent?_eq_some_iff.mp link).1
        simp [detach, found, parentLink?_setParent, alive] at stored
  · rw [if_neg here]
    refine Option.ext fun above => ?_
    rw [parent?_eq_some_iff, parent?_eq_some_iff, parentLink?_detach_of_ne here, isAlive_detach]

theorem Linked.detach (linked : forest.Linked) : (forest.detach node).Linked := by
  refine linked.mono ?_ ?_ ?_
  · intro container feature
    rw [linked.childrenOf_detach]
    exact List.filter_sublist
  · intro container feature child member
    rw [linked.childrenOf_detach, List.mem_filter] at member
    exact parentLink?_detach_of_ne (by simpa using member.2)
  · intro child above link
    rw [parent?_detach] at link
    split at link
    · cases link
    · exact link

def detachAll (forest : Forest) (nodes : List NodeId) : Forest := nodes.foldl Forest.detach forest

theorem Linked.detachAll (linked : forest.Linked) : (forest.detachAll incoming).Linked := by
  induction incoming generalizing forest with
  | nil => exact linked
  | cons first rest ih => exact ih linked.detach

theorem Linked.childrenOf_detachAll (linked : forest.Linked) :
    (forest.detachAll incoming).childrenOf container feature =
      (forest.childrenOf container feature).filter (· ∉ incoming) := by
  induction incoming generalizing forest with
  | nil => simp [Forest.detachAll]
  | cons first rest ih =>
      have step : (forest.detachAll (first :: rest)).childrenOf container feature =
          ((forest.detach first).detachAll rest).childrenOf container feature := rfl
      rw [step, ih linked.detach, linked.childrenOf_detach, List.filter_filter]
      refine List.filter_congr fun held _ => ?_
      by_cases here : held = first <;> simp [here]

@[simp]
theorem isAlive_detachAll :
    (forest.detachAll incoming).isAlive other = forest.isAlive other := by
  induction incoming generalizing forest with
  | nil => rfl
  | cons first rest ih => exact ih.trans isAlive_detach

@[simp]
theorem nextId_detachAll : (forest.detachAll incoming).nextId = forest.nextId := by
  induction incoming generalizing forest with
  | nil => rfl
  | cons first rest ih => exact ih.trans nextId_detach

theorem parentLink?_detachAll_of_not_mem (stays : other ∉ incoming) :
    (forest.detachAll incoming).parentLink? other = forest.parentLink? other := by
  induction incoming generalizing forest with
  | nil => rfl
  | cons first rest ih =>
      rw [List.mem_cons, not_or] at stays
      exact (ih stays.2).trans (parentLink?_detach_of_ne stays.1)

def slot? (forest : Forest) (node : NodeId) (feature : String) : Option Slot :=
  (forest.cell? node).bind (·.slot? feature)

theorem childrenOf_eq_slot? :
    forest.childrenOf node feature = ((forest.slot? node feature).map Slot.contained).getD [] := by
  rw [childrenOf, slot?]
  cases forest.cell? node <;> rfl

def displacedBy (forest : Forest) (node : NodeId) (feature : String) (incoming : List NodeId)
    (placement : Placement) : List NodeId :=
  ((((forest.detachAll incoming).slot? node feature).map (·.displaced placement)).getD []).filter
    (· ∉ incoming)

theorem childrenOf_attach_self :
    (forest.attach node feature incoming placement).childrenOf node feature =
      (((forest.detachAll incoming).slot? node feature).map
        fun slot => (slot.place incoming placement).contained).getD [] := by
  have placed : (forest.attach node feature incoming placement).childrenOf node feature =
      ((forest.detachAll incoming).modify node
        (·.changeSlot feature (·.place incoming placement))).childrenOf node feature :=
    (childrenOf_setParents _).trans (childrenOf_setParents _)
  rw [placed, childrenOf_modify_self, slot?]
  cases (forest.detachAll incoming).cell? node with
  | none => rfl
  | some cell => exact cell.childrenOf_changeSlot_self feature _

theorem childrenOf_attach_of_ne (different : ¬ (container = node ∧ name = feature)) :
    (forest.attach node feature incoming placement).childrenOf container name =
      (forest.detachAll incoming).childrenOf container name := by
  have placed : (forest.attach node feature incoming placement).childrenOf container name =
      ((forest.detachAll incoming).modify node
        (·.changeSlot feature (·.place incoming placement))).childrenOf container name :=
    (childrenOf_setParents _).trans (childrenOf_setParents _)
  rw [placed]
  by_cases here : container = node
  · subst here
    have otherName : name ≠ feature := fun same => different ⟨rfl, same⟩
    rw [childrenOf_modify_self, childrenOf]
    simp only [Cell.childrenOf_changeSlot_of_ne _ otherName]
  · exact childrenOf_modify_of_ne _ here _ _

@[simp]
theorem isAlive_attach :
    (forest.attach node feature incoming placement).isAlive other = forest.isAlive other :=
  (isAlive_setParents _).trans ((isAlive_setParents _).trans
    ((isAlive_modify _ _ _ _).trans isAlive_detachAll))

@[simp]
theorem nextId_attach :
    (forest.attach node feature incoming placement).nextId = forest.nextId :=
  (nextId_setParents _).trans ((nextId_setParents _).trans
    ((nextId_modify _ _ _).trans nextId_detachAll))

theorem parentLink?_attach :
    (forest.attach node feature incoming placement).parentLink? other =
      if other ∈ incoming ∧ forest.isAlive other then some node
      else if other ∈ forest.displacedBy node feature incoming placement ∧
        forest.isAlive other then none
      else (forest.detachAll incoming).parentLink? other := by
  have unfolded : forest.attach node feature incoming placement =
      (((forest.detachAll incoming).modify node
        (·.changeSlot feature (·.place incoming placement))).setParents
          (forest.displacedBy node feature incoming placement) none).setParents
            incoming (some node) := rfl
  have placed : ((forest.detachAll incoming).modify node
      (·.changeSlot feature (·.place incoming placement))).parentLink? other =
        (forest.detachAll incoming).parentLink? other :=
    parentLink?_modify_of_same fun _ => rfl
  rw [unfolded, parentLink?_setParents, parentLink?_setParents, placed]
  simp only [isAlive_setParents, isAlive_modify, isAlive_detachAll]

theorem parentLink?_attach_of_mem (comes : other ∈ incoming)
    (alive : forest.isAlive other = true) :
    (forest.attach node feature incoming placement).parentLink? other = some node := by
  rw [parentLink?_attach, if_pos ⟨comes, alive⟩]

theorem parentLink?_attach_of_not_mem (stays : other ∉ incoming)
    (kept : other ∉ forest.displacedBy node feature incoming placement) :
    (forest.attach node feature incoming placement).parentLink? other =
      forest.parentLink? other := by
  rw [parentLink?_attach, if_neg fun both => stays both.1, if_neg fun both => kept both.1]
  exact parentLink?_detachAll_of_not_mem stays

theorem mem_childrenOf_of_displacedBy (linked : forest.Linked)
    (displaced : other ∈ forest.displacedBy node feature incoming placement) :
    other ∈ forest.childrenOf node feature := by
  obtain ⟨inSlot, _⟩ := List.mem_filter.mp displaced
  have held : other ∈ (forest.detachAll incoming).childrenOf node feature := by
    rw [childrenOf_eq_slot?]
    cases found : (forest.detachAll incoming).slot? node feature with
    | none => simp [found] at inSlot
    | some slot =>
        rw [found] at inSlot
        exact slot.displaced_subset placement inSlot
  rw [linked.childrenOf_detachAll] at held
  exact (List.mem_filter.mp held).1

theorem mem_childrenOf_attach_self (linked : forest.Linked)
    (member : other ∈ (forest.attach node feature incoming placement).childrenOf node feature) :
    other ∈ incoming ∨ (other ∈ forest.childrenOf node feature ∧
      other ∉ forest.displacedBy node feature incoming placement) := by
  rw [childrenOf_attach_self] at member
  cases found : (forest.detachAll incoming).slot? node feature with
  | none => simp [found] at member
  | some slot =>
      rw [found] at member
      rcases Slot.mem_place member with comes | ⟨held, kept⟩
      · exact Or.inl comes
      · refine Or.inr ⟨?_, ?_⟩
        · have before : other ∈ (forest.detachAll incoming).childrenOf node feature := by
            rw [childrenOf_eq_slot?, found]
            exact held
          rw [linked.childrenOf_detachAll] at before
          exact (List.mem_filter.mp before).1
        · intro displaced
          have inSlot := (List.mem_filter.mp displaced).1
          rw [found] at inSlot
          exact kept inSlot

theorem mem_childrenOf_attach_of_not_mem (linked : forest.Linked) (stays : other ∉ incoming)
    (kept : other ∉ forest.displacedBy node feature incoming placement)
    (member : other ∈ forest.childrenOf container name) :
    other ∈ (forest.attach node feature incoming placement).childrenOf container name := by
  have freed : other ∈ (forest.detachAll incoming).childrenOf container name := by
    rw [linked.childrenOf_detachAll, List.mem_filter]
    exact ⟨member, by simpa using stays⟩
  by_cases here : container = node ∧ name = feature
  · obtain ⟨rfl, rfl⟩ := here
    rw [childrenOf_eq_slot?] at freed
    rw [childrenOf_attach_self]
    cases held : (forest.detachAll incoming).slot? container name with
    | none => simp [held] at freed
    | some slot =>
        rw [held] at freed
        rcases slot.mem_place_or_displaced incoming placement freed with placed | displaced
        · exact placed
        · refine absurd (List.mem_filter.mpr ⟨?_, by simpa using stays⟩) kept
          rw [held]
          exact displaced
  · rwa [childrenOf_attach_of_ne here]

/-- A node that may be moved is there, and is neither the new container nor above it. -/
def Movable (forest : Forest) (node child : NodeId) : Prop :=
  forest.isAlive child = true ∧ child ≠ node ∧ ¬ forest.IsAncestor child node

theorem Linked.distinct_attach (linked : forest.Linked) (distinct : incoming.Nodup) :
    ((forest.attach node feature incoming placement).childrenOf container name).Nodup := by
  by_cases here : container = node ∧ name = feature
  · obtain ⟨rfl, rfl⟩ := here
    rw [childrenOf_attach_self]
    have freed : (forest.detachAll incoming).childrenOf container name =
        (forest.childrenOf container name).filter (· ∉ incoming) := linked.childrenOf_detachAll
    have before : ((forest.detachAll incoming).childrenOf container name).Nodup :=
      linked.detachAll.distinct container name
    rw [childrenOf_eq_slot?] at freed before
    cases found : (forest.detachAll incoming).slot? container name with
    | none => exact .nil
    | some slot =>
        rw [found] at freed before
        refine Slot.nodup_place before distinct fun held member => ?_
        rw [show slot.contained = _ from freed, List.mem_filter] at member
        simpa using member.2
  · rw [childrenOf_attach_of_ne here]
    exact linked.detachAll.distinct container name

theorem Linked.single_attach (linked : forest.Linked) {first second : String}
    (inFirst : child ∈ (forest.attach node feature incoming placement).childrenOf container first)
    (inSecond : child ∈
      (forest.attach node feature incoming placement).childrenOf container second) :
    first = second := by
  -- Only the feature that takes nodes in can hold one that was not there before.
  have settled {name other : String} (isOther : other ≠ feature ∨ container ≠ node)
      (inName : child ∈ (forest.attach node feature incoming placement).childrenOf
        container name)
      (inOther : child ∈ (forest.attach node feature incoming placement).childrenOf
        container other) : name = other := by
    have elsewhere : ¬ (container = node ∧ other = feature) := by
      intro both
      obtain ⟨rfl, rfl⟩ := both
      exact isOther.elim (· rfl) (· rfl)
    rw [childrenOf_attach_of_ne elsewhere, linked.childrenOf_detachAll, List.mem_filter]
      at inOther
    by_cases here : container = node ∧ name = feature
    · obtain ⟨rfl, rfl⟩ := here
      rcases mem_childrenOf_attach_self linked inName with comes | ⟨held, _⟩
      · exact absurd comes (by simpa using inOther.2)
      · exact linked.single held inOther.1
    · rw [childrenOf_attach_of_ne here, linked.childrenOf_detachAll, List.mem_filter]
        at inName
      exact linked.single inName.1 inOther.1
  by_cases there : container = node
  · by_cases second = feature
    · by_cases first = feature
      · simp_all
      · exact (settled (Or.inl ‹_›) inSecond inFirst).symm
    · exact settled (Or.inl ‹_›) inFirst inSecond
  · exact settled (Or.inr there) inFirst inSecond

theorem Linked.linked_attach (linked : forest.Linked)
    (movable : ∀ child ∈ incoming, forest.Movable node child)
    (member : child ∈ (forest.attach node feature incoming placement).childrenOf container name) :
    (forest.attach node feature incoming placement).parentLink? child = some container := by
  by_cases here : container = node ∧ name = feature
  · obtain ⟨rfl, rfl⟩ := here
    rcases mem_childrenOf_attach_self linked member with comes | ⟨held, kept⟩
    · exact parentLink?_attach_of_mem comes (movable child comes).1
    · by_cases comes : child ∈ incoming
      · exact parentLink?_attach_of_mem comes (movable child comes).1
      · rw [parentLink?_attach_of_not_mem comes kept]
        exact linked.linked held
  · rw [childrenOf_attach_of_ne here, linked.childrenOf_detachAll, List.mem_filter] at member
    obtain ⟨held, stays⟩ := member
    rw [parentLink?_attach_of_not_mem (by simpa using stays) fun displaced => ?_]
    · exact linked.linked held
    · have inFeature := mem_childrenOf_of_displacedBy linked displaced
      have same : container = node :=
        Option.some.inj ((linked.linked held).symm.trans (linked.linked inFeature))
      subst same
      exact here ⟨rfl, linked.single held inFeature⟩

theorem Linked.grounded_attach (linked : forest.Linked)
    (movable : ∀ child ∈ incoming, forest.Movable node child) :
    (forest.attach node feature incoming placement).Grounded := by
  refine linked.grounded.redirect (· ∈ incoming) node ?_ ?_
  · intro above reached comes
    rcases reached with rfl | higher
    · exact (movable above comes).2.1 rfl
    · exact (movable above comes).2.2 higher
  · intro child above link
    obtain ⟨stored, alive⟩ := parent?_eq_some_iff.mp link
    rw [isAlive_attach] at alive
    rw [parentLink?_attach] at stored
    split at stored
    case isTrue comes => exact Or.inl ⟨comes.1, (Option.some.inj stored).symm⟩
    case isFalse stays =>
      split at stored
      case isTrue => cases stored
      case isFalse =>
        refine Or.inr (parent?_eq_some_iff.mpr ⟨?_, alive⟩)
        have present : forest.isAlive child = true := by
          simpa using isAlive_of_parentLink? stored
        rwa [parentLink?_detachAll_of_not_mem fun comes => stays ⟨comes, present⟩] at stored

theorem Linked.attach (linked : forest.Linked) (distinct : incoming.Nodup)
    (movable : ∀ child ∈ incoming, forest.Movable node child) :
    (forest.attach node feature incoming placement).Linked where
  distinct _ _ := linked.distinct_attach distinct
  single := linked.single_attach
  linked := linked.linked_attach movable
  grounded := linked.grounded_attach movable

end TypedTree.Forest
