import Mathlib.Data.List.Nodup
import TypedTree.Proofs.Forest.Conformance

namespace TypedTree

theorem Slot.without_eq_self {slot : Slot} {node : NodeId} (absent : node ∉ slot.contained) :
    slot.without node = slot := by
  match slot with
  | .child none => rfl
  | .child (some held) =>
      have different : held ≠ node := by simpa [contained, eq_comm] using absent
      simp [without, Option.filter, different]
  | .children nodes =>
      have kept : nodes.filter (· != node) = nodes := by
        refine List.filter_eq_self.mpr fun held member => ?_
        simpa using fun same : held = node => absent (same ▸ member)
      rw [without, kept]
  | .attribute _ | .reference _ => rfl

namespace Cell

variable {cell : Cell} {name : String}

theorem childrenOf_of_mem {slot : Slot} (member : (name, slot) ∈ cell.slots) :
    cell.childrenOf name = slot.contained := by
  have held : cell.slot? name = some slot := Registry.mem_entries_iff.mp member
  simp [childrenOf, held]

theorem without_eq_self {node : NodeId} (absent : ∀ name, node ∉ cell.childrenOf name) :
    cell.without node = cell := by
  have kept : cell.content.mapValues (·.without node) = cell.content := by
    refine Registry.ext ?_
    refine (List.map_congr_left fun entry member => ?_).trans (List.map_id _)
    have outside : node ∉ entry.2.contained := childrenOf_of_mem member ▸ absent entry.1
    exact Prod.ext rfl (Slot.without_eq_self outside)
  rw [without, kept]

theorem slots_changeSlot {first last : List (String × Slot)} {slot : Slot}
    (slots : cell.slots = first ++ (name, slot) :: last) (change : Slot → Slot) :
    (cell.changeSlot name change).slots = first ++ (name, change slot) :: last :=
  Registry.entries_modify slots change

end Cell

namespace Forest

variable {forest after : Forest} {node other : NodeId} {cell : Cell} {feature : String}
  {incoming nodes : List NodeId} {placement : Placement} {slot : Slot}

theorem ext_cell? (handles : after.handles = forest.handles) (nextId : after.nextId = forest.nextId)
    (cells : ∀ node, after.cell? node = forest.cell? node) : after = forest := by
  obtain ⟨first, names⟩ := forest
  obtain ⟨second, otherNames⟩ := after
  have same : second = first := by
    refine Array.ext nextId fun node inSecond inFirst => ?_
    simpa [cell?, inSecond, inFirst] using cells node
  cases same
  cases handles
  rfl

@[simp]
theorem handles_modify (forest : Forest) (node : NodeId) (change : Cell → Cell) :
    (forest.modify node change).handles = forest.handles := by
  unfold modify
  split <;> rfl

theorem modify_eq_self {change : Cell → Cell} (found : forest.cell? node = some cell)
    (same : change cell = cell) : forest.modify node change = forest := by
  refine ext_cell? (handles_modify _ _ _) (nextId_modify _ _ _) fun other => ?_
  rw [cell?_modify]
  split
  · next here => rw [here, found, Option.map_some, same]
  · rfl

@[simp]
theorem handles_setParents (link : Option NodeId) :
    (forest.setParents nodes link).handles = forest.handles := by
  induction nodes generalizing forest with
  | nil => rfl
  | cons first rest ih => exact ih.trans (handles_modify _ _ _)

theorem cell?_setParents (link : Option NodeId) :
    (forest.setParents nodes link).cell? other =
      if other ∈ nodes then (forest.cell? other).map fun cell => { cell with parent := link }
      else forest.cell? other := by
  induction nodes generalizing forest with
  | nil => simp [setParents]
  | cons first rest ih =>
      have step : (forest.setParents (first :: rest) link).cell? other =
          ((forest.setParent first link).setParents rest link).cell? other := rfl
      rw [step, ih, setParent, cell?_modify]
      by_cases here : other = first <;> by_cases later : other ∈ rest <;>
        simp [here, later, Function.comp_def]

theorem detachAll_of_absent (found : forest.cell? node = some cell) (distinct : incoming.Nodup)
    (links : ∀ child ∈ incoming, forest.parentLink? child = some node)
    (apart : ∀ child ∈ incoming, child ≠ node ∧ ∀ name, child ∉ cell.childrenOf name) :
    forest.detachAll incoming = forest.setParents incoming none := by
  induction incoming generalizing forest with
  | nil => rfl
  | cons child rest ih =>
      rw [List.nodup_cons] at distinct
      obtain ⟨different, absent⟩ := apart child List.mem_cons_self
      have alive : forest.isAlive node = true := by simp [isAlive, found]
      have step : forest.detach child = forest.setParent child none := by
        have up : forest.parent? child = some node :=
          parent?_eq_some_iff.mpr ⟨links child List.mem_cons_self, alive⟩
        rw [Forest.detach, up]
        dsimp only
        rw [modify_eq_self found (Cell.without_eq_self absent)]
      have foundAfter : (forest.setParent child none).cell? node = some cell := by
        rw [setParent, cell?_modify, if_neg (Ne.symm different), found]
      change (forest.detach child).detachAll rest =
        (forest.setParent child none).setParents rest none
      rw [step]
      refine ih foundAfter distinct.2 (fun inner member => ?_) fun inner member => ?_
      · have other : inner ≠ child := fun same => distinct.1 (same ▸ member)
        rw [parentLink?_setParent, if_neg fun both => other both.1]
        exact links inner (List.mem_cons_of_mem _ member)
      · exact apart inner (List.mem_cons_of_mem _ member)

/-- Linked nodes that stand nowhere are put into an empty feature. -/
theorem attach_of_absent (found : forest.cell? node = some cell) (distinct : incoming.Nodup)
    (links : ∀ child ∈ incoming, forest.parentLink? child = some node)
    (apart : ∀ child ∈ incoming, child ≠ node ∧ ∀ name, child ∉ cell.childrenOf name)
    (held : cell.slot? feature = some slot) (vacant : slot.contained = []) :
    forest.attach node feature incoming placement =
      forest.modify node (·.changeSlot feature (·.place incoming placement)) := by
  have outside : node ∉ incoming := fun member => (apart node member).1 rfl
  have freed := detachAll_of_absent found distinct links apart
  have nothing : slot.displaced placement = [] := by
    cases placement <;> simp [Slot.displaced, vacant]
  have attached : forest.attach node feature incoming placement =
      ((forest.setParents incoming none).modify node
        (·.changeSlot feature (·.place incoming placement))).setParents incoming (some node) := by
    have there : (forest.setParents incoming none).slot? node feature = some slot := by
      rw [Forest.slot?, cell?_setParents, if_neg outside, found]
      exact held
    have displaced : forest.displacedBy node feature incoming placement = [] := by
      rw [displacedBy, freed, there, Option.map_some, nothing]
      rfl
    change (((forest.detachAll incoming).modify node _).setParents
      (forest.displacedBy node feature incoming placement) none).setParents incoming (some node) = _
    rw [freed, displaced]
    rfl
  rw [attached]
  refine ext_cell? (by simp) (by simp) fun other => ?_
  rw [cell?_setParents, cell?_modify, cell?_setParents, cell?_modify]
  by_cases comes : other ∈ incoming
  · have different : other ≠ node := (apart other comes).1
    rw [if_pos comes, if_neg different, if_pos comes, if_neg different]
    obtain ⟨content, present, linked⟩ := Option.bind_eq_some_iff.mp (links other comes)
    rw [present]
    simp [← linked]
  · rw [if_neg comes, if_neg comes]

section

variable (conforming : forest.Conforming)
include conforming

theorem Conforming.childrenOf_attach {declared : Feature} (found : forest.cell? node = some cell)
    (known : cell.concept.feature? feature = some declared)
    (placed : ∀ slot : Slot, slot.fits declared.type = true →
      (slot.place incoming placement).contained = incoming) :
    (forest.attach node feature incoming placement).childrenOf node feature = incoming := by
  obtain ⟨slot, there, fits⟩ := conforming.slot?_detachAll incoming found known
  rw [childrenOf_attach_self, there, Option.map_some, Option.getD_some, placed slot fits]

theorem childrenOf_setChild {held : Option NodeId}
    (set : forest.setChild node feature held = .ok after) :
    after.childrenOf node feature = held.toList := by
  obtain ⟨cell, declared, target, found, known, kind, _, rfl⟩ := setChild_eq_ok_iff.mp set
  refine conforming.childrenOf_attach found known fun slot fits => ?_
  rw [kind] at fits
  cases slot <;> simp_all [Slot.fits, Slot.place, Slot.contained]

theorem childrenOf_setChildren
    (set : forest.setChildren node feature incoming = .ok after) :
    after.childrenOf node feature = incoming := by
  obtain ⟨cell, declared, target, found, known, kind, _, _, rfl⟩ := setChildren_eq_ok_iff.mp set
  refine conforming.childrenOf_attach found known fun slot fits => ?_
  rw [kind] at fits
  cases slot <;> simp_all [Slot.fits, Slot.place, Slot.contained]

end

end Forest

end TypedTree
