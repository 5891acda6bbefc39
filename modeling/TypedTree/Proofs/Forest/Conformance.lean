import Mathlib.Data.List.Forall2
import TypedTree.Proofs.Forest.Linkage

namespace TypedTree

/-- Whether a slot is of the kind that a feature declares. -/
def Slot.fits : Slot → FeatureType → Bool
  | .attribute _, .attribute => true
  | .child _, .child _ => true
  | .children _, .children _ => true
  | .reference _, .reference _ => true
  | _, _ => false

theorem FeatureType.isContainment_of_isReference {type : FeatureType}
    (kind : type.isReference = true) : type.isContainment = false := by
  cases type <;> simp_all [FeatureType.isReference, FeatureType.isContainment]

namespace Slot

theorem fits_empty (type : FeatureType) : (empty type).fits type = true := by
  cases type <;> rfl

theorem fits_without {slot : Slot} {type : FeatureType} (fits : slot.fits type = true)
    (node : NodeId) : (slot.without node).fits type = true := by
  cases slot <;> cases type <;> exact fits

theorem fits_place {slot : Slot} {type : FeatureType} (fits : slot.fits type = true)
    (incoming : List NodeId) (placement : Placement) :
    (slot.place incoming placement).fits type = true := by
  cases slot <;> cases placement <;> cases type <;> exact fits

theorem contained_of_fits {slot : Slot} {type : FeatureType} (fits : slot.fits type = true)
    (scalar : type.isContainment = false) : slot.contained = [] := by
  cases type <;> cases slot <;> simp_all [Slot.fits, contained, FeatureType.isContainment]

/-- A slot has one kind only. -/
theorem fits_congr {slot content : Slot} {declared type : FeatureType}
    (slotFits : slot.fits declared = true) (contentFits : content.fits declared = true)
    (fits : slot.fits type = true) : content.fits type = true := by
  cases slot <;> cases declared <;> cases type <;> cases content <;> simp_all [Slot.fits]

theorem fits_reference {type : FeatureType} (kind : type.isReference = true)
    (link : Option Reference) : (Slot.reference link).fits type = true := by
  cases type <;> simp_all [Slot.fits, FeatureType.isReference]

theorem mem_place_of_child {slot : Slot} {target : String} {held : Option NodeId} {node : NodeId}
    (fits : slot.fits (.child target) = true) (member : node ∈ held.toList) :
    node ∈ (slot.place held.toList .replace).contained := by
  cases slot <;> simp_all [Slot.fits, Slot.place, Slot.contained]

theorem mem_place_of_children {slot : Slot} {target : String} {incoming : List NodeId}
    {placement : Placement} {node : NodeId} (fits : slot.fits (.children target) = true)
    (member : node ∈ incoming) : node ∈ (slot.place incoming placement).contained := by
  cases slot <;> cases placement <;> simp_all [Slot.fits, Slot.place, Slot.contained]

end Slot

namespace Cell

variable {cell : Cell} {name : String} {declared : Feature}

def Conforms (cell : Cell) : Prop :=
  List.Forall₂ (fun slot feature => slot.1 = feature.name ∧ slot.2.fits feature.type = true)
    cell.slots cell.concept.features

theorem Conforms.slot? (conforms : cell.Conforms)
    (known : cell.concept.feature? name = some declared) :
    ∃ slot, cell.slot? name = some slot ∧ slot.fits declared.type = true := by
  simp only [Conforms, Cell.slots] at conforms
  simp only [Concept.feature?] at known
  simp only [Cell.slot?, Registry.get?]
  generalize cell.content.entries = entries at conforms
  generalize cell.concept.features = features at conforms known
  induction conforms with
  | nil => cases known
  | @cons entry feature entries features head _ ih =>
      by_cases here : feature.name = name
      · rw [List.find?_cons_of_pos (by simpa using here)] at known
        cases known
        rw [List.find?_cons_of_pos (by simpa [head.1] using here)]
        exact ⟨entry.2, rfl, head.2⟩
      · rw [List.find?_cons_of_neg (by simpa using here)] at known
        rw [List.find?_cons_of_neg (by simpa [head.1] using here)]
        exact ih known

/-- Every slot is one of a feature. -/
theorem Conforms.exists_feature (conforms : cell.Conforms)
    {slot : String × Slot} (member : slot ∈ cell.slots) :
    ∃ feature ∈ cell.concept.features,
      slot.1 = feature.name ∧ slot.2.fits feature.type = true := by
  unfold Conforms at conforms
  generalize cell.slots = slots at conforms member
  generalize cell.concept.features = features at conforms
  induction conforms with
  | nil => cases member
  | @cons entry feature _ _ head _ ih =>
      rcases List.mem_cons.mp member with rfl | later
      · exact ⟨feature, List.mem_cons_self, head⟩
      · obtain ⟨other, listed, fits⟩ := ih later
        exact ⟨other, List.mem_cons_of_mem _ listed, fits⟩

theorem Conforms.map {other : Cell} (conforms : cell.Conforms)
    (concept : other.concept = cell.concept) (change : String × Slot → Slot)
    (slots : other.slots = cell.slots.map fun slot => (slot.1, change slot))
    (kinds : ∀ slot ∈ cell.slots, ∀ type, slot.2.fits type = true →
      (change slot).fits type = true) : other.Conforms := by
  unfold Conforms at *
  rw [concept, slots, List.forall₂_map_left_iff]
  clear slots
  generalize cell.slots = slots at conforms kinds
  generalize cell.concept.features = features at conforms
  induction conforms with
  | nil => exact .nil
  | @cons entry feature entries features head _ ih =>
      refine .cons ⟨head.1, kinds entry List.mem_cons_self _ head.2⟩ (ih ?_)
      exact fun slot member => kinds slot (List.mem_cons_of_mem _ member)

theorem Conforms.changeSlot (conforms : cell.Conforms) {change : Slot → Slot}
    (kinds : ∀ slot, cell.slot? name = some slot → ∀ type, slot.fits type = true →
      (change slot).fits type = true) : (cell.changeSlot name change).Conforms := by
  refine conforms.map rfl (fun slot => if slot.1 = name then change slot.2 else slot.2) rfl ?_
  intro ⟨feature, slot⟩ member type fits
  by_cases here : feature = name
  · subst here
    simpa using kinds slot (Registry.mem_entries_iff.mp member) type fits
  · simpa [here] using fits

theorem Conforms.without (conforms : cell.Conforms) (node : NodeId) :
    (cell.without node).Conforms :=
  conforms.map rfl (fun slot => slot.2.without node) rfl
    fun _ _ _ fits => Slot.fits_without fits node

theorem slots_blank {concept : Concept} (distinct : (concept.features.map (·.name)).Nodup) :
    (blank concept).slots =
      concept.features.map fun feature => (feature.name, .empty feature.type) :=
  Registry.entries_ofEntries (by simpa [Function.comp_def] using distinct)

theorem conforms_blank {concept : Concept} (distinct : (concept.features.map (·.name)).Nodup) :
    (blank concept).Conforms := by
  unfold Conforms
  rw [slots_blank distinct, List.forall₂_map_left_iff]
  exact List.forall₂_same.mpr fun feature _ => ⟨rfl, Slot.fits_empty feature.type⟩

end Cell

namespace Forest

variable {forest after : Forest} {node other : NodeId} {incoming : List NodeId}
  {placement : Placement} {feature : String}

def Conforming (forest : Forest) : Prop :=
  ∀ node cell, forest.cell? node = some cell → cell.Conforms

theorem Conforming.modify (conforming : forest.Conforming) {change : Cell → Cell}
    (keeps : ∀ cell, forest.cell? node = some cell → (change cell).Conforms) :
    (forest.modify node change).Conforming := by
  intro other cell found
  rw [cell?_modify] at found
  split at found
  case isTrue same =>
    subst same
    obtain ⟨old, before, rfl⟩ := Option.map_eq_some_iff.mp found
    exact keeps old before
  case isFalse => exact conforming other cell found

theorem Conforming.setParent (conforming : forest.Conforming) (link : Option NodeId) :
    (forest.setParent node link).Conforming :=
  conforming.modify fun cell found => conforming node cell found

theorem Conforming.setParents (conforming : forest.Conforming) (link : Option NodeId) :
    (forest.setParents incoming link).Conforming := by
  induction incoming generalizing forest with
  | nil => exact conforming
  | cons first rest ih => exact ih (conforming.setParent link)

theorem Conforming.detach (conforming : forest.Conforming) : (forest.detach node).Conforming := by
  unfold Forest.detach
  split
  · exact conforming
  · refine Conforming.setParent (conforming.modify fun cell found => ?_) none
    exact (conforming _ cell found).without node

theorem Conforming.detachAll (conforming : forest.Conforming) :
    (forest.detachAll incoming).Conforming := by
  induction incoming generalizing forest with
  | nil => exact conforming
  | cons first rest ih => exact ih conforming.detach

theorem Conforming.attach (conforming : forest.Conforming) :
    (forest.attach node feature incoming placement).Conforming := by
  refine Conforming.setParents (Conforming.setParents ?_ _) _
  refine conforming.detachAll.modify fun cell found => ?_
  exact (conforming.detachAll node cell found).changeSlot
    fun _ _ _ fits => Slot.fits_place fits incoming placement

theorem concept?_modify {change : Cell → Cell}
    (same : ∀ cell, (change cell).concept = cell.concept) :
    (forest.modify node change).concept? other = forest.concept? other := by
  rw [concept?, cell?_modify]
  split
  · simp only [concept?, Option.map_map, Function.comp_def, same]
  · rfl

theorem concept?_setParent (link : Option NodeId) :
    (forest.setParent node link).concept? other = forest.concept? other :=
  concept?_modify fun _ => rfl

theorem concept?_detach : (forest.detach node).concept? other = forest.concept? other := by
  unfold detach
  split
  · rfl
  · exact (concept?_setParent none).trans (concept?_modify fun _ => rfl)

theorem concept?_detachAll :
    (forest.detachAll incoming).concept? other = forest.concept? other := by
  induction incoming generalizing forest with
  | nil => rfl
  | cons first rest ih => exact ih.trans concept?_detach

theorem Conforming.slot?_detachAll (conforming : forest.Conforming) (incoming : List NodeId)
    {cell : Cell} {declared : Feature} (found : forest.cell? node = some cell)
    (known : cell.concept.feature? feature = some declared) :
    ∃ slot, (forest.detachAll incoming).slot? node feature = some slot ∧
      slot.fits declared.type = true := by
  have concept : (forest.detachAll incoming).concept? node = some cell.concept := by
    rw [concept?_detachAll, concept?, found]
    rfl
  obtain ⟨freed, there, same⟩ := Option.map_eq_some_iff.mp concept
  obtain ⟨slot, held, fits⟩ :=
    (conforming.detachAll node freed there).slot? (same ▸ known)
  exact ⟨slot, by rw [slot?, there]; exact held, fits⟩

end Forest

end TypedTree
