import TypedTree.Proofs.Forest.Conformance
import TypedTree.Proofs.Schema.Building

namespace TypedTree

/-! # Histories of a forest

Whatever is done to a forest through its own operations, it remains a set of trees:
every node stands in at most one place, the parent link and the place agree in both
directions, and no node is above itself. `WellLinked` is what every operation keeps and
`TreeShaped` is what a reader of the forest sees of it.
-/

namespace Forest

variable {forest after : Forest} {node other parent container child : NodeId}
  {feature : String} {incoming : List NodeId} {placement : Placement} {cell : Cell}

/-- Linked, and every link to a node that is there leads to a place in it. -/
structure WellLinked (forest : Forest) : Prop extends Linked forest where
  anchored : ∀ {node parent}, forest.parent? node = some parent →
    ∃ feature, node ∈ forest.childrenOf parent feature
  /-- Links lead to nodes that were made before. -/
  known : ∀ {node parent}, forest.parentLink? node = some parent → parent < forest.nextId
  conforming : forest.Conforming

theorem WellLinked.empty : (∅ : Forest).WellLinked where
  toLinked := Linked.empty
  anchored found := by cases found
  known found := by cases found
  conforming _ _ found := by cases found

theorem WellLinked.add (wellLinked : forest.WellLinked) (bare : cell.Bare)
    (conforms : cell.Conforms) : (forest.add cell).2.WellLinked where
  toLinked := wellLinked.toLinked.add bare
  anchored {node parent} found := by
    obtain ⟨link, alive⟩ := parent?_eq_some_iff.mp found
    rw [parentLink?_add bare] at link
    rw [isAlive_add, Bool.or_eq_true, beq_iff_eq] at alive
    rcases alive with rfl | old
    · exact absurd (wellLinked.known link) (Nat.lt_irrefl _)
    · obtain ⟨feature, member⟩ := wellLinked.anchored (parent?_eq_some_iff.mpr ⟨link, old⟩)
      exact ⟨feature, by rwa [childrenOf_add bare]⟩
  known {node parent} link := by
    rw [parentLink?_add bare] at link
    rw [nextId_add]
    exact Nat.lt_succ_of_lt (wellLinked.known link)
  conforming node content found := by
    rw [cell?_add] at found
    split at found
    · cases found
      exact conforms
    · exact wellLinked.conforming node content found

theorem WellLinked.modify (wellLinked : forest.WellLinked) {change : Cell → Cell}
    (linked : (forest.modify node change).Linked)
    (link : ∀ cell, (change cell).parent = cell.parent)
    (content : ∀ cell, forest.cell? node = some cell →
      (change cell).Conforms ∧
        ∀ feature, (change cell).childrenOf feature = cell.childrenOf feature) :
    (forest.modify node change).WellLinked where
  toLinked := linked
  anchored {child parent} found := by
    rw [parent?_modify_of_same link] at found
    obtain ⟨feature, member⟩ := wellLinked.anchored found
    refine ⟨feature, ?_⟩
    by_cases here : parent = node
    · subst here
      rw [childrenOf_modify_self]
      cases present : forest.cell? parent with
      | none => simp [childrenOf, present] at member
      | some cell => simpa [childrenOf, present, (content cell present).2] using member
    · rwa [childrenOf_modify_of_ne _ here]
  known {child parent} stored := by
    rw [parentLink?_modify_of_same link] at stored
    rw [nextId_modify]
    exact wellLinked.known stored
  conforming := wellLinked.conforming.modify fun cell found => (content cell found).1

theorem WellLinked.setMetadata (wellLinked : forest.WellLinked) {change : Cell → Cell}
    (link : ∀ cell, (change cell).parent = cell.parent)
    (content : ∀ cell, (change cell).content = cell.content)
    (concept : ∀ cell, (change cell).concept = cell.concept) :
    (forest.modify node change).WellLinked := by
  refine wellLinked.modify (wellLinked.toLinked.setMetadata link content) link ?_
  intro cell found
  constructor
  · rw [Cell.Conforms, Cell.slots, content, concept]
    exact wellLinked.conforming node cell found
  · intro feature
    simp only [Cell.childrenOf, Cell.slot?, content]

theorem WellLinked.setSlot (wellLinked : forest.WellLinked) {content : Slot}
    {declared : Feature} (found : forest.cell? node = some cell)
    (known : cell.concept.feature? feature = some declared)
    (scalar : declared.type.isContainment = false)
    (fits : content.fits declared.type = true) :
    (forest.modify node (·.setSlot feature content)).WellLinked := by
  have bare : content.contained = [] := Slot.contained_of_fits fits scalar
  refine wellLinked.modify (wellLinked.toLinked.setSlot bare) (fun _ => rfl) ?_
  intro same present
  cases found.symm.trans present
  obtain ⟨slot, held, slotFits⟩ := (wellLinked.conforming node cell found).slot? known
  refine ⟨(wellLinked.conforming node cell found).changeSlot ?_, fun other => ?_⟩
  · intro inSlot isHeld type
    cases held.symm.trans isHeld
    exact Slot.fits_congr slotFits fits
  · by_cases here : other = feature
    · subst here
      rw [Cell.setSlot, Cell.childrenOf_changeSlot_self, Cell.childrenOf, held]
      simp [bare, Slot.contained_of_fits slotFits scalar]
    · exact Cell.childrenOf_changeSlot_of_ne cell here _

section

variable (wellLinked : forest.WellLinked)
  (movable : ∀ child ∈ incoming, forest.Movable node child)
  (taken : ∀ child ∈ incoming,
    child ∈ (forest.attach node feature incoming placement).childrenOf node feature)
include wellLinked movable taken

theorem WellLinked.anchored_attach
    (found : (forest.attach node feature incoming placement).parent? child = some parent) :
    ∃ name, child ∈ (forest.attach node feature incoming placement).childrenOf parent name := by
  obtain ⟨link, alive⟩ := parent?_eq_some_iff.mp found
  by_cases comes : child ∈ incoming
  · rw [parentLink?_attach_of_mem comes (movable child comes).1] at link
    cases link
    exact ⟨feature, taken child comes⟩
  · -- A node that stays keeps its place unless it is driven out, and then has no link.
    have kept : child ∉ forest.displacedBy node feature incoming placement := by
      intro displaced
      have present : forest.isAlive child = true := by
        simpa using isAlive_of_parentLink? link
      rw [parentLink?_attach, if_neg fun both => comes both.1,
        if_pos ⟨displaced, present⟩] at link
      cases link
    rw [parentLink?_attach_of_not_mem comes kept] at link
    rw [isAlive_attach] at alive
    obtain ⟨name, member⟩ := wellLinked.anchored (parent?_eq_some_iff.mpr ⟨link, alive⟩)
    exact ⟨name, mem_childrenOf_attach_of_not_mem wellLinked.toLinked comes kept member⟩

theorem WellLinked.known_attach
    (link : (forest.attach node feature incoming placement).parentLink? child = some parent) :
    parent < forest.nextId := by
  by_cases comes : child ∈ incoming
  · rw [parentLink?_attach_of_mem comes (movable child comes).1] at link
    cases link
    have alive := isAlive_of_mem_childrenOf (taken child comes)
    rw [isAlive_attach] at alive
    exact lt_nextId_of_isAlive alive
  · rw [parentLink?_attach, if_neg fun both => comes both.1] at link
    split at link
    · cases link
    · rw [parentLink?_detachAll_of_not_mem comes] at link
      exact wellLinked.known link

theorem WellLinked.attach (distinct : incoming.Nodup) :
    (forest.attach node feature incoming placement).WellLinked where
  toLinked := wellLinked.toLinked.attach distinct movable
  anchored := wellLinked.anchored_attach movable taken
  known link := by
    rw [nextId_attach]
    exact wellLinked.known_attach movable taken link
  conforming := wellLinked.conforming.attach

end

theorem WellLinked.swept (wellLinked : forest.WellLinked) (swept : forest.Swept after) :
    after.WellLinked where
  toLinked := wellLinked.toLinked.swept swept
  anchored {node parent} found := by
    obtain ⟨feature, member⟩ := wellLinked.anchored (swept.parent?_eq_some found)
    refine ⟨feature, ?_⟩
    obtain ⟨cell, there⟩ := Option.isSome_iff_exists.mp (isAlive_of_parent? found)
    rwa [childrenOf, there, ← swept.cells parent cell there]
  known {node parent} link := by
    obtain ⟨cell, there, stored⟩ := Option.bind_eq_some_iff.mp link
    have before : forest.parentLink? node = some parent := by
      rw [parentLink?, swept.cells node cell there]
      exact stored
    rw [swept.nextId]
    exact wellLinked.known before
  conforming node cell found := wellLinked.conforming node cell (swept.cells node cell found)

/-- Nodes that every slot of the declared kind takes in stand in the feature afterwards. -/
theorem WellLinked.taken (wellLinked : forest.WellLinked) {declared : Feature}
    (found : forest.cell? node = some cell)
    (known : cell.concept.feature? feature = some declared)
    (places : ∀ slot : Slot, slot.fits declared.type = true →
      child ∈ (slot.place incoming placement).contained) :
    child ∈ (forest.attach node feature incoming placement).childrenOf node feature := by
  obtain ⟨slot, held, fits⟩ := wellLinked.conforming.slot?_detachAll incoming found known
  rw [childrenOf_attach_self, held]
  exact places slot fits

theorem WellLinked.apply (wellLinked : forest.WellLinked) {edit : Edit}
    (applied : forest.apply edit = .ok after) : after.WellLinked := by
  have linked := wellLinked.toLinked
  match edit with
  | .setAttribute node feature value =>
      obtain ⟨cell, declared, found, known, kind, rfl⟩ := setAttribute_eq_ok_iff.mp applied
      exact wellLinked.setSlot found known (by rw [kind]; rfl) (by rw [kind]; rfl)
  | .setReference node feature link =>
      obtain ⟨cell, declared, found, known, kind, rfl⟩ := setReference_eq_ok_iff.mp applied
      exact wellLinked.setSlot found known (FeatureType.isContainment_of_isReference kind)
        (Slot.fits_reference kind _)
  | .resolveReference node feature target =>
      obtain ⟨cell, declared, link, found, known, kind, _, rfl⟩ :=
        resolveReference_eq_ok_iff.mp applied
      exact wellLinked.setSlot found known (FeatureType.isContainment_of_isReference kind)
        (Slot.fits_reference kind _)
  | .setChild node feature child =>
      obtain ⟨cell, declared, target, found, known, kind, accepted, rfl⟩ :=
        setChild_eq_ok_iff.mp applied
      refine wellLinked.attach (fun inner member => ?_) (fun inner member => ?_)
        (by cases child <;> simp)
      · exact (accepted inner (Option.mem_toList.mp member)).movable linked
      · refine wellLinked.taken found known fun slot fits => ?_
        exact Slot.mem_place_of_child (kind ▸ fits) member
  | .setChildren node feature children =>
      obtain ⟨cell, declared, target, found, known, kind, distinct, accepted, rfl⟩ :=
        setChildren_eq_ok_iff.mp applied
      refine wellLinked.attach (fun inner member => ?_) (fun inner member => ?_) distinct
      · exact (accepted inner member).movable linked
      · refine wellLinked.taken found known fun slot fits => ?_
        exact Slot.mem_place_of_children (kind ▸ fits) member
  | .addChild node feature child =>
      obtain ⟨cell, declared, target, found, known, kind, accepted, rfl⟩ :=
        addChild_eq_ok_iff.mp applied
      refine wellLinked.attach (fun inner member => ?_) (fun inner member => ?_) (by simp)
      · rw [List.mem_singleton] at member
        exact member ▸ accepted.movable linked
      · refine wellLinked.taken found known fun slot fits => ?_
        exact Slot.mem_place_of_children (kind ▸ fits) member
  | .setOrigin node origin =>
      cases applied
      exact wellLinked.setMetadata (fun _ => rfl) (fun _ => rfl) fun _ => rfl
  | .setRange node range =>
      cases applied
      exact wellLinked.setMetadata (fun _ => rfl) (fun _ => rfl) fun _ => rfl
  | .setSource node source =>
      cases applied
      exact wellLinked.setMetadata (fun _ => rfl) (fun _ => rfl) fun _ => rfl

theorem exists_getElem?_of_containingFeature? {index : Nat}
    (found : forest.containingFeature? node = some (feature, index)) :
    ∃ parent, forest.parent? node = some parent ∧
      (forest.childrenOf parent feature)[index]? = some node := by
  unfold containingFeature? at found
  cases up : forest.parent? node with
  | none => simp [up] at found
  | some parent =>
      cases there : forest.cell? parent with
      | none => simp [up, there] at found
      | some cell =>
          simp only [up, there, Option.bind_eq_bind, Option.bind_some] at found
          obtain ⟨⟨name, slot⟩, member, place⟩ := List.exists_of_findSome?_eq_some found
          obtain ⟨position, isPosition, same⟩ := Option.map_eq_some_iff.mp place
          cases same
          have held : cell.slot? name = some slot := Registry.mem_entries_iff.mp member
          obtain ⟨within, isNode, _⟩ := List.idxOf?_eq_some_iff.mp isPosition
          have inSlot : slot.contained[index]? = some node :=
            List.getElem?_eq_some_iff.mpr ⟨within, isNode⟩
          exact ⟨parent, rfl, by simpa [childrenOf, there, Cell.childrenOf, held] using inSlot⟩

theorem containingFeature?_isSome (up : forest.parent? node = some parent)
    (member : node ∈ forest.childrenOf parent feature) :
    (forest.containingFeature? node).isSome = true := by
  cases there : forest.cell? parent with
  | none => simp [childrenOf, there] at member
  | some cell =>
      rw [childrenOf, there] at member
      cases held : cell.slot? feature with
      | none => simp [Cell.childrenOf, held] at member
      | some slot =>
          have entry : (feature, slot) ∈ cell.slots := Registry.mem_entries_iff.mpr held
          have inSlot : node ∈ slot.contained := by simpa [Cell.childrenOf, held] using member
          rw [containingFeature?, up]
          simp only [there, Option.bind_eq_bind, Option.bind_some]
          rw [List.findSome?_isSome_iff]
          exact ⟨(feature, slot), entry, by simpa using inSlot⟩

/-- What a reader of the forest sees: a set of trees whose two records agree. -/
structure TreeShaped (forest : Forest) : Prop where
  /-- A node stands in one place at most, over all features of all nodes. -/
  once : ∀ {node first second firstFeature secondFeature} {firstIndex secondIndex : Nat},
    (forest.childrenOf first firstFeature)[firstIndex]? = some node →
    (forest.childrenOf second secondFeature)[secondIndex]? = some node →
    first = second ∧ firstFeature = secondFeature ∧ firstIndex = secondIndex
  contained : ∀ {node container feature} {index : Nat},
    (forest.childrenOf container feature)[index]? = some node →
    forest.parent? node = some container
  /-- The parent contains the node, in just the place that `containingFeature?` gives. -/
  placed : ∀ {node parent}, forest.parent? node = some parent →
    ∃ feature index, forest.containingFeature? node = some (feature, index) ∧
      ∀ name, ∀ position : Nat, (forest.childrenOf parent name)[position]? = some node ↔
        name = feature ∧ position = index
  acyclic : ∀ node, ¬ forest.IsAncestor node node
  grounded : forest.Grounded
  /-- The list of ancestors has every node above and ends at a node without a parent. -/
  ancestors : ∀ node, (∀ above, above ∈ forest.ancestors node ↔ forest.IsAncestor above node) ∧
    forest.parent? (forest.root node) = none

theorem index_unique {first second : String} {firstIndex secondIndex : Nat}
    (distinct : (forest.childrenOf container first).Nodup)
    (single : node ∈ forest.childrenOf container first →
      node ∈ forest.childrenOf container second → first = second)
    (here : (forest.childrenOf container first)[firstIndex]? = some node)
    (there : (forest.childrenOf container second)[secondIndex]? = some node) :
    first = second ∧ firstIndex = secondIndex := by
  obtain rfl := single (List.mem_of_getElem? here) (List.mem_of_getElem? there)
  refine ⟨rfl, ?_⟩
  obtain ⟨within, _⟩ := List.getElem?_eq_some_iff.mp here
  exact (List.getElem?_inj within distinct).mp (here.trans there.symm)

theorem Linked.index_unique (linked : forest.Linked) {first second : String}
    {firstIndex secondIndex : Nat}
    (here : (forest.childrenOf container first)[firstIndex]? = some node)
    (there : (forest.childrenOf container second)[secondIndex]? = some node) :
    first = second ∧ firstIndex = secondIndex :=
  Forest.index_unique (linked.distinct container first) linked.single here there

theorem WellLinked.treeShaped (wellLinked : forest.WellLinked) : forest.TreeShaped where
  once {node first second firstFeature secondFeature firstIndex secondIndex} here there := by
    have firstUp := wellLinked.linked (List.mem_of_getElem? here)
    have secondUp := wellLinked.linked (List.mem_of_getElem? there)
    have same : first = second := Option.some.inj (firstUp.symm.trans secondUp)
    subst same
    exact ⟨rfl, wellLinked.toLinked.index_unique here there⟩
  contained member := wellLinked.toLinked.parent?_of_mem (List.mem_of_getElem? member)
  placed {node parent} up := by
    obtain ⟨name, member⟩ := wellLinked.anchored up
    obtain ⟨⟨feature, index⟩, found⟩ :=
      Option.isSome_iff_exists.mp (containingFeature?_isSome up member)
    refine ⟨feature, index, found, fun other position => ⟨fun there => ?_, ?_⟩⟩
    · obtain ⟨same, sameUp, here⟩ := exists_getElem?_of_containingFeature? found
      cases up.symm.trans sameUp
      exact wellLinked.toLinked.index_unique there here
    · intro both
      obtain ⟨rfl, rfl⟩ := both
      obtain ⟨same, sameUp, here⟩ := exists_getElem?_of_containingFeature? found
      cases up.symm.trans sameUp
      exact here
  acyclic := wellLinked.grounded.not_isAncestor_self
  grounded := wellLinked.grounded
  ancestors node := ⟨fun above => wellLinked.grounded.mem_ancestors_iff,
    wellLinked.grounded.parent?_root node⟩

end Forest

/-- Everything that can be done to a forest from outside. -/
inductive Operation where
  | create (concept : String)
  | createGeneric
  | createError (message : String)
  | edit (edit : Edit)
  | hold (handle : String) (node : NodeId)
  | release (handle : String)
  /-- Lets go of all nodes that neither a handle nor one of `others` keeps. -/
  | sweep (others : List NodeId)

namespace Forest

variable {decls : List ConceptDecl} {schema : Schema}

/-- The forest after an operation; one that is refused leaves it as it is. -/
def perform (schema : Schema) (forest : Forest) : Operation → Forest
  | .create concept =>
      match forest.create schema concept with
      | .ok (_, after) => after
      | .error _ => forest
  | .createGeneric => forest.createGeneric.2
  | .createError message => (forest.createError message).2
  | .edit edit =>
      match forest.apply edit with
      | .ok after => after
      | .error _ => forest
  | .hold handle node => forest.hold handle node
  | .release handle => forest.release handle
  | .sweep others => forest.sweep others

/-- The forest that a sequence of operations makes out of nothing. -/
def run (schema : Schema) (operations : List Operation) : Forest :=
  operations.foldl (perform schema) ∅

theorem WellLinked.perform {forest : Forest} (built : Schema.build decls = .ok schema)
    (wellLinked : forest.WellLinked) (operation : Operation) :
    (forest.perform schema operation).WellLinked := by
  have sameCells (handles : Registry String NodeId) :
      forest.Swept { forest with handles := handles } :=
    ⟨fun _ _ found => found, fun _ _ _ _ => rfl, rfl⟩
  match operation with
  | .create concept =>
      simp only [Forest.perform, Forest.create]
      cases found : schema.concept? concept with
      | none => exact wellLinked
      | some declared =>
          exact wellLinked.add (Cell.bare_blank declared)
            (Cell.conforms_blank (Schema.features_nodup built found))
  | .createGeneric =>
      exact wellLinked.add (Cell.bare_blank _) (Cell.conforms_blank (by decide))
  | .createError message =>
      refine wellLinked.add ((Cell.bare_blank _).setSlot _ rfl) ?_
      refine (Cell.conforms_blank (by decide)).changeSlot fun slot held => ?_
      obtain ⟨feature, member, same⟩ := List.mem_map.mp (Registry.mem_of_get?_ofEntries held)
      cases List.mem_singleton.mp member
      cases same
      intro type fits
      cases type <;> exact fits
  | .edit edit =>
      simp only [Forest.perform]
      cases applied : forest.apply edit with
      | error reason => exact wellLinked
      | ok after => exact wellLinked.apply applied
  | .hold handle node => exact wellLinked.swept (sameCells _)
  | .release handle => exact wellLinked.swept (sameCells _)
  | .sweep others => exact wellLinked.swept (swept_sweepRounds _ _)

theorem wellLinked_run (built : Schema.build decls = .ok schema)
    (operations : List Operation) : (run schema operations).WellLinked := by
  suffices general : ∀ forest : Forest, forest.WellLinked →
      (operations.foldl (perform schema) forest).WellLinked by
    exact general ∅ .empty
  induction operations with
  | nil => exact fun forest wellLinked => wellLinked
  | cons operation rest ih =>
      exact fun forest wellLinked => ih _ (wellLinked.perform built operation)

/-- Over every schema, every sequence of operations leaves a set of trees. -/
theorem treeShaped_run (built : Schema.build decls = .ok schema)
    (operations : List Operation) : (run schema operations).TreeShaped :=
  (wellLinked_run built operations).treeShaped

/-- Two nodes in one list, then one of them moved into the other, and its old container
let go. -/
theorem treeShaped_run_nested :
    ∃ schema, Schema.build [(ConceptDecl.named "Box").addFeature "items" (.children "Box")] =
        .ok schema ∧
      (run schema [.create "Box", .create "Box", .create "Box",
        .edit (.setChildren 0 "items" [1, 2]), .edit (.addChild 1 "items" 2),
        .edit (.addChild 2 "items" 0), .hold "inner" 1, .sweep []]).TreeShaped := by
  cases built : Schema.build
      [(ConceptDecl.named "Box").addFeature "items" (.children "Box")] with
  | error reason =>
      have accepted : (Schema.build
          [(ConceptDecl.named "Box").addFeature "items" (.children "Box")]).isOk = true := by
        decide +kernel
      rw [built] at accepted
      cases accepted
  | ok schema => exact ⟨schema, rfl, treeShaped_run built _⟩

end Forest

end TypedTree
