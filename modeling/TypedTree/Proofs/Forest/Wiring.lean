import TypedTree.Proofs.Forest.Growth

namespace TypedTree

/-! # Filling the features of a new node

A new node is filled feature by feature. Whatever a feature takes in was made after the
node, directly before it is put into its place. `Wiring` is the state in between: some
features are filled, the others are empty, and the nodes made so far are the trees in the
filled ones.
-/

theorem Cell.changeSlot_eq_setSlot {cell : Cell} {name : String} {slot : Slot}
    (held : cell.slot? name = some slot) (change : Slot → Slot) :
    cell.changeSlot name change = cell.setSlot name (change slot) := by
  have entry : (name, slot) ∈ cell.slots := Registry.mem_entries_iff.mpr held
  obtain ⟨first, last, slots⟩ := List.append_of_mem entry
  have content : (cell.changeSlot name change).content =
      (cell.setSlot name (change slot)).content :=
    Registry.ext ((Cell.slots_changeSlot slots change).trans
      (Cell.slots_changeSlot slots fun _ => change slot).symm)
  exact congrArg (fun content => { cell with content := content }) content

namespace Forest

variable {forest before grown : Forest} {node child : NodeId} {cell base : Cell}
  {feature : Feature} {slot : Slot} {target : String}
  {filled : List (String × Slot)} {rest : List Feature}
  {parts : List (String × Part Sketch)} {part : Part Sketch}

/-- The trees at `nodes` look like `sketches`, which are at most `size` levels deep. -/
def Shows (forest : Forest) (nodes : List NodeId) (sketches : List Sketch) (size : Nat) : Prop :=
  ∀ depth ≥ size, nodes.map (forest.sketchTo depth) = sketches.map some

theorem Shows.cons_inv {nodes : List NodeId} {sketches : List Sketch} {size : Nat}
    (shown : forest.Shows (node :: nodes) sketches size) :
    ∃ first others, sketches = first :: others ∧
      (∀ depth ≥ size, forest.sketchTo depth node = some first) ∧
      forest.Shows nodes others size := by
  cases sketches with
  | nil => cases shown size (Nat.le_refl _)
  | cons first others =>
      refine ⟨first, others, rfl, fun depth enough => ?_, fun depth enough => ?_⟩
      · exact (List.cons.inj (shown depth enough)).1
      · exact (List.cons.inj (shown depth enough)).2

/-- A node whose ancestors were all made before it. -/
def Young (forest : Forest) (node : NodeId) : Prop := ∀ above ∈ forest.ancestors node, above < node

theorem young_of_links
    (older : ∀ lower ≤ node, ∀ parent, forest.parentLink? lower = some parent → parent < node) :
    forest.Young node := by
  suffices general : ∀ count start, start ≤ node →
      ∀ above ∈ forest.ancestorsUpTo count start, above < node by
    exact general forest.nextId node (Nat.le_refl _)
  intro count
  induction count with
  | zero => exact fun start _ above member => by cases member
  | succ count ih =>
      intro start within above member
      cases found : forest.parent? start with
      | none => simp [ancestorsUpTo, found] at member
      | some parent =>
          have lower := older start within parent (parent?_eq_some_iff.mp found).1
          rw [ancestorsUpTo, found] at member
          rcases List.mem_cons.mp member with rfl | further
          · exact lower
          · exact ih parent (Nat.le_of_lt lower) above further

theorem concept?_of_sketchTo {depth : Nat} {sketch : Sketch}
    (shown : forest.sketchTo depth node = some sketch) :
    forest.concept? node = some sketch.concept := by
  cases depth with
  | zero => cases shown
  | succ depth =>
      obtain ⟨cell, found, rfl⟩ := Option.map_eq_some_iff.mp shown
      rw [concept?, found]
      rfl

theorem checkChild_of_young (young : forest.Young node) (later : node < child) {sketch : Sketch}
    (kind : forest.concept? child = some sketch.concept)
    (expected : feature.type.target? = some target) :
    forest.checkChild node cell feature child =
      if sketch.fits target then .ok ()
      else .error (.rejected cell.concept.name feature.name
        (.wrongType target sketch.concept.name)) := by
  have apart : (child = node || (forest.ancestors node).contains child) = false := by
    have notSelf : child ≠ node := Nat.ne_of_gt later
    have notAbove : child ∉ forest.ancestors node := fun member =>
      Nat.lt_asymm (young child member) later
    simp [notSelf, notAbove]
  rw [checkChild, apart, if_neg Bool.false_ne_true, kind, expected, Sketch.fits_eq]

/-- Children that are new are refused only for the first one of the wrong type. -/
theorem checkChildren_of_young (young : forest.Young node) {seen children : List NodeId}
    {sketches : List Sketch} {size : Nat} (shown : forest.Shows children sketches size)
    (later : ∀ child ∈ children, node < child) (distinct : children.Nodup)
    (unseen : ∀ child ∈ children, child ∉ seen) (expected : feature.type.target? = some target) :
    forest.checkChildren node cell feature seen children =
      match sketches.find? (!·.fits target) with
      | none => .ok ()
      | some misfit => .error (.rejected cell.concept.name feature.name
          (.wrongType target misfit.concept.name)) := by
  induction children generalizing seen sketches with
  | nil =>
      have none : sketches = [] := by simpa using (shown size (Nat.le_refl _)).symm
      rw [none]
      rfl
  | cons child rest ih =>
      obtain ⟨first, others, rfl, shownFirst, shownOthers⟩ := shown.cons_inv
      rw [List.nodup_cons] at distinct
      have kind := concept?_of_sketchTo (shownFirst size (Nat.le_refl _))
      have here : forest.checkChild node cell feature child = _ :=
        checkChild_of_young young (later child List.mem_cons_self) kind expected
      rw [checkChildren, if_neg (unseen child List.mem_cons_self), here, List.find?_cons]
      cases fits : first.fits target with
      | false => rfl
      | true =>
          refine ih shownOthers (fun inner member => later inner (List.mem_cons_of_mem _ member))
            distinct.2 fun inner member inSeen => ?_
          rcases List.mem_cons.mp inSeen with same | earlier
          · exact distinct.1 (same ▸ member)
          · exact unseen inner (List.mem_cons_of_mem _ member) earlier

/-- The first node made after `before` is being filled: it started as `base`, its features
`filled` hold the nodes made since then, which look like `parts`, and the features `rest`
are empty. -/
structure Wiring (before : Forest) (base : Cell) (forest : Forest)
    (filled : List (String × Slot)) (rest : List Feature) (parts : List (String × Part Sketch)) :
    Prop where
  known : before.LinksKnown
  lower : ∀ above, base.parent = some above → above < before.nextId
  extended : before.Extends forest
  knownNow : forest.LinksKnown
  cell : ∃ cell, forest.cell? before.nextId = some cell ∧
    cell = { base with content := cell.content } ∧
    cell.slots = filled ++ rest.map fun feature => (feature.name, .empty feature.type)
  grown : forest.Grown (filled.flatMap (·.2.contained)) (before.nextId + 1)
    (forest.nextId - (before.nextId + 1))
  linked : ∀ child ∈ filled.flatMap (·.2.contained),
    forest.parentLink? child = some before.nextId
  shown : ∀ depth ≥ forest.nextId - (before.nextId + 1),
    filled.map (fun slot => (slot.1, slot.2.toPart (forest.sketchTo depth))) = parts

namespace Wiring

variable (wiring : Wiring before base forest filled rest parts)
include wiring

theorem nextId_lt : before.nextId < forest.nextId := by
  obtain ⟨cell, found, _⟩ := wiring.cell
  exact lt_nextId_of_isAlive (by simp [isAlive, found])

theorem young (extended : forest.Extends grown) : grown.Young before.nextId := by
  refine young_of_links fun lower within parent link => ?_
  rw [parentLink?, extended.cells lower (Nat.lt_of_le_of_lt within wiring.nextId_lt)] at link
  rcases Nat.lt_or_eq_of_le within with older | rfl
  · rw [wiring.extended.cells lower older] at link
    exact wiring.known lower parent link
  · obtain ⟨cell, found, isBase, _⟩ := wiring.cell
    rw [found, Option.bind_some, isBase] at link
    exact wiring.lower parent link

/-! The node being filled comes before all nodes made for it, so changing it leaves them
as they are. -/

theorem cell?_since (extended : forest.Extends grown) (change : Cell → Cell) :
    ∀ node ∈ List.range' (before.nextId + 1) (forest.nextId - (before.nextId + 1)),
      (grown.modify before.nextId change).cell? node = forest.cell? node := by
  intro node member
  have start := wiring.nextId_lt
  rw [List.mem_range'_1] at member
  rw [cell?_modify, if_neg (by lia), extended.cells node (by lia)]

theorem cell?_new (change : Cell → Cell) (size : Nat) :
    ∀ node ∈ List.range' forest.nextId size,
      (grown.modify before.nextId change).cell? node = grown.cell? node := by
  intro node member
  have start := wiring.nextId_lt
  rw [List.mem_range'_1] at member
  rw [cell?_modify, if_neg (by lia)]

theorem parts_eq {after : Forest}
    (same : ∀ node ∈ List.range' (before.nextId + 1) (forest.nextId - (before.nextId + 1)),
      after.cell? node = forest.cell? node)
    {depth : Nat} (enough : depth ≥ forest.nextId - (before.nextId + 1)) :
    filled.map (fun slot => (slot.1, slot.2.toPart (after.sketchTo depth))) = parts := by
  rw [← wiring.shown depth enough]
  refine List.map_congr_left fun held inFilled => ?_
  refine Prod.ext rfl (Slot.toPart_congr fun child contained => ?_)
  have root : child ∈ filled.flatMap (·.2.contained) :=
    List.mem_flatMap.mpr ⟨held, inFilled, contained⟩
  exact wiring.grown.sketchTo_eq same (wiring.grown.mem_of_root root) depth

end Wiring

theorem Wiring.lt_of_root (wiring : Wiring before base forest filled rest parts)
    {children : List NodeId} {size : Nat} (roots : grown.Grown children forest.nextId size) :
    ∀ child ∈ children, before.nextId < child := by
  intro child member
  have new := (List.mem_range'_1.mp (roots.mem_of_root member)).1
  exact Nat.lt_of_lt_of_le wiring.nextId_lt new

/-- The next feature takes in trees that were just made. -/
theorem Wiring.fill (wiring : Wiring before base forest filled (feature :: rest) parts)
    (extended : forest.Extends grown) (known : grown.LinksKnown)
    (roots : grown.Grown slot.contained forest.nextId (grown.nextId - forest.nextId))
    (linked : ∀ child ∈ slot.contained, grown.parentLink? child = some before.nextId)
    (shown : ∀ depth ≥ grown.nextId - forest.nextId,
      slot.toPart (grown.sketchTo depth) = part) :
    Wiring before base (grown.modify before.nextId (·.setSlot feature.name slot))
      (filled ++ [(feature.name, slot)]) rest (parts ++ [(feature.name, part)]) := by
  have start := wiring.nextId_lt
  have further := extended.nextId
  obtain ⟨cell, found, isBase, slots⟩ := wiring.cell
  have sinceThen := wiring.cell?_since extended (·.setSlot feature.name slot)
  have justMade : ∀ node ∈ List.range' forest.nextId (grown.nextId - forest.nextId),
      (grown.modify before.nextId (·.setSlot feature.name slot)).cell? node = grown.cell? node :=
    wiring.cell?_new _ _
  have links (node : NodeId) :
      (grown.modify before.nextId (·.setSlot feature.name slot)).parentLink? node =
        grown.parentLink? node := parentLink?_modify_of_same fun _ => rfl
  refine ⟨wiring.known, wiring.lower, ?_, ?_, ?_, ?_, ?_, ?_⟩
  · exact (wiring.extended.trans extended).modify (Nat.le_refl _) _
  · intro node parent link
    rw [links] at link
    rw [nextId_modify]
    exact known node parent link
  · refine ⟨cell.setSlot feature.name slot, ?_, ?_, ?_⟩
    · rw [cell?_modify, if_pos rfl, extended.cells _ start, found, Option.map_some]
    · rw [isBase]
      rfl
    · refine (Cell.slots_changeSlot slots fun _ => slot).trans ?_
      rw [List.append_assoc, List.singleton_append]
  · have total : grown.nextId - (before.nextId + 1) =
        forest.nextId - (before.nextId + 1) + (grown.nextId - forest.nextId) := by lia
    have mark : before.nextId + 1 + (forest.nextId - (before.nextId + 1)) = forest.nextId := by lia
    rw [List.flatMap_append, List.flatMap_singleton, nextId_modify, total]
    refine (wiring.grown.congr sinceThen).append ?_
    rw [mark]
    exact roots.congr justMade
  · intro child member
    rw [links]
    rw [List.flatMap_append, List.flatMap_singleton, List.mem_append] at member
    rcases member with old | new
    · have inside := wiring.grown.mem_of_root old
      rw [List.mem_range'_1] at inside
      rw [parentLink?, extended.cells child (by lia)]
      exact wiring.linked child old
    · exact linked child new
  · intro depth enough
    rw [nextId_modify] at enough
    have newPart : slot.toPart
        ((grown.modify before.nextId (·.setSlot feature.name slot)).sketchTo depth) = part := by
      rw [← shown depth (by lia)]
      refine Slot.toPart_congr fun child contained => ?_
      exact roots.sketchTo_eq justMade (roots.mem_of_root contained) depth
    rw [List.map_append, List.map_singleton, wiring.parts_eq sinceThen (by lia), newPart]

theorem Wiring.fillBare (wiring : Wiring before base forest filled (feature :: rest) parts)
    (bare : slot.contained = []) (shown : ∀ read, slot.toPart read = part) :
    Wiring before base (forest.modify before.nextId (·.setSlot feature.name slot))
      (filled ++ [(feature.name, slot)]) rest (parts ++ [(feature.name, part)]) := by
  refine wiring.fill (.refl forest) wiring.knownNow ?_ ?_ fun depth _ => shown _
  · rw [bare, Nat.sub_self]
    exact .nil forest _
  · rw [bare]
    exact nofun

theorem Wiring.skip (wiring : Wiring before base forest filled (feature :: rest) parts) :
    Wiring before base forest (filled ++ [(feature.name, .empty feature.type)]) rest
      (parts ++ [(feature.name, .empty feature.type)]) := by
  have nodes : (filled ++ [(feature.name, Slot.empty feature.type)]).flatMap
      (fun slot => slot.2.contained) = filled.flatMap (·.2.contained) := by simp
  obtain ⟨cell, found, isBase, slots⟩ := wiring.cell
  refine { wiring with cell := ⟨cell, found, isBase, ?_⟩, grown := ?_, linked := ?_, shown := ?_ }
  · rw [slots, List.append_assoc]
    rfl
  · rw [nodes]
    exact wiring.grown
  · rw [nodes]
    exact wiring.linked
  · intro depth enough
    rw [List.map_append, wiring.shown depth enough]
    simp

theorem Wiring.skipAll (wiring : Wiring before base forest filled rest parts) :
    Wiring before base forest
      (filled ++ rest.map fun feature => (feature.name, .empty feature.type)) []
      (parts ++ rest.map fun feature => (feature.name, .empty feature.type)) := by
  induction rest generalizing filled parts with
  | nil => simpa using wiring
  | cons feature rest ih => simpa using ih wiring.skip

section

variable (wiring : Wiring before base forest filled (feature :: rest) parts)
  (extended : forest.Extends grown)
include wiring extended

/-- The feature that comes next is empty, and nothing made later stands in the node. -/
theorem Wiring.next :
    ∃ cell, grown.cell? before.nextId = some cell ∧ cell.concept = base.concept ∧
      cell.slot? feature.name = some (.empty feature.type) ∧
      ∀ child, forest.nextId ≤ child → child ≠ before.nextId ∧
        ∀ name, child ∉ cell.childrenOf name := by
  obtain ⟨cell, found, isBase, slots⟩ := wiring.cell
  have start := wiring.nextId_lt
  refine ⟨cell, (extended.cells _ start).trans found, by rw [isBase], ?_, ?_⟩
  · refine Registry.mem_entries_iff.mp (?_ : (feature.name, _) ∈ cell.slots)
    rw [slots]
    exact List.mem_append_right _ List.mem_cons_self
  · intro child new
    refine ⟨by lia, fun name contained => ?_⟩
    have inside : child ∈ cell.children := Cell.mem_children_iff.mpr ⟨name, contained⟩
    have empty : ((feature :: rest).map fun feature =>
        (feature.name, Slot.empty feature.type)).flatMap (fun slot => slot.2.contained) = [] := by
      simp [List.flatMap_map]
    rw [Cell.children, slots, List.flatMap_append, empty, List.append_nil] at inside
    have older := wiring.grown.mem_of_root inside
    rw [List.mem_range'_1] at older
    lia

theorem Wiring.attach {children : List NodeId} {size : Nat}
    (roots : grown.Grown children forest.nextId size)
    (linked : ∀ child ∈ children, grown.parentLink? child = some before.nextId)
    (placement : Placement) :
    grown.attach before.nextId feature.name children placement =
      grown.modify before.nextId
        (·.setSlot feature.name ((Slot.empty feature.type).place children placement)) := by
  obtain ⟨cell, found, concept, held, apart⟩ := wiring.next extended
  have elsewhere (child : NodeId) (member : child ∈ children) :
      child ≠ before.nextId ∧ ∀ name, child ∉ cell.childrenOf name :=
    apart child (List.mem_range'_1.mp (roots.mem_of_root member)).1
  rw [attach_of_absent found roots.nodup_roots linked elsewhere held (Slot.contained_empty _)]
  refine ext_cell? (by simp) (by simp) fun node => ?_
  rw [cell?_modify, cell?_modify]
  split
  · next here => rw [here, found, Option.map_some, Option.map_some, Cell.changeSlot_eq_setSlot held]
  · rfl

variable (declared : base.concept.feature? feature.name = some feature)
include declared

theorem Wiring.setAttribute (kind : feature.type = .attribute) (value : Option Value) :
    grown.apply (.setAttribute before.nextId feature.name value) =
      .ok (grown.modify before.nextId (·.setSlot feature.name (.attribute value))) := by
  obtain ⟨cell, found, concept, _⟩ := wiring.next extended
  exact setAttribute_eq_ok_iff.mpr ⟨cell, feature, found, by rwa [concept], kind, rfl⟩

theorem Wiring.setReference (kind : feature.type.isReference = true) (link : Option Reference) :
    grown.apply (.setReference before.nextId feature.name link) =
      .ok (grown.modify before.nextId (·.setSlot feature.name (.reference link))) := by
  obtain ⟨cell, found, concept, _⟩ := wiring.next extended
  exact setReference_eq_ok_iff.mpr ⟨cell, feature, found, by rwa [concept], kind, rfl⟩

theorem Wiring.setChildren {children : List NodeId} {sketches : List Sketch} {size : Nat}
    (linked : ∀ child ∈ children, grown.parentLink? child = some before.nextId)
    (roots : grown.Grown children forest.nextId size)
    (shown : grown.Shows children sketches size) (kind : feature.type = .children target) :
    grown.apply (.setChildren before.nextId feature.name children) =
      match sketches.find? (!·.fits target) with
      | none => .ok (grown.modify before.nextId (·.setSlot feature.name (.children children)))
      | some misfit => .error (.rejected base.concept.name feature.name
          (.wrongType target misfit.concept.name)) := by
  obtain ⟨cell, found, concept, _⟩ := wiring.next extended
  have later := wiring.lt_of_root roots
  have checked : grown.checkChildren before.nextId cell feature [] children = _ :=
    checkChildren_of_young (wiring.young extended) shown later roots.nodup_roots
      (fun _ _ => List.not_mem_nil) (by rw [kind]; rfl)
  refine (setChildren_of_feature found (by rwa [concept]) kind children).trans ?_
  rw [checked, concept, wiring.attach extended roots linked, kind]
  cases sketches.find? (!·.fits target) <;> rfl

theorem Wiring.setChild {child : NodeId} {sketch : Sketch} {size : Nat}
    (linked : grown.parentLink? child = some before.nextId)
    (root : grown.Grown [child] forest.nextId size)
    (shown : grown.sketchTo size child = some sketch) (kind : feature.type = .child target) :
    grown.apply (.setChild before.nextId feature.name (some child)) =
      if sketch.fits target then
        .ok (grown.modify before.nextId (·.setSlot feature.name (.child (some child))))
      else .error (.rejected base.concept.name feature.name
        (.wrongType target sketch.concept.name)) := by
  obtain ⟨cell, found, concept, _⟩ := wiring.next extended
  have later := wiring.lt_of_root root child List.mem_cons_self
  have checked : grown.checkChild before.nextId cell feature child = _ :=
    checkChild_of_young (wiring.young extended) later (concept?_of_sketchTo shown)
      (by rw [kind]; rfl)
  have placed := wiring.attach extended root (by simpa using linked) .replace
  refine (setChild_of_feature found (by rwa [concept]) kind (some child)).trans ?_
  change (grown.checkChild before.nextId cell feature child >>= fun _ => .ok PUnit.unit).map
    (fun _ => grown.attach before.nextId feature.name [child] .replace) = _
  rw [checked, concept, placed, kind]
  cases sketch.fits target <;> rfl

theorem Wiring.setNoChild (kind : feature.type = .child target) :
    grown.apply (.setChild before.nextId feature.name none) =
      .ok (grown.modify before.nextId (·.setSlot feature.name (.child none))) := by
  obtain ⟨cell, found, concept, _⟩ := wiring.next extended
  have placed := wiring.attach extended (Grown.nil grown forest.nextId) (by simp) .replace
  refine (setChild_of_feature found (by rwa [concept]) kind none).trans ?_
  change Except.ok (grown.attach before.nextId feature.name [] .replace) = _
  rw [placed, kind]
  rfl

end

end Forest

end TypedTree
