import TypedTree.Proofs.Forest.Placing
import TypedTree.Scope

namespace TypedTree

namespace Slot

def untargeted : Slot → Slot
  | .attribute value => .attribute value
  | .child node => .child node
  | .children nodes => .children nodes
  | .reference link => .reference (link.map fun link => { link with target := none })

def target? : Slot → Option NodeId
  | .reference link => link.bind (·.target)
  | .attribute _ | .child _ | .children _ => none

@[simp]
theorem contained_untargeted (slot : Slot) : slot.untargeted.contained = slot.contained := by
  cases slot <;> rfl

@[simp]
theorem fits_untargeted (slot : Slot) (type : FeatureType) :
    slot.untargeted.fits type = slot.fits type := by
  cases slot <;> cases type <;> rfl

theorem eq_of_untargeted_eq {first second : Slot} (same : first.untargeted = second.untargeted)
    (target : first.target? = second.target?) : first = second := by
  cases first <;> cases second <;> simp_all [untargeted]
  next link other =>
    cases link with
    | none => simpa [eq_comm] using same
    | some link =>
        obtain ⟨other, rfl, name⟩ := Option.map_eq_some_iff.mp same.symm
        simp only [target?, Option.bind_some] at target
        cases link
        cases other
        simp_all

end Slot

namespace Cell

variable {cell other : Cell} {feature : String} {link : Reference}

def untargeted (cell : Cell) : Cell := { cell with content := cell.content.mapValues (·.untargeted) }

def target? (cell : Cell) (feature : String) : Option NodeId :=
  (cell.reference? feature).bind (·.target)

theorem slot?_untargeted (cell : Cell) (feature : String) :
    cell.untargeted.slot? feature = (cell.slot? feature).map (·.untargeted) :=
  Registry.get?_mapValues cell.content feature (·.untargeted)

theorem target?_eq_slot? (cell : Cell) (feature : String) :
    cell.target? feature = (cell.slot? feature).bind (·.target?) := by
  rw [target?, reference?]
  cases cell.slot? feature with
  | none => rfl
  | some slot => cases slot <;> rfl

theorem slot?_of_reference? (set : cell.reference? feature = some link) :
    cell.slot? feature = some (.reference (some link)) := by
  unfold reference? at set
  split at set
  · next found => rw [found, set]
  · cases set

/-- A cell with a reference has a reference feature. -/
theorem Conforms.feature?_of_reference? {name : String} (conforms : cell.Conforms)
    (set : cell.reference? name = some link) :
    ∃ declared, cell.concept.feature? name = some declared ∧ declared.type.isReference = true := by
  have held := slot?_of_reference? set
  simp only [Conforms, Cell.slots] at conforms
  simp only [Cell.slot?, Registry.get?] at held
  simp only [Concept.feature?]
  generalize cell.content.entries = entries at conforms held
  generalize cell.concept.features = features at conforms
  induction conforms with
  | nil => cases held
  | @cons entry feature entries features head _ ih =>
      by_cases here : entry.1 = name
      · rw [List.find?_cons_of_pos (by simpa using here)] at held
        rw [List.find?_cons_of_pos (by simpa [head.1] using here)]
        obtain ⟨named, fits⟩ := head
        rw [Option.some.inj held] at fits
        refine ⟨feature, rfl, ?_⟩
        cases type : feature.type <;> simp_all [Slot.fits, FeatureType.isReference]
      · rw [List.find?_cons_of_neg (by simpa using here)] at held
        rw [List.find?_cons_of_neg (by simpa [head.1] using here)]
        exact ih held

@[simp]
theorem children_untargeted (cell : Cell) : cell.untargeted.children = cell.children := by
  simp [children, slots, untargeted, Registry.mapValues, List.flatMap_map]

theorem reference?_untargeted (cell : Cell) (feature : String) :
    cell.untargeted.reference? feature =
      (cell.reference? feature).map fun link => { link with target := none } := by
  rw [reference?, reference?, slot?_untargeted]
  cases cell.slot? feature with
  | none => rfl
  | some slot => cases slot <;> rfl

theorem name?_untargeted (cell : Cell) : cell.untargeted.name? = cell.name? := by
  rw [name?, name?, attribute?, attribute?, slot?_untargeted]
  cases cell.slot? "name" with
  | none => rfl
  | some slot => cases slot <;> rfl

theorem references_untargeted (cell : Cell) :
    cell.untargeted.references.map Prod.fst = cell.references.map Prod.fst := by
  simp only [references, slots, untargeted, Registry.mapValues, List.filterMap_map,
    List.map_filterMap]
  refine List.filterMap_congr fun entry _ => ?_
  obtain ⟨feature, slot⟩ := entry
  cases slot with
  | reference link => cases link <;> rfl
  | _ => rfl

theorem conforms_untargeted_iff : cell.untargeted.Conforms ↔ cell.Conforms := by
  simp [Conforms, slots, untargeted, Registry.mapValues]

theorem mem_references_iff :
    (feature, link) ∈ cell.references ↔ cell.reference? feature = some link := by
  constructor
  · intro member
    obtain ⟨⟨name, slot⟩, inSlots, shown⟩ := List.mem_filterMap.mp member
    have held : cell.slot? name = some slot := Registry.mem_entries_iff.mp inSlots
    match slot with
    | .reference (some other) =>
        cases shown
        rw [reference?, held]
    | .reference none | .attribute _ | .child _ | .children _ => cases shown
  · intro set
    have held := slot?_of_reference? set
    exact List.mem_filterMap.mpr ⟨_, Registry.mem_entries_iff.mpr held, rfl⟩

theorem untargeted_setSlot (set : cell.reference? feature = some link) (target : Option NodeId) :
    (cell.setSlot feature (.reference (some { link with target := target }))).untargeted =
      cell.untargeted := by
  have content : (cell.content.modify feature fun _ =>
        .reference (some { link with target := target })).mapValues (·.untargeted) =
      cell.content.mapValues (·.untargeted) := by
    refine Registry.ext ?_
    simp only [Registry.mapValues, Registry.modify, List.map_map]
    refine List.map_congr_left fun entry member => ?_
    by_cases here : entry.1 = feature
    · subst here
      have held := (Registry.mem_entries_iff.mp member).symm.trans (slot?_of_reference? set)
      simp [Option.some.inj held, Slot.untargeted]
    · simp [here]
  rw [untargeted, setSlot, changeSlot, content, untargeted]

theorem eq_of_untargeted_eq (same : cell.untargeted = other.untargeted)
    (targets : ∀ feature, cell.target? feature = other.target? feature) : cell = other := by
  have content : cell.content = other.content := by
    have entries := congrArg (·.content.entries) same
    simp only [untargeted, Registry.mapValues] at entries
    refine Registry.ext (List.ext_getElem? fun index => ?_)
    have here := congrArg (·[index]?) entries
    simp only [List.getElem?_map] at here
    cases first : cell.content.entries[index]? with
    | none => simpa [first, eq_comm] using here
    | some entry =>
        rw [first, Option.map_some, eq_comm, Option.map_eq_some_iff] at here
        obtain ⟨⟨name, slot⟩, second, parts⟩ := here
        obtain ⟨feature, held⟩ := entry
        obtain ⟨rfl, slots⟩ := Prod.mk.inj parts
        have target := targets name
        have inFirst : cell.slot? name = some held :=
          Registry.mem_entries_iff.mp (List.mem_of_getElem? first)
        have inSecond : other.slot? name = some slot :=
          Registry.mem_entries_iff.mp (List.mem_of_getElem? second)
        rw [target?_eq_slot?, target?_eq_slot?, inFirst, inSecond] at target
        have same : held = slot := Slot.eq_of_untargeted_eq slots.symm target
        rw [second, same]
  cases cell
  cases other
  simp only [untargeted, mk.injEq] at same content ⊢
  simp_all

end Cell

namespace Forest

variable {forest after : Forest} {node other target : NodeId} {feature name : String} {cell : Cell}
  {link : Reference}

def untargeted (forest : Forest) : Forest :=
  { forest with cells := forest.cells.map (·.map Cell.untargeted) }

def link? (forest : Forest) (node : NodeId) (feature : String) : Option Reference :=
  (forest.cell? node).bind (·.reference? feature)

def target? (forest : Forest) (node : NodeId) (feature : String) : Option NodeId :=
  (forest.link? node feature).bind (·.target)

@[simp]
theorem cell?_untargeted (forest : Forest) (node : NodeId) :
    forest.untargeted.cell? node = (forest.cell? node).map Cell.untargeted := by
  rw [cell?, cell?, untargeted, Array.getElem?_map]
  cases forest.cells[node]? with
  | none => rfl
  | some entry => cases entry <;> rfl

@[simp]
theorem nextId_untargeted (forest : Forest) : forest.untargeted.nextId = forest.nextId := by
  simp [nextId, untargeted]

@[simp]
theorem isAlive_untargeted (forest : Forest) (node : NodeId) :
    forest.untargeted.isAlive node = forest.isAlive node := by
  simp [isAlive]

@[simp]
theorem concept?_untargeted (forest : Forest) (node : NodeId) :
    forest.untargeted.concept? node = forest.concept? node := by
  simp [concept?, Function.comp_def, Cell.untargeted]

@[simp]
theorem isA_untargeted (forest : Forest) (node : NodeId) (concept : String) :
    forest.untargeted.isA node concept = forest.isA node concept := by
  simp [isA]

@[simp]
theorem children_untargeted (forest : Forest) (node : NodeId) :
    forest.untargeted.children node = forest.children node := by
  simp [children, Function.comp_def]

@[simp]
theorem parent?_untargeted (forest : Forest) (node : NodeId) :
    forest.untargeted.parent? node = forest.parent? node := by
  have alive : forest.untargeted.isAlive = forest.isAlive := funext forest.isAlive_untargeted
  rw [parent?, parent?, cell?_untargeted, alive]
  cases forest.cell? node <;> rfl

@[simp]
theorem walk_untargeted (forest : Forest) (node : NodeId) :
    forest.untargeted.walk node = forest.walk node := by
  have walkTo (depth : Nat) (node : NodeId) :
      forest.untargeted.walkTo depth node = forest.walkTo depth node := by
    induction depth generalizing node with
    | zero => rfl
    | succ depth ih => simp only [Forest.walkTo, children_untargeted, funext ih]
  rw [walk, walk, walkTo, nextId_untargeted]

theorem references_untargeted (forest : Forest) (node : NodeId) :
    (forest.untargeted.references node).map Prod.fst = (forest.references node).map Prod.fst := by
  rw [references, references, cell?_untargeted]
  cases forest.cell? node with
  | none => rfl
  | some cell => exact cell.references_untargeted

theorem link?_untargeted (forest : Forest) (node : NodeId) (feature : String) :
    forest.untargeted.link? node feature =
      (forest.link? node feature).map fun link => { link with target := none } := by
  rw [link?, link?, cell?_untargeted]
  cases forest.cell? node with
  | none => rfl
  | some cell => exact cell.reference?_untargeted feature

theorem mem_references_iff :
    (feature, link) ∈ forest.references node ↔ forest.link? node feature = some link := by
  rw [references, link?]
  cases forest.cell? node with
  | none => simp
  | some cell => exact Cell.mem_references_iff

theorem conforming_of_untargeted_eq (same : after.untargeted = forest.untargeted)
    (conforming : forest.Conforming) : after.Conforming := by
  intro node cell found
  have cells := congrArg (·.cell? node) same
  simp only [cell?_untargeted, found, Option.map_some] at cells
  obtain ⟨other, there, slots⟩ := Option.map_eq_some_iff.mp cells.symm
  rw [← Cell.conforms_untargeted_iff, ← slots, Cell.conforms_untargeted_iff]
  exact conforming node other there

/-- The name of a reference is part of the tree. -/
theorem exists_link?_of_untargeted_eq (same : after.untargeted = forest.untargeted)
    (set : forest.link? node feature = some link) :
    ∃ target, after.link? node feature = some { link with target := target } := by
  have links := congrArg (·.link? node feature) same
  simp only [link?_untargeted, set, Option.map_some] at links
  obtain ⟨other, found, names⟩ := Option.map_eq_some_iff.mp links
  refine ⟨other.target, found.trans (congrArg some ?_)⟩
  cases other
  cases names
  rfl

/-- A forest is its tree and its targets. -/
theorem eq_of_untargeted_eq (same : after.untargeted = forest.untargeted)
    (targets : ∀ node feature, after.target? node feature = forest.target? node feature) :
    after = forest := by
  refine ext_cell? (congrArg (·.handles) same) ?_ fun node => ?_
  · simpa using congrArg nextId same
  · have cells := congrArg (·.cell? node) same
    simp only [cell?_untargeted] at cells
    have here := targets node
    simp only [target?, link?] at here
    cases found : forest.cell? node with
    | none => simpa [found] using cells
    | some cell =>
        rw [found, Option.map_some, Option.map_eq_some_iff] at cells
        obtain ⟨other, there, slots⟩ := cells
        rw [there]
        refine congrArg some (Cell.eq_of_untargeted_eq slots fun feature => ?_)
        simpa [Cell.target?, there, found] using here feature

/-- The forest with one target written. -/
def point (forest : Forest) (node : NodeId) (feature : String) (link : Reference)
    (target : NodeId) : Forest :=
  forest.modify node (·.setSlot feature (.reference (some { link with target := some target })))

theorem untargeted_point (set : forest.link? node feature = some link) (target : NodeId) :
    (forest.point node feature link target).untargeted = forest.untargeted := by
  obtain ⟨cell, found, reference⟩ := Option.bind_eq_some_iff.mp set
  refine ext_cell? (handles_modify _ _ _) ?_ fun other => ?_
  · simp [point]
  · rw [cell?_untargeted, cell?_untargeted, point, cell?_modify]
    split
    · next here =>
        rw [here, found, Option.map_some, Option.map_some, Option.map_some,
          Cell.untargeted_setSlot reference]
    · rfl

theorem target?_point (set : forest.link? node feature = some link) (target : NodeId) :
    (forest.point node feature link target).target? other name =
      if other = node ∧ name = feature then some target else forest.target? other name := by
  obtain ⟨cell, found, reference⟩ := Option.bind_eq_some_iff.mp set
  rw [target?, link?, point, cell?_modify]
  by_cases here : other = node
  · subst here
    rw [if_pos rfl, found, target?, link?, found]
    have slot := Cell.slot?_of_reference? reference
    by_cases same : name = feature
    · subst same
      simp [Cell.reference?, Cell.slot?_setSlot, slot]
    · simp [Cell.reference?, Cell.slot?_setSlot, same]
  · simp [here, target?, link?]

end Forest

theorem Scope.defineAll_untargeted (scope : Scope) (forest : Forest) (nodes : List NodeId) :
    scope.defineAll forest.untargeted nodes = scope.defineAll forest nodes := by
  have define (scope : Scope) (node : NodeId) :
      scope.define forest.untargeted node = scope.define forest node := by
    rw [Scope.define, Scope.define, Forest.cell?_untargeted]
    cases forest.cell? node with
    | none => rfl
    | some cell => simp only [Option.map_some, Option.bind_some, Cell.name?_untargeted]
  simp only [defineAll, define]

theorem Scope.resolve_untargeted (scope : Scope) (forest : Forest) (name : String)
    (required : Option String) :
    scope.resolve forest.untargeted name required = scope.resolve forest name required := by
  simp only [resolve, Forest.isA_untargeted]

/-- What is found is of the type that was required. -/
theorem Scope.isA_of_resolve {scope : Scope} {forest : Forest} {name required : String}
    {node : NodeId} (found : scope.resolve forest name (some required) = some node) :
    forest.isA node required = true := by
  obtain ⟨frame, _, bound⟩ := List.exists_of_findSome?_eq_some found
  simpa using List.find?_some bound

end TypedTree
