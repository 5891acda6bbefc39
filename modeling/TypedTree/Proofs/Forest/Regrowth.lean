import TypedTree.Proofs.Forest.Fitting
import TypedTree.Proofs.Forest.Growth

namespace TypedTree

/-! # Forests that grow alike on different ground

Nodes that are made after a certain moment, and only put into each other, do not depend on
what the older nodes hold. `forest.onto base` is the forest with the older nodes replaced by
those of `base`. An edit among the newer nodes does the same before and after this
replacement, and it leaves the older nodes alone.
-/

/-- The nodes that an edit changes or puts somewhere. -/
def Edit.nodes : Edit → List NodeId
  | .setAttribute node _ _ | .setReference node _ _ | .resolveReference node _ _
  | .setOrigin node _ | .setRange node _ | .setSource node _ => [node]
  | .setChild node _ child => node :: child.toList
  | .setChildren node _ children => node :: children
  | .addChild node _ child => [node, child]

theorem Cell.mem_childrenOf_place {cell : Cell} {feature name : String} {incoming : List NodeId}
    {placement : Placement} {child : NodeId}
    (member : child ∈ (cell.changeSlot feature (·.place incoming placement)).childrenOf name) :
    child ∈ cell.childrenOf name ∨ child ∈ incoming := by
  by_cases here : name = feature
  · subst here
    rw [childrenOf_changeSlot_self] at member
    cases found : cell.slot? name with
    | none => simp [found] at member
    | some slot =>
        rw [found] at member
        rcases Slot.mem_place member with came | ⟨held, _⟩
        · exact .inr came
        · exact .inl (by simpa [childrenOf, found] using held)
  · rw [childrenOf_changeSlot_of_ne _ here] at member
    exact .inl member

namespace Forest

variable {base other forest after : Forest} {node container child above : NodeId}
  {feature : String} {incoming nodes : List NodeId} {placement : Placement} {cell : Cell}

/-- Whatever node a cell names as its parent or contains was made before. -/
structure Known (forest : Forest) : Prop where
  links : forest.LinksKnown
  children : ∀ {container feature child}, child ∈ forest.childrenOf container feature →
    child < forest.nextId

theorem known_empty : (∅ : Forest).Known where
  links _ _ link := absurd (lt_nextId_of_isAlive (isAlive_of_parentLink? link)) (Nat.not_lt_zero _)
  children member :=
    absurd (lt_nextId_of_isAlive (isAlive_of_mem_childrenOf member)) (Nat.not_lt_zero _)

theorem WellLinked.toKnown (wellLinked : forest.WellLinked) : forest.Known where
  links _ _ link := wellLinked.known link
  children member := lt_nextId_of_isAlive (isAlive_of_parentLink? (wellLinked.linked member))

/-- `forest` has the nodes of `base` as they were, and its other nodes contain only each
other. -/
structure Outgrows (base forest : Forest) : Prop where
  extended : base.Extends forest
  inner : ∀ {container feature child}, base.nextId ≤ container →
    child ∈ forest.childrenOf container feature → base.nextId ≤ child
  known : forest.Known

theorem Outgrows.refl (known : base.Known) : base.Outgrows base where
  extended := .refl base
  inner {container feature child} new member := by
    have alive := lt_nextId_of_isAlive (isAlive_of_mem_childrenOf member)
    exact absurd alive (Nat.not_lt.mpr new)
  known := known

theorem Outgrows.trans (first : base.Outgrows forest) (second : forest.Outgrows after) :
    base.Outgrows after where
  extended := first.extended.trans second.extended
  inner {container feature child} new member := by
    rcases Nat.lt_or_ge container forest.nextId with old | newer
    · rw [childrenOf, second.extended.cells container old] at member
      exact first.inner new member
    · exact Nat.le_trans first.extended.nextId (second.inner newer member)
  known := second.known

/-- The nodes of `base`, and from there on those of `forest`. -/
def onto (forest base : Forest) : Forest :=
  { forest with
    cells := forest.cells.mapIdx fun node cell =>
      if node < base.nextId then base.cell? node else cell }

@[simp]
theorem nextId_onto : (forest.onto base).nextId = forest.nextId := by
  simp [nextId, onto]

theorem cell?_onto_of_lt (reached : base.nextId ≤ forest.nextId) (old : node < base.nextId) :
    (forest.onto base).cell? node = base.cell? node := by
  have within : node < forest.cells.size := Nat.lt_of_lt_of_le old reached
  rw [cell?, onto, Array.getElem?_mapIdx, Array.getElem?_eq_getElem within, Option.map_some,
    if_pos old, Option.join_some]

theorem cell?_onto_of_le (new : base.nextId ≤ node) :
    (forest.onto base).cell? node = forest.cell? node := by
  rw [cell?, onto, Array.getElem?_mapIdx]
  simp only [if_neg (Nat.not_lt.mpr new), Option.map_id']
  rfl

theorem mem_containedNodes_iff :
    child ∈ forest.containedNodes ↔
      ∃ container feature, child ∈ forest.childrenOf container feature := by
  refine ⟨fun member => ?_, fun ⟨container, feature, member⟩ => mem_containedNodes member⟩
  obtain ⟨entry, listed, inside⟩ := List.mem_flatMap.mp member
  cases entry with
  | none => cases inside
  | some cell =>
      obtain ⟨container, there⟩ := List.mem_iff_getElem?.mp listed
      have found : forest.cell? container = some cell := by
        rw [cell?, ← Array.getElem?_toList, there, Option.join_some]
      obtain ⟨feature, held⟩ := Cell.mem_children_iff.mp inside
      exact ⟨container, feature, by simpa [childrenOf, found] using held⟩

theorem mapIdx_eq_self_of_countP {α : Type} {entries : List (Option α)}
    {keep : Nat → Option α → Option α} (fewer : ∀ index entry, keep index entry = entry ∨
      keep index entry = none) :
    (entries.mapIdx keep).countP (·.isSome) ≤ entries.countP (·.isSome) ∧
      ((entries.mapIdx keep).countP (·.isSome) = entries.countP (·.isSome) →
        entries.mapIdx keep = entries) := by
  induction entries generalizing keep with
  | nil => exact ⟨Nat.le_refl _, fun _ => rfl⟩
  | cons entry rest ih =>
      obtain ⟨bounded, settled⟩ := ih fun index => fewer (index + 1)
      rw [List.mapIdx_cons, List.countP_cons, List.countP_cons]
      rcases fewer 0 entry with kept | gone
      · rw [kept]
        exact ⟨by omega, fun same => by rw [settled (by omega)]⟩
      · rw [gone]
        cases entry with
        | none => exact ⟨by simpa using bounded, fun same => by rw [settled (by simpa using same)]⟩
        | some cell => exact ⟨by simp; omega, fun same => by simp at same; omega⟩

/-- A sweep that leaves the number of nodes leaves the nodes. -/
theorem population_sweepOnce_iff {held : NodeId → Bool} :
    (forest.sweepOnce held).population = forest.population ↔ forest.sweepOnce held = forest := by
  refine ⟨fun same => ?_, fun same => by rw [same]⟩
  have cells : (forest.sweepOnce held).cells.toList = forest.cells.toList := by
    rw [population, population, sweepOnce, Array.toList_mapIdx] at same
    rw [sweepOnce, Array.toList_mapIdx]
    refine (mapIdx_eq_self_of_countP fun node cell => ?_).2 same
    split
    · exact .inl rfl
    · exact .inr rfl
  have whole : (forest.sweepOnce held).cells = forest.cells := Array.toList_inj.mp cells
  exact congrArg (Forest.mk · forest.handles) whole

/-- Two forests with the same nodes and handles, whatever the nodes hold. -/
structure Alike (base other : Forest) : Prop where
  nextId : other.nextId = base.nextId
  alive : ∀ node, other.isAlive node = base.isAlive node
  handles : other.handles = base.handles

/-- `forest` has grown on `base`, and could have grown on `other` as well. -/
structure Grafted (base other forest : Forest) : Prop where
  alike : base.Alike other
  here : base.Known
  there : other.Known
  grows : base.Outgrows forest

section

variable (grafted : Grafted base other forest)
include grafted

theorem Grafted.reached : other.nextId ≤ forest.nextId := by
  rw [grafted.alike.nextId]
  exact grafted.grows.extended.nextId

theorem Grafted.cell?_onto (new : base.nextId ≤ node) :
    (forest.onto other).cell? node = forest.cell? node :=
  cell?_onto_of_le (grafted.alike.nextId ▸ new)

theorem Grafted.isAlive_onto (node : NodeId) :
    (forest.onto other).isAlive node = forest.isAlive node := by
  rcases Nat.lt_or_ge node base.nextId with old | new
  · rw [isAlive, cell?_onto_of_lt grafted.reached (grafted.alike.nextId ▸ old), isAlive,
      grafted.grows.extended.cells node old]
    exact grafted.alike.alive node
  · rw [isAlive, grafted.cell?_onto new, isAlive]

theorem Grafted.parent?_onto (new : base.nextId ≤ node) :
    (forest.onto other).parent? node = forest.parent? node := by
  have alive : (forest.onto other).isAlive = forest.isAlive := funext grafted.isAlive_onto
  rw [parent?, parent?, grafted.cell?_onto new, alive]

/-- The older nodes contain none of the newer ones, on either ground. -/
theorem Grafted.not_mem_of_lt (old : container < base.nextId) (new : base.nextId ≤ child) :
    child ∉ forest.childrenOf container feature ∧
      child ∉ (forest.onto other).childrenOf container feature := by
  have alike := grafted.alike.nextId
  constructor
  · intro member
    rw [childrenOf, grafted.grows.extended.cells container old] at member
    exact absurd (grafted.here.children member) (Nat.not_lt.mpr new)
  · intro member
    rw [childrenOf, cell?_onto_of_lt grafted.reached (alike ▸ old)] at member
    exact absurd (grafted.there.children member) (Nat.not_lt.mpr (alike ▸ new))

/-- The links of the older nodes do not lead to the newer ones, on either ground. -/
theorem Grafted.parent?_lt (old : node < base.nextId) :
    (forest.parent? node = some above → above < base.nextId) ∧
      ((forest.onto other).parent? node = some above → above < base.nextId) := by
  have alike := grafted.alike.nextId
  constructor
  · intro up
    have link := (parent?_eq_some_iff.mp up).1
    rw [parentLink?, grafted.grows.extended.cells node old] at link
    exact grafted.here.links node above link
  · intro up
    have link := (parent?_eq_some_iff.mp up).1
    rw [parentLink?, cell?_onto_of_lt grafted.reached (alike ▸ old)] at link
    exact alike ▸ grafted.there.links node above link

theorem Grafted.mem_ancestorsUpTo_onto (new : base.nextId ≤ child) (count : Nat) :
    child ∈ (forest.onto other).ancestorsUpTo count node ↔
      child ∈ forest.ancestorsUpTo count node := by
  -- A chain that has come to an older node stays among these, so it does not meet `child`.
  have below (ground : Forest) (links : ∀ {node above}, node < base.nextId →
      ground.parent? node = some above → above < base.nextId) {node : NodeId}
      (old : node < base.nextId) (count : Nat) : child ∉ ground.ancestorsUpTo count node := by
    induction count generalizing node with
    | zero => exact List.not_mem_nil
    | succ count ih =>
        rw [ancestorsUpTo]
        cases up : ground.parent? node with
        | none => exact List.not_mem_nil
        | some above =>
            have lower := links old up
            rw [List.mem_cons, not_or]
            exact ⟨Ne.symm (Nat.ne_of_lt (Nat.lt_of_lt_of_le lower new)), ih lower⟩
  induction count generalizing node with
  | zero => rfl
  | succ count ih =>
      rcases Nat.lt_or_ge node base.nextId with old | newer
      · exact iff_of_false (below _ (fun old => (grafted.parent?_lt old).2) old _)
          (below _ (fun old => (grafted.parent?_lt old).1) old _)
      · rw [ancestorsUpTo, ancestorsUpTo, grafted.parent?_onto newer]
        cases forest.parent? node with
        | none => rfl
        | some above => simp only [List.mem_cons, ih]

theorem Grafted.mem_ancestors_onto (new : base.nextId ≤ child) :
    child ∈ (forest.onto other).ancestors node ↔ child ∈ forest.ancestors node := by
  rw [ancestors, ancestors, nextId_onto]
  exact grafted.mem_ancestorsUpTo_onto new _

end

theorem onto_self (same : other.nextId = forest.nextId) (handles : other.handles = forest.handles) :
    forest.onto other = other := by
  refine ext_cell? handles.symm (nextId_onto.trans same.symm) fun node => ?_
  rcases Nat.lt_or_ge node other.nextId with old | beyond
  · exact cell?_onto_of_lt (Nat.le_of_eq same) old
  · rw [cell?_onto_of_le beyond]
    have none {ground : Forest} (outside : ground.nextId ≤ node) : ground.cell? node = none := by
      rw [cell?, Array.getElem?_eq_none outside, Option.join_none]
    rw [none (same ▸ beyond), none beyond]

/-- What has grown on some ground does not change when it is put there again. -/
theorem onto_of_extends (extended : base.Extends forest) : forest.onto base = forest := by
  refine ext_cell? rfl nextId_onto fun node => ?_
  rcases Nat.lt_or_ge node base.nextId with old | new
  · rw [cell?_onto_of_lt extended.nextId old, extended.cells node old]
  · exact cell?_onto_of_le new

theorem onto_onto (extended : forest.Extends after) (reached : base.nextId ≤ forest.nextId) :
    after.onto (forest.onto base) = after.onto base := by
  refine ext_cell? rfl (by simp) fun node => ?_
  rcases Nat.lt_or_ge node forest.nextId with old | new
  · rw [cell?_onto_of_lt (by simpa using extended.nextId) (by simpa using old)]
    rcases Nat.lt_or_ge node base.nextId with older | newer
    · rw [cell?_onto_of_lt reached older,
        cell?_onto_of_lt (Nat.le_trans reached extended.nextId) older]
    · rw [cell?_onto_of_le newer, cell?_onto_of_le newer, extended.cells node old]
  · rw [cell?_onto_of_le (by simpa using new), cell?_onto_of_le (Nat.le_trans reached new)]

/-- A change of the ground shows in what has grown on it. -/
theorem modify_onto (reached : base.nextId ≤ forest.nextId) (old : node < base.nextId)
    (change : Cell → Cell) :
    (forest.onto base).modify node change = forest.onto (base.modify node change) := by
  refine ext_cell? ?_ (by simp) fun inner => ?_
  · rw [handles_modify]
    rfl
  · rw [cell?_modify]
    rcases Nat.lt_or_ge inner base.nextId with older | newer
    · rw [cell?_onto_of_lt reached older,
        cell?_onto_of_lt (by simpa using reached) (by simpa using older), cell?_modify]
    · rw [if_neg (Ne.symm (Nat.ne_of_lt (Nat.lt_of_lt_of_le old newer))), cell?_onto_of_le newer,
        cell?_onto_of_le (by simpa using newer)]

section

variable (grafted : Grafted base other forest)
include grafted

theorem Grafted.alike_onto : forest.Alike (forest.onto other) :=
  ⟨nextId_onto, grafted.isAlive_onto, rfl⟩

theorem Grafted.known_onto : (forest.onto other).Known := by
  have alike := grafted.alike.nextId
  refine ⟨fun node above link => ?_, fun {container feature child} member => ?_⟩
  · rw [nextId_onto]
    rcases Nat.lt_or_ge node base.nextId with old | new
    · rw [parentLink?, cell?_onto_of_lt grafted.reached (alike ▸ old)] at link
      exact Nat.lt_of_lt_of_le (grafted.there.links node above link) grafted.reached
    · rw [parentLink?, grafted.cell?_onto new] at link
      exact grafted.grows.known.links node above link
  · rw [nextId_onto]
    rcases Nat.lt_or_ge container base.nextId with old | new
    · rw [childrenOf, cell?_onto_of_lt grafted.reached (alike ▸ old)] at member
      exact Nat.lt_of_lt_of_le (grafted.there.children member) grafted.reached
    · rw [childrenOf, grafted.cell?_onto new] at member
      exact grafted.grows.known.children member

end

/-- The change leaves the older nodes alone and does the same on other ground. -/
structure Carries (base other forest : Forest) (change : Forest → Forest) : Prop where
  grafted : Grafted base other (change forest)
  onto : (change forest).onto other = change (forest.onto other)
  nextId : (change forest).nextId = forest.nextId

theorem Carries.andThen {first second : Forest → Forest} (here : Carries base other forest first)
    (later : Carries base other (first forest) second) :
    Carries base other forest fun forest => second (first forest) where
  grafted := later.grafted
  onto := by rw [later.onto, here.onto]
  nextId := later.nextId.trans here.nextId

theorem Carries.of_eq {change simpler : Forest → Forest}
    (here : Carries base other forest simpler) (left : change forest = simpler forest)
    (right : change (forest.onto other) = simpler (forest.onto other)) :
    Carries base other forest change where
  grafted := left ▸ here.grafted
  onto := by rw [left, right, here.onto]
  nextId := left ▸ here.nextId

theorem Grafted.carries_foldl {α : Type} {change : Forest → α → Forest} {items : List α}
    (grafted : Grafted base other forest)
    (each : ∀ item ∈ items, ∀ {current}, Grafted base other current →
      current.nextId = forest.nextId → Carries base other current (change · item)) :
    Carries base other forest (items.foldl change ·) := by
  induction items generalizing forest with
  | nil => exact ⟨grafted, rfl, rfl⟩
  | cons item rest ih =>
      have first := each item List.mem_cons_self grafted rfl
      refine first.andThen (ih first.grafted fun later member current grafted same => ?_)
      exact each later (List.mem_cons_of_mem item member) grafted (same.trans first.nextId)

section

variable (grafted : Grafted base other forest)
include grafted

theorem Grafted.onto_modify (new : base.nextId ≤ node) (change : Cell → Cell) :
    (forest.modify node change).onto other = (forest.onto other).modify node change := by
  have alike := grafted.alike.nextId
  refine ext_cell? ?_ (by simp) fun inner => ?_
  · rw [handles_modify]
    exact handles_modify forest node change
  · rcases Nat.lt_or_ge inner base.nextId with old | newer
    · have apart : inner ≠ node := Nat.ne_of_lt (Nat.lt_of_lt_of_le old new)
      have reached : other.nextId ≤ (forest.modify node change).nextId := by
        rw [nextId_modify]
        exact grafted.reached
      rw [cell?_modify, if_neg apart, cell?_onto_of_lt reached (alike ▸ old),
        cell?_onto_of_lt grafted.reached (alike ▸ old)]
    · rw [cell?_onto_of_le (alike ▸ newer), cell?_modify, cell?_modify, grafted.cell?_onto newer]

theorem Grafted.carries_modify {change : Cell → Cell} (new : base.nextId ≤ node)
    (inner : ∀ cell, forest.cell? node = some cell → ∀ feature,
      ∀ child ∈ (change cell).childrenOf feature, base.nextId ≤ child ∧ child < forest.nextId)
    (link : ∀ cell, forest.cell? node = some cell → ∀ above,
      (change cell).parent = some above → above < forest.nextId) :
    Carries base other forest (·.modify node change) where
  grafted := by
    have grows := grafted.grows
    -- Where the node itself contains a child, its changed cell does.
    have held {container feature child}
        (member : child ∈ (forest.modify node change).childrenOf container feature) :
        child ∈ forest.childrenOf container feature ∨
          container = node ∧ base.nextId ≤ child ∧ child < forest.nextId := by
      by_cases here : container = node
      · subst here
        rw [childrenOf_modify_self] at member
        cases found : forest.cell? container with
        | none => simp [found] at member
        | some cell =>
            rw [found] at member
            exact .inr ⟨rfl, inner cell found feature child member⟩
      · rw [childrenOf_modify_of_ne _ here] at member
        exact .inl member
    refine ⟨grafted.alike, grafted.here, grafted.there, grows.extended.modify new change,
      fun newer member => ?_, ⟨fun inside above stored => ?_, fun member => ?_⟩⟩
    · rcases held member with before | ⟨_, since, _⟩
      · exact grows.inner newer before
      · exact since
    · rw [nextId_modify]
      by_cases here : inside = node
      · subst here
        obtain ⟨cell, found, linked⟩ := Option.bind_eq_some_iff.mp stored
        rw [cell?_modify, if_pos rfl, Option.map_eq_some_iff] at found
        obtain ⟨before, found, rfl⟩ := found
        exact link before found above linked
      · rw [parentLink?_modify_of_ne here] at stored
        exact grows.known.links inside above stored
    · rw [nextId_modify]
      rcases held member with before | ⟨_, _, below⟩
      · exact grows.known.children before
      · exact below
  onto := grafted.onto_modify new change
  nextId := nextId_modify _ _ _

/-- Changes that put nothing into a node and set no link. -/
theorem Grafted.carries_modify_fewer {change : Cell → Cell} (new : base.nextId ≤ node)
    (fewer : ∀ cell feature, (change cell).childrenOf feature ⊆ cell.childrenOf feature)
    (link : ∀ cell, (change cell).parent = cell.parent) :
    Carries base other forest (·.modify node change) := by
  refine grafted.carries_modify new (fun cell found feature child member => ?_)
    fun cell found above linked => ?_
  · have held : child ∈ forest.childrenOf node feature := by
      simpa [childrenOf, found] using fewer cell feature member
    exact ⟨grafted.grows.inner new held, grafted.grows.known.children held⟩
  · refine grafted.grows.known.links node above ?_
    rw [parentLink?, found]
    exact (link cell).symm.trans linked

theorem Grafted.carries_setParent (new : base.nextId ≤ node) {link : Option NodeId}
    (known : ∀ above, link = some above → above < forest.nextId) :
    Carries base other forest (·.setParent node link) := by
  refine grafted.carries_modify new (fun cell found feature child member => ?_)
    fun _ _ above same => known above same
  have held : child ∈ forest.childrenOf node feature := by
    rw [childrenOf, found]
    exact member
  exact ⟨grafted.grows.inner new held, grafted.grows.known.children held⟩

theorem Grafted.carries_setParents (new : ∀ node ∈ nodes, base.nextId ≤ node)
    {link : Option NodeId} (known : ∀ above, link = some above → above < forest.nextId) :
    Carries base other forest (·.setParents nodes link) :=
  grafted.carries_foldl fun node member _ grafted same =>
    grafted.carries_setParent (new node member) fun above linked => same ▸ known above linked

theorem Grafted.carries_detach (new : base.nextId ≤ child) :
    Carries base other forest (·.detach child) := by
  have unlinked {current : Forest} (grafted : Grafted base other current) :
      Carries base other current (·.setParent child none) :=
    grafted.carries_setParent new fun _ linked => by cases linked
  have same := grafted.parent?_onto new
  cases up : forest.parent? child with
  | none =>
      have stays : Carries base other forest id := ⟨grafted, rfl, rfl⟩
      refine stays.of_eq ?_ ?_
      · rw [detach, up, id]
      · rw [detach, same, up, id]
  | some parent =>
      rcases Nat.lt_or_ge parent base.nextId with old | newer
      · -- An older parent does not contain the node, so nothing is taken out of it.
        have untouched {ground : Forest}
            (outside : ∀ feature, child ∉ ground.childrenOf parent feature) :
            ground.modify parent (·.without child) = ground := by
          cases found : ground.cell? parent with
          | none => rw [modify, found]
          | some cell =>
              refine modify_eq_self found (Cell.without_eq_self fun feature => ?_)
              simpa [childrenOf, found] using outside feature
        refine (unlinked grafted).of_eq ?_ ?_
        · rw [detach, up]
          dsimp only
          rw [untouched fun feature => (grafted.not_mem_of_lt old new).1]
        · rw [detach, same, up]
          dsimp only
          rw [untouched fun feature => (grafted.not_mem_of_lt old new).2]
      · have fewer (cell : Cell) (feature : String) :
            (cell.without child).childrenOf feature ⊆ cell.childrenOf feature := by
          rw [Cell.childrenOf_without]
          exact List.filter_sublist.subset
        have taken : Carries base other forest (·.modify parent (·.without child)) :=
          grafted.carries_modify_fewer newer fewer fun _ => rfl
        refine (taken.andThen (unlinked taken.grafted)).of_eq ?_ ?_
        · rw [detach, up]
        · rw [detach, same, up]

theorem Grafted.carries_detachAll (new : ∀ child ∈ incoming, base.nextId ≤ child) :
    Carries base other forest (·.detachAll incoming) :=
  grafted.carries_foldl fun child member _ grafted _ => grafted.carries_detach (new child member)

theorem Grafted.carries_place (new : base.nextId ≤ node)
    (fresh : ∀ child ∈ incoming, base.nextId ≤ child ∧ child < forest.nextId) :
    Carries base other forest
      (·.modify node (·.changeSlot feature (·.place incoming placement))) := by
  refine grafted.carries_modify new (fun cell found name child member => ?_)
    fun cell found above linked => ?_
  · rcases Cell.mem_childrenOf_place member with held | came
    · have there : child ∈ forest.childrenOf node name := by
        rw [childrenOf, found]
        exact held
      exact ⟨grafted.grows.inner new there, grafted.grows.known.children there⟩
    · exact fresh child came
  · refine grafted.grows.known.links node above ?_
    rw [parentLink?, found]
    exact linked

theorem Grafted.le_of_mem_displacedBy (new : base.nextId ≤ node)
    (comes : ∀ child ∈ incoming, base.nextId ≤ child)
    (member : child ∈ forest.displacedBy node feature incoming placement) :
    base.nextId ≤ child := by
  obtain ⟨inSlot, _⟩ := List.mem_filter.mp member
  cases found : (forest.detachAll incoming).slot? node feature with
  | none => simp [found] at inSlot
  | some slot =>
      rw [found] at inSlot
      refine (grafted.carries_detachAll comes).grafted.grows.inner new
        (?_ : child ∈ childrenOf _ node feature)
      rw [childrenOf_eq_slot?, found]
      exact slot.displaced_subset placement inSlot

/-- The same nodes are displaced on either ground. -/
theorem Grafted.displacedBy_onto (new : base.nextId ≤ node)
    (comes : ∀ child ∈ incoming, base.nextId ≤ child) :
    (forest.onto other).displacedBy node feature incoming placement =
      forest.displacedBy node feature incoming placement := by
  have freed := grafted.carries_detachAll comes
  have freedOnto : (forest.onto other).detachAll incoming =
      (forest.detachAll incoming).onto other := freed.onto.symm
  rw [displacedBy, displacedBy, slot?, slot?, freedOnto, freed.grafted.cell?_onto new]

theorem Grafted.carries_attach (new : base.nextId ≤ node) (known : node < forest.nextId)
    (fresh : ∀ child ∈ incoming, base.nextId ≤ child ∧ child < forest.nextId) :
    Carries base other forest (·.attach node feature incoming placement) := by
  have comes (child : NodeId) (member : child ∈ incoming) := (fresh child member).1
  have freed := grafted.carries_detachAll comes
  have placed : Carries base other (forest.detachAll incoming)
      (·.modify node (·.changeSlot feature (·.place incoming placement))) :=
    freed.grafted.carries_place new (freed.nextId ▸ fresh)
  have moved := freed.andThen placed
  have unlinked : Carries base other ((forest.detachAll incoming).modify node
      (·.changeSlot feature (·.place incoming placement)))
      (·.setParents (forest.displacedBy node feature incoming placement) none) :=
    moved.grafted.carries_setParents (fun _ => grafted.le_of_mem_displacedBy new comes)
      fun _ linked => by cases linked
  have orphaned := moved.andThen unlinked
  have adopted : Carries base other _ (·.setParents incoming (some node)) :=
    orphaned.grafted.carries_setParents comes fun above same => by
      cases same
      exact orphaned.nextId ▸ known
  refine (orphaned.andThen adopted).of_eq rfl ?_
  change (((((forest.onto other).detachAll incoming).modify node _).setParents
    ((forest.onto other).displacedBy node feature incoming placement) none).setParents
      incoming (some node)) = _
  rw [grafted.displacedBy_onto new comes]

end

/-- The action succeeds and fails alike on either ground, and what it leaves has grown on
both. -/
structure Repeats (base other forest : Forest) (action : Forest → Except EditError Forest) :
    Prop where
  onto : action (forest.onto other) = (action forest).map (·.onto other)
  grafted : ∀ {after}, action forest = .ok after →
    Grafted base other after ∧ after.nextId = forest.nextId

theorem Carries.repeats {change : Forest → Forest} {action : Forest → Except EditError Forest}
    (carries : Carries base other forest change) (here : action forest = .ok (change forest))
    (there : action (forest.onto other) = .ok (change (forest.onto other))) :
    Repeats base other forest action where
  onto := by rw [here, there, Except.map, carries.onto]
  grafted {after} ended := by
    rw [here] at ended
    cases ended
    exact ⟨carries.grafted, carries.nextId⟩

theorem repeats_error (error : EditError) {action : Forest → Except EditError Forest}
    (here : action forest = .error error) (there : action (forest.onto other) = .error error) :
    Repeats base other forest action where
  onto := by rw [here, there, Except.map]
  grafted ended := by
    rw [here] at ended
    cases ended

section

variable (grafted : Grafted base other forest)
include grafted

theorem Grafted.checkChild_onto {declared : Feature} (new : base.nextId ≤ child) :
    (forest.onto other).checkChild node cell declared child =
      forest.checkChild node cell declared child := by
  have above : ((forest.onto other).ancestors node).contains child =
      (forest.ancestors node).contains child := by
    rw [Bool.eq_iff_iff, List.contains_iff_mem, List.contains_iff_mem]
    exact grafted.mem_ancestors_onto new
  rw [checkChild, checkChild, above, concept?, grafted.cell?_onto new, concept?]

theorem Grafted.checkChildren_onto {declared : Feature} {seen : List NodeId}
    (new : ∀ child ∈ incoming, base.nextId ≤ child) :
    (forest.onto other).checkChildren node cell declared seen incoming =
      forest.checkChildren node cell declared seen incoming := by
  induction incoming generalizing seen with
  | nil => rfl
  | cons child rest ih =>
      rw [List.forall_mem_cons] at new
      rw [checkChildren, checkChildren, grafted.checkChild_onto new.1, ih new.2]

theorem Grafted.expectCell_onto (new : base.nextId ≤ node) :
    (forest.onto other).expectCell node = forest.expectCell node := by
  rw [expectCell, expectCell, grafted.cell?_onto new]

omit grafted in
/-- A check comes first that finds the same on either ground. -/
theorem repeats_bind {α : Type} {check : Forest → Except EditError α}
    {action : α → Forest → Except EditError Forest}
    (same : check (forest.onto other) = check forest)
    (each : ∀ answer, check forest = .ok answer → Repeats base other forest (action answer)) :
    Repeats base other forest fun forest => check forest >>= (action · forest) := by
  cases checked : check forest with
  | error error =>
      refine repeats_error error ?_ ?_
      · rw [checked]
        rfl
      · rw [same, checked]
        rfl
  | ok answer =>
      have acted := each answer checked
      refine ⟨?_, fun ended => acted.grafted ?_⟩
      · rw [same, checked]
        exact acted.onto
      · rw [checked] at ended
        exact ended

theorem Grafted.repeats_setSlot (new : base.nextId ≤ node) {content : Slot}
    (bare : content.contained = []) :
    Repeats base other forest fun forest => pure (forest.modify node (·.setSlot feature content)) :=
  (grafted.carries_modify_fewer new (fun cell other =>
    (sublist_setSlot cell feature content bare other).subset) fun _ => rfl).repeats rfl rfl

/-- Edits among the newer nodes. -/
theorem Grafted.repeats_apply {edit : Edit}
    (fresh : ∀ node ∈ edit.nodes, base.nextId ≤ node ∧ node < forest.nextId) :
    Repeats base other forest (·.apply edit) := by
  have metadata {node : NodeId} {change : Cell → Cell} (new : base.nextId ≤ node)
      (content : ∀ cell, (change cell).content = cell.content)
      (link : ∀ cell, (change cell).parent = cell.parent) :
      Repeats base other forest fun forest => .ok (forest.modify node change) := by
    refine (grafted.carries_modify_fewer new (fun cell feature => ?_) link).repeats rfl rfl
    rw [Cell.childrenOf, Cell.slot?, content]
    exact List.Subset.refl _
  cases edit with
  | setAttribute node feature value =>
      have new := (fresh node List.mem_cons_self).1
      simp only [Forest.apply, setAttribute]
      refine repeats_bind (grafted.expectCell_onto new) fun cell _ => ?_
      refine repeats_bind rfl fun _ _ => ?_
      exact grafted.repeats_setSlot new rfl
  | setReference node feature link =>
      have new := (fresh node List.mem_cons_self).1
      simp only [Forest.apply, setReference]
      refine repeats_bind (grafted.expectCell_onto new) fun cell _ => ?_
      refine repeats_bind rfl fun _ _ => ?_
      exact grafted.repeats_setSlot new rfl
  | resolveReference node feature target =>
      have new := (fresh node List.mem_cons_self).1
      simp only [Forest.apply, resolveReference]
      refine repeats_bind (grafted.expectCell_onto new) fun cell _ => ?_
      refine repeats_bind rfl fun _ _ => ?_
      cases cell.reference? feature with
      | none => exact repeats_error _ rfl rfl
      | some link => exact grafted.repeats_setSlot new rfl
  | setChild node feature child =>
      obtain ⟨⟨new, known⟩, comes⟩ := List.forall_mem_cons.mp fresh
      simp only [Forest.apply, setChild]
      refine repeats_bind (grafted.expectCell_onto new) fun cell _ => ?_
      refine repeats_bind rfl fun declared _ => ?_
      refine repeats_bind ?_ fun _ _ => (grafted.carries_attach new known comes).repeats rfl rfl
      cases child with
      | none => rfl
      | some child =>
          change (do (forest.onto other).checkChild node cell declared child; pure ⟨⟩) =
            (do forest.checkChild node cell declared child; pure ⟨⟩ : Except EditError PUnit)
          rw [grafted.checkChild_onto (comes child List.mem_cons_self).1]
  | setChildren node feature children =>
      obtain ⟨⟨new, known⟩, comes⟩ := List.forall_mem_cons.mp fresh
      simp only [Forest.apply, setChildren]
      refine repeats_bind (grafted.expectCell_onto new) fun cell _ => ?_
      refine repeats_bind rfl fun declared _ => ?_
      refine repeats_bind (grafted.checkChildren_onto fun child member => (comes child member).1)
        fun _ _ => (grafted.carries_attach new known comes).repeats rfl rfl
  | addChild node feature child =>
      obtain ⟨⟨new, known⟩, comes⟩ := List.forall_mem_cons.mp fresh
      simp only [Forest.apply, addChild]
      refine repeats_bind (grafted.expectCell_onto new) fun cell _ => ?_
      refine repeats_bind rfl fun declared _ => ?_
      refine repeats_bind (grafted.checkChild_onto (comes child List.mem_cons_self).1)
        fun _ _ => (grafted.carries_attach new known comes).repeats rfl rfl
  | setOrigin node origin =>
      exact metadata (fresh node List.mem_cons_self).1 (fun _ => rfl) fun _ => rfl
  | setRange node range =>
      exact metadata (fresh node List.mem_cons_self).1 (fun _ => rfl) fun _ => rfl
  | setSource node source =>
      exact metadata (fresh node List.mem_cons_self).1 (fun _ => rfl) fun _ => rfl

theorem Grafted.add (bare : cell.Bare) :
    Grafted base other (forest.add cell).2 ∧
      (forest.add cell).2.onto other = ((forest.onto other).add cell).2 := by
  have grows := grafted.grows
  have alike := grafted.alike.nextId
  have added : (forest.add cell).2.nextId = forest.nextId + 1 := nextId_add
  refine ⟨⟨grafted.alike, grafted.here, grafted.there, grows.extended.trans (.add forest cell),
    fun new member => ?_, ⟨fun node above link => ?_, fun member => ?_⟩⟩, ?_⟩
  · rw [childrenOf_add bare] at member
    exact grows.inner new member
  · rw [parentLink?_add bare] at link
    exact added ▸ Nat.lt_succ_of_lt (grows.known.links node above link)
  · rw [childrenOf_add bare] at member
    exact added ▸ Nat.lt_succ_of_lt (grows.known.children member)
  · refine ext_cell? rfl ?_ fun node => ?_
    · rw [nextId_onto, nextId_add, nextId_add, nextId_onto]
    · rcases Nat.lt_or_ge node base.nextId with old | new
      · have before : node ≠ (forest.onto other).nextId := by
          rw [nextId_onto]
          exact Nat.ne_of_lt (Nat.lt_of_lt_of_le old grows.extended.nextId)
        have reached : other.nextId ≤ (forest.add cell).2.nextId :=
          added ▸ Nat.le_succ_of_le grafted.reached
        rw [cell?_add_of_ne _ _ before, cell?_onto_of_lt reached (alike ▸ old),
          cell?_onto_of_lt grafted.reached (alike ▸ old)]
      · rw [cell?_onto_of_le (alike ▸ new), cell?_add, cell?_add, nextId_onto,
          grafted.cell?_onto new]

theorem Grafted.contains_containedNodes_onto (new : base.nextId ≤ node) :
    (forest.onto other).containedNodes.contains node = forest.containedNodes.contains node := by
  rw [Bool.eq_iff_iff, List.contains_iff_mem, List.contains_iff_mem]
  simp only [mem_containedNodes_iff]
  refine exists_congr fun container => exists_congr fun feature => ?_
  rcases Nat.lt_or_ge container base.nextId with old | newer
  · exact iff_of_false (grafted.not_mem_of_lt old new).2 (grafted.not_mem_of_lt old new).1
  · rw [childrenOf, grafted.cell?_onto newer, childrenOf]

theorem Grafted.carries_sweepOnce :
    Carries base other forest (·.sweepOnce (· < base.nextId)) := by
  have swept : forest.Swept (forest.sweepOnce (· < base.nextId)) := swept_sweepOnce _
  have alike := grafted.alike.nextId
  have grows := grafted.grows
  have kept {node : NodeId} (ground : Forest) (old : node < base.nextId) :
      (ground.sweepOnce (· < base.nextId)).cell? node = ground.cell? node := by
    rw [cell?_sweepOnce, decide_eq_true old, Bool.true_or, if_pos rfl]
  refine ⟨⟨grafted.alike, grafted.here, grafted.there, ⟨fun node old => ?_, grows.extended.handles,
    swept.nextId ▸ grows.extended.nextId⟩, fun new member => ?_, ⟨fun node above link => ?_,
      fun member => ?_⟩⟩, ?_, swept.nextId⟩
  · rw [kept forest old]
    exact grows.extended.cells node old
  · exact grows.inner new (swept.childrenOf_sublist.subset member)
  · rw [swept.nextId]
    obtain ⟨cell, found, linked⟩ := Option.bind_eq_some_iff.mp link
    refine grows.known.links node above ?_
    rw [parentLink?, swept.cells node cell found]
    exact linked
  · rw [swept.nextId]
    exact grows.known.children (swept.childrenOf_sublist.subset member)
  · refine ext_cell? rfl (by simp) fun node => ?_
    rcases Nat.lt_or_ge node base.nextId with old | new
    · have reached : other.nextId ≤ (forest.sweepOnce (· < base.nextId)).nextId :=
        swept.nextId ▸ grafted.reached
      rw [kept _ old, cell?_onto_of_lt reached (alike ▸ old),
        cell?_onto_of_lt grafted.reached (alike ▸ old)]
    · rw [cell?_onto_of_le (alike ▸ new), cell?_sweepOnce, cell?_sweepOnce,
        grafted.cell?_onto new, grafted.contains_containedNodes_onto new]

theorem Grafted.carries_discardSince :
    Carries base other forest (·.discardSince base.nextId) := by
  have rounds (count : Nat) {current : Forest} (grafted : Grafted base other current) :
      Carries base other current (·.sweepRounds (· < base.nextId) count) := by
    induction count generalizing current with
    | zero => exact ⟨grafted, rfl, rfl⟩
    | succ count ih =>
        have once := grafted.carries_sweepOnce
        have settled : ((current.onto other).sweepOnce (· < base.nextId)).population =
              (current.onto other).population ↔
            (current.sweepOnce (· < base.nextId)).population = current.population := by
          rw [population_sweepOnce_iff, population_sweepOnce_iff, ← once.onto]
          refine ⟨fun same => ?_, fun same => congrArg (·.onto other) same⟩
          refine ext_cell? rfl once.nextId fun node => ?_
          rcases Nat.lt_or_ge node base.nextId with old | new
          · rw [cell?_sweepOnce, decide_eq_true old, Bool.true_or, if_pos rfl]
          · have there := congrArg (·.cell? node) same
            rwa [once.grafted.cell?_onto new, grafted.cell?_onto new] at there
        by_cases done : (current.sweepOnce (· < base.nextId)).population = current.population
        · have stays : Carries base other current id := ⟨grafted, rfl, rfl⟩
          refine stays.of_eq ?_ ?_
          · rw [sweepRounds, if_pos done, id]
          · rw [sweepRounds, if_pos (settled.mpr done), id]
        · refine (once.andThen (ih once.grafted)).of_eq ?_ ?_
          · rw [sweepRounds, if_neg done]
          · rw [sweepRounds, if_neg fun same => done (settled.mp same)]
  refine (rounds (forest.nextId + 1) grafted).of_eq rfl ?_
  rw [discardSince, nextId_onto]

end

end Forest

end TypedTree
