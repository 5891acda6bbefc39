import TypedTree.Proofs.Forest.History
import TypedTree.Proofs.Forest.Placing

namespace TypedTree.Forest

variable {forest : Forest} {top node other parent container child : NodeId} {feature : String}
  {index depth : Nat} {path : List (String × Nat)}

inductive Leads (forest : Forest) : NodeId → List (String × Nat) → NodeId → Prop where
  | here (node : NodeId) : Leads forest node [] node
  | down {container child node : NodeId} {feature : String} {index : Nat}
      {path : List (String × Nat)}
      (held : (forest.childrenOf container feature)[index]? = some child)
      (below : Leads forest child path node) :
      Leads forest container ((feature, index) :: path) node

theorem Leads.unique (first : forest.Leads top path node) (second : forest.Leads top path other) :
    node = other := by
  induction first with
  | here => cases second; rfl
  | down held _ ih =>
      cases second with
      | down alsoHeld below =>
          cases held.symm.trans alsoHeld
          exact ih below

theorem Leads.trans {rest : List (String × Nat)} (upper : forest.Leads top path node)
    (lower : forest.Leads node rest other) : forest.Leads top (path ++ rest) other := by
  induction upper with
  | here => exact lower
  | down held _ ih => exact .down held (ih lower)

/-- A path stays where the nodes on its way keep what they contain. -/
theorem Leads.congr_below {after : Forest} (leads : forest.Leads top path node)
    (same : ∀ {way container}, forest.Leads top way container → ∀ feature,
      after.childrenOf container feature = forest.childrenOf container feature) :
    after.Leads top path node := by
  induction leads with
  | here node => exact .here node
  | down held _ ih =>
      refine .down (by rw [same (.here _)]; exact held) (ih fun below => ?_)
      exact same (.down held below)

theorem Leads.congr {after : Forest} (leads : forest.Leads top path node)
    (same : ∀ node feature, after.childrenOf node feature = forest.childrenOf node feature) :
    after.Leads top path node :=
  leads.congr_below fun _ => same _

theorem ancestorsUpTo_succ_of_short
    (short : (forest.ancestorsUpTo depth node).length < depth) :
    forest.ancestorsUpTo (depth + 1) node = forest.ancestorsUpTo depth node := by
  induction depth generalizing node with
  | zero => exact absurd short (Nat.not_lt_zero _)
  | succ depth ih =>
      cases found : forest.parent? node with
      | none => simp only [ancestorsUpTo, found]
      | some parent =>
          simp only [ancestorsUpTo, found, List.length_cons, Nat.add_lt_add_iff_right] at short
          have rest := ih short
          simp only [ancestorsUpTo] at rest
          simp only [ancestorsUpTo, found, rest]

theorem Grounded.ancestors_of_parent? (grounded : forest.Grounded)
    (found : forest.parent? node = some parent) :
    forest.ancestors node = parent :: forest.ancestors parent := by
  have bounded := grounded.length_ancestors_lt (isAlive_of_parent?_eq_some found)
  unfold ancestors at *
  cases bound : forest.nextId with
  | zero =>
      rw [bound] at bounded
      exact absurd bounded (Nat.not_lt_zero _)
  | succ count =>
      have step : forest.ancestorsUpTo (count + 1) node =
          parent :: forest.ancestorsUpTo count parent := by
        simp only [ancestorsUpTo, found]
      rw [bound, step, List.length_cons] at bounded
      rw [step, ancestorsUpTo_succ_of_short (Nat.lt_of_succ_lt_succ bounded)]

/-- The node at the end of the chain of parents has every node of the chain below it. -/
theorem TreeShaped.exists_leads_root (shaped : forest.TreeShaped) (node : NodeId) :
    ∃ path, forest.Leads (forest.root node) path node := by
  induction node using shaped.grounded.induction with
  | _ node ih =>
      cases up : forest.parent? node with
      | none => exact ⟨[], by simpa [root, ancestors_of_parent?_none up] using .here node⟩
      | some parent =>
          obtain ⟨feature, index, _, places⟩ := shaped.placed up
          have held := (places feature index).mpr ⟨rfl, rfl⟩
          have same : forest.root node = forest.root parent := by
            simp [root, shaped.grounded.ancestors_of_parent? up, List.getLast?_cons]
          obtain ⟨path, leads⟩ := ih parent up
          exact ⟨_, same ▸ leads.trans (.down held (.here node))⟩

/-- From a node to one above it the chain of parents has as many steps as the path down. -/
theorem TreeShaped.ancestors_of_leads (shaped : forest.TreeShaped)
    (leads : forest.Leads top path node) :
    ∃ between, between.length = path.length ∧
      node :: forest.ancestors node = between ++ top :: forest.ancestors top := by
  induction leads with
  | here => exact ⟨[], rfl, rfl⟩
  | @down container child node feature index path held _ ih =>
      obtain ⟨between, length, chain⟩ := ih
      refine ⟨between ++ [child], by simp [length], ?_⟩
      rw [chain, shaped.grounded.ancestors_of_parent? (shaped.contained held)]
      simp

theorem TreeShaped.length_ancestors (shaped : forest.TreeShaped)
    (leads : forest.Leads top path node) :
    (forest.ancestors node).length = (forest.ancestors top).length + path.length := by
  obtain ⟨between, length, chain⟩ := shaped.ancestors_of_leads leads
  have lengths := congrArg List.length chain
  simp only [List.length_cons, List.length_append] at lengths
  omega

theorem exists_leads_of_mem_walkTo (member : node ∈ forest.walkTo depth top) :
    ∃ path, forest.Leads top path node := by
  induction depth generalizing top with
  | zero => cases member
  | succ depth ih =>
      rcases List.mem_cons.mp member with rfl | below
      · exact ⟨[], .here node⟩
      · obtain ⟨child, inChildren, inWalk⟩ := List.mem_flatMap.mp below
        obtain ⟨feature, held⟩ := mem_children_iff.mp inChildren
        obtain ⟨index, place⟩ := List.mem_iff_getElem?.mp held
        obtain ⟨path, leads⟩ := ih inWalk
        exact ⟨(feature, index) :: path, .down place leads⟩

theorem Leads.mem_walkTo (leads : forest.Leads top path node) (deep : path.length < depth) :
    node ∈ forest.walkTo depth top := by
  induction leads generalizing depth with
  | here =>
      cases depth with
      | zero => exact absurd deep (Nat.not_lt_zero _)
      | succ depth => exact List.mem_cons_self
  | down held below ih =>
      cases depth with
      | zero => exact absurd deep (Nat.not_lt_zero _)
      | succ depth =>
          have inner := ih (Nat.lt_of_succ_lt_succ deep)
          have inChildren := mem_children_iff.mpr ⟨_, List.mem_of_getElem? held⟩
          exact List.mem_cons_of_mem _ (List.mem_flatMap.mpr ⟨_, inChildren, inner⟩)

theorem TreeShaped.isAlive_of_leads (shaped : forest.TreeShaped)
    (leads : forest.Leads top path node) (alive : forest.isAlive top = true) :
    forest.isAlive node = true := by
  induction leads with
  | here => exact alive
  | down held _ ih => exact ih (isAlive_of_parent?_eq_some (shaped.contained held))

theorem TreeShaped.mem_walk_iff (shaped : forest.TreeShaped)
    (alive : forest.isAlive top = true) :
    node ∈ forest.walk top ↔ ∃ path, forest.Leads top path node := by
  refine ⟨exists_leads_of_mem_walkTo, fun ⟨path, leads⟩ => leads.mem_walkTo ?_⟩
  have bounded := shaped.grounded.length_ancestors_lt (shaped.isAlive_of_leads leads alive)
  rw [shaped.length_ancestors leads] at bounded
  omega

theorem TreeShaped.exists_leads_iff (shaped : forest.TreeShaped) :
    (∃ path, forest.Leads top path node) ↔ node = top ∨ forest.IsAncestor top node := by
  constructor
  · rintro ⟨path, leads⟩
    induction leads with
    | here => exact Or.inl rfl
    | @down container child node feature index path held _ ih =>
        have up : forest.IsParent container child := shaped.contained held
        rcases ih with rfl | below
        · exact Or.inr (.single up)
        · exact Or.inr (.head up below)
  · rintro (rfl | above)
    · exact ⟨[], .here node⟩
    · induction above with
      | single up =>
          obtain ⟨feature, index, _, places⟩ := shaped.placed up
          exact ⟨_, .down ((places feature index).mpr ⟨rfl, rfl⟩) (.here _)⟩
      | tail _ up ih =>
          obtain ⟨path, leads⟩ := ih
          obtain ⟨feature, index, _, places⟩ := shaped.placed up
          exact ⟨_, leads.trans (.down ((places feature index).mpr ⟨rfl, rfl⟩) (.here _))⟩

/-- A walk comes to the node it starts from and to all nodes below it. -/
theorem TreeShaped.mem_walk_iff_isAncestor (shaped : forest.TreeShaped)
    (alive : forest.isAlive top = true) :
    node ∈ forest.walk top ↔ node = top ∨ forest.IsAncestor top node := by
  rw [shaped.mem_walk_iff alive, shaped.exists_leads_iff]

theorem TreeShaped.not_mem_walk_of_parent? (shaped : forest.TreeShaped)
    (up : forest.parent? child = some parent) : parent ∉ forest.walk child := by
  intro inside
  rcases (shaped.mem_walk_iff_isAncestor (isAlive_of_parent?_eq_some up)).mp inside with
    rfl | above
  · exact shaped.acyclic parent (.single up)
  · exact shaped.acyclic child (above.tail up)

theorem TreeShaped.mem_walk_of_parent? (shaped : forest.TreeShaped)
    (alive : forest.isAlive top = true) (inside : parent ∈ forest.walk top)
    (up : forest.parent? child = some parent) : child ∈ forest.walk top := by
  refine (shaped.mem_walk_iff_isAncestor alive).mpr (Or.inr ?_)
  exact (isAncestor_iff_of_parent? up).mpr
    (((shaped.mem_walk_iff_isAncestor alive).mp inside).imp_left Eq.symm)

theorem pairwise_slots (cell : Cell) :
    cell.slots.Pairwise fun first second => first.1 ≠ second.1 :=
  List.pairwise_map.mp cell.content.distinct

theorem TreeShaped.nodup_children (shaped : forest.TreeShaped) (node : NodeId) :
    (forest.children node).Nodup := by
  cases found : forest.cell? node with
  | none => simp [children, found]
  | some cell =>
      have holds {slot : String × Slot} (member : slot ∈ cell.slots) :
          forest.childrenOf node slot.1 = slot.2.contained := by
        simpa [childrenOf, found] using Cell.childrenOf_of_mem member
      rw [children, found]
      refine List.nodup_flatMap.mpr
        ⟨fun slot member => ?_, (pairwise_slots cell).imp_of_mem ?_⟩
      · refine List.nodup_iff_getElem?_ne_getElem?.mpr fun first second before within same => ?_
        rw [← holds member] at within same
        have there := List.getElem?_eq_getElem within
        have places := shaped.once (same.trans there) there
        omega
      · intro first second inFirst inSecond different child held also
        dsimp only at held also
        rw [← holds inFirst] at held
        rw [← holds inSecond] at also
        obtain ⟨index, place⟩ := List.mem_iff_getElem?.mp held
        obtain ⟨position, other⟩ := List.mem_iff_getElem?.mp also
        exact different (shaped.once place other).2.1

/-- A walk visits no node twice. -/
theorem TreeShaped.nodup_walkTo (shaped : forest.TreeShaped) (depth : Nat) (top : NodeId) :
    (forest.walkTo depth top).Nodup := by
  have up {child top : NodeId} (member : child ∈ forest.children top) :
      forest.ancestors child = top :: forest.ancestors top := by
    obtain ⟨feature, held⟩ := mem_children_iff.mp member
    obtain ⟨index, place⟩ := List.mem_iff_getElem?.mp held
    exact shaped.grounded.ancestors_of_parent? (shaped.contained place)
  induction depth generalizing top with
  | zero => exact List.nodup_nil
  | succ depth ih =>
      have each := fun child (_ : child ∈ forest.children top) => ih child
      refine List.nodup_cons.mpr ⟨fun again => ?_, List.nodup_flatMap.mpr ⟨each, ?_⟩⟩
      · obtain ⟨child, inChildren, inWalk⟩ := List.mem_flatMap.mp again
        obtain ⟨path, leads⟩ := exists_leads_of_mem_walkTo inWalk
        have lengths := shaped.length_ancestors leads
        rw [up inChildren, List.length_cons] at lengths
        omega
      · refine (shaped.nodup_children top).imp_of_mem ?_
        intro first second inFirst inSecond different node below also
        -- both are the node that lies as far above `node` as the paths are long
        obtain ⟨path, leads⟩ := exists_leads_of_mem_walkTo below
        obtain ⟨other, others⟩ := exists_leads_of_mem_walkTo also
        obtain ⟨between, length, chain⟩ := shaped.ancestors_of_leads leads
        obtain ⟨beside, span, way⟩ := shaped.ancestors_of_leads others
        have lengths := (shaped.length_ancestors leads).symm.trans (shaped.length_ancestors others)
        rw [up inFirst, up inSecond] at lengths
        have aligned := List.append_inj (chain.symm.trans way) (by omega)
        exact different (List.cons.inj aligned.2).1

/-- The features of a node that contain something. -/
def occupied (forest : Forest) (node : NodeId) : List String :=
  (((forest.cell? node).map (·.slots)).getD []).filterMap fun slot =>
    if slot.2.contained = [] then none else some slot.1

theorem mem_occupied_of_getElem? (held : (forest.childrenOf container feature)[index]? = some child) :
    feature ∈ forest.occupied container := by
  cases there : forest.cell? container with
  | none => simp [childrenOf, there] at held
  | some cell =>
      cases slot : cell.slot? feature with
      | none => simp [childrenOf, there, Cell.childrenOf, slot] at held
      | some content =>
          have entry : (feature, content) ∈ cell.slots := Registry.mem_entries_iff.mpr slot
          have filled : content.contained ≠ [] := by
            rintro none
            simp [childrenOf, there, Cell.childrenOf, slot, none] at held
          rw [occupied, there]
          exact List.mem_filterMap.mpr ⟨(feature, content), entry, if_neg filled⟩

/-- Only features that are declared to contain nodes can be occupied. -/
theorem Conforming.exists_feature (conforming : forest.Conforming)
    (used : feature ∈ forest.occupied node) :
    ∃ concept, forest.concept? node = some concept ∧
      ∃ declared ∈ concept.features,
        declared.name = feature ∧ declared.type.isContainment = true := by
  unfold occupied at used
  cases there : forest.cell? node with
  | none => simp [there] at used
  | some cell =>
      rw [there, Option.map_some, Option.getD_some] at used
      obtain ⟨slot, held, filled⟩ := List.mem_filterMap.mp used
      obtain ⟨declared, member, same, fits⟩ := (conforming node cell there).exists_feature held
      split at filled
      · cases filled
      · next full =>
          cases filled
          refine ⟨cell.concept, by rw [concept?, there, Option.map_some], declared, member,
            same.symm, ?_⟩
          by_contra scalar
          exact full (Slot.contained_of_fits fits (by simpa using scalar))

end TypedTree.Forest
