import TypedTree.Proofs.Forest.Atomicity
import TypedTree.Proofs.Forest.Fitting
import TypedTree.Proofs.Forest.Movement
import TypedTree.Proofs.Identity.Grounding

namespace TypedTree

namespace Forest

variable {forest after : Forest} {node other container : NodeId} {feature name target : String}
  {children incoming : List NodeId} {placement : Placement} {schema : Schema}

theorem Linked.childrenOf_attach_of_ne (linked : forest.Linked)
    (differs : ¬ (container = node ∧ name = feature))
    (apart : ∀ child ∈ incoming, child ∉ forest.childrenOf container name) :
    (forest.attach node feature incoming placement).childrenOf container name =
      forest.childrenOf container name := by
  rw [Forest.childrenOf_attach_of_ne differs, linked.childrenOf_detachAll,
    List.filter_eq_self.mpr]
  intro inner held
  simpa using fun comes => apart inner comes held

section

variable (wellLinked : forest.WellLinked)
  (arranges : children.Perm (forest.childrenOf node feature))
include wellLinked arranges

theorem WellLinked.parentLink?_rearranged :
    (forest.attach node feature children .replace).parentLink? other =
      forest.parentLink? other := by
  have linked := wellLinked.toLinked
  by_cases comes : other ∈ children
  · have stood := linked.linked (arranges.subset comes)
    rw [parentLink?_attach_of_mem comes (isAlive_of_parentLink? stood), stood]
  · refine parentLink?_attach_of_not_mem comes fun driven => ?_
    obtain ⟨stood, _⟩ := linked.mem_displacedBy_iff.mp driven
    exact comes (arranges.symm.subset stood)

theorem WellLinked.childrenOf_rearranged (differs : ¬ (container = node ∧ name = feature)) :
    (forest.attach node feature children .replace).childrenOf container name =
      forest.childrenOf container name := by
  have linked := wellLinked.toLinked
  refine linked.childrenOf_attach_of_ne differs fun child comes held => differs ?_
  have stood := arranges.subset comes
  obtain rfl : container = node :=
    Option.some.inj ((linked.parent?_of_mem held).symm.trans (linked.parent?_of_mem stood))
  exact ⟨rfl, linked.single held stood⟩

/-- A list may be filled with its own nodes in any order. -/
theorem WellLinked.exists_setChildren (conformant : forest.Conformant schema)
    (declares : forest.Declares node feature (.children target)) :
    ∃ after, forest.setChildren node feature children = .ok after := by
  have linked := wellLinked.toLinked
  have distinct : children.Nodup := arranges.nodup_iff.mpr (linked.distinct node feature)
  refine (linked.grounded.exists_apply_iff (.setChildren node feature children)).mpr
    ⟨target, declares, distinct, fun child comes => ?_⟩
  have stood := arranges.subset comes
  have up : forest.IsParent node child := linked.parent?_of_mem stood
  -- what the nodes fit by standing there is what the feature asks of them
  obtain ⟨concept, declared, holds, known, kind⟩ := declares
  obtain ⟨holder, found, named, type, same, alsoKnown, _, expected, is, fits⟩ :=
    conformant.fitting stood
  cases holds.symm.trans same
  cases known.symm.trans alsoKnown
  rw [kind] at expected
  cases expected
  refine ⟨?_, fun above => ?_, type, is, fits⟩
  · rintro rfl
    exact linked.grounded.not_isAncestor_self child (.single up)
  · exact linked.grounded.not_isAncestor_self child (above.tail up)

end

/-- What an identifier reads at the top of a tree is kept along with the parent link. -/
theorem root_congr
    (alone : ∀ other, (after.cell? other).map Cell.alone = (forest.cell? other).map Cell.alone)
    (link : after.parentLink? node = forest.parentLink? node) :
    after.parent? node = forest.parent? node ∧ after.isRoot node = forest.isRoot node ∧
      after.conceptName node = forest.conceptName node ∧
      (after.cell? node).bind (·.source) = (forest.cell? node).bind (·.source) := by
  have alive (other : NodeId) : after.isAlive other = forest.isAlive other := by
    simpa [isAlive] using congrArg Option.isSome (alone other)
  have concepts := congrArg (·.map (·.concept)) (alone node)
  have recorded := congrArg (·.bind (·.source)) (alone node)
  simp only [Option.map_map, Option.bind_map] at concepts recorded
  refine ⟨?_, ?_, ?_, recorded⟩
  · rw [parentLink?, parentLink?] at link
    rw [parent?, parent?, link, funext alive]
  · rw [isRoot_eq, isRoot_eq, alive, link]
  · exact congrArg (fun concept => (concept.map (·.name)).getD "") concepts

end Forest

namespace Structural

variable {forest after : Forest} {sources : SourceIds} {node other child : NodeId}
  {feature : String} {children : List NodeId}

/-- Where parent links, sources and places stay as they are on the whole way up, the
identifier stays as well. -/
theorem id_eq_of_outside (shaped : forest.TreeShaped) (shapedAfter : after.TreeShaped)
    (inside : NodeId → Prop)
    (alone : ∀ other, (after.cell? other).map Cell.alone = (forest.cell? other).map Cell.alone)
    (links : ∀ other, ¬ inside other → after.parentLink? other = forest.parentLink? other)
    (places : ∀ {container child feature} {index : Nat},
      (forest.childrenOf container feature)[index]? = some child → ¬ inside child →
      ¬ inside container ∧ (after.childrenOf container feature)[index]? = some child)
    (outside : ¬ inside node) : id sources after node = id sources forest node := by
  -- from the top down: what contains a node outside is outside as well
  induction node using shaped.grounded.induction with
  | _ node ih =>
      cases up : forest.parent? node with
      | none =>
          obtain ⟨parent, isRoot, name, source⟩ :=
            Forest.root_congr alone (links node outside)
          rw [id_of_parent?_none (parent.trans up), id_of_parent?_none up, isRoot, name]
          simp only [idAt, name, source]
      | some parent =>
          obtain ⟨feature, index, _, unique⟩ := shaped.placed up
          have held := (unique feature index).mpr ⟨rfl, rfl⟩
          obtain ⟨above, still⟩ := places held outside
          rw [id_eq_of_held shaped held, id_eq_of_held shapedAfter still, ih parent up above]

/-- The identifiers in a list are those of its places, whichever nodes stand there. -/
theorem map_id_eq (shaped : forest.TreeShaped) (shapedAfter : after.TreeShaped)
    (container : id sources after node = id sources forest node)
    (length : (after.childrenOf node feature).length = (forest.childrenOf node feature).length) :
    (after.childrenOf node feature).map (id sources after) =
      (forest.childrenOf node feature).map (id sources forest) := by
  refine List.ext_getElem (by simpa using length) fun index within also => ?_
  rw [List.getElem_map, List.getElem_map,
    id_eq_of_held shapedAfter (List.getElem?_eq_getElem (by simpa using within)),
    id_eq_of_held shaped (List.getElem?_eq_getElem (by simpa using also)), container]

section

variable (wellLinked : forest.WellLinked)
include wellLinked

section

variable (arranges : children.Perm (forest.childrenOf node feature))
  (set : forest.setChildren node feature children = .ok after)
include arranges set

theorem id_rearranged_of_outside
    (outside : ∀ child ∈ children, other ∉ forest.walk child) :
    id sources after other = id sources forest other := by
  have applied : forest.apply (.setChildren node feature children) = .ok after := set
  have shaped := wellLinked.treeShaped
  have shapedAfter := (wellLinked.apply applied).treeShaped
  have alive {child : NodeId} (comes : child ∈ children) : forest.isAlive child = true :=
    Forest.isAlive_of_parentLink? (wellLinked.linked (arranges.subset comes))
  obtain ⟨_, _, _, _, _, _, _, _, rfl⟩ := Forest.setChildren_eq_ok_iff.mp set
  refine id_eq_of_outside shaped shapedAfter (fun inner => ∃ child ∈ children,
    inner ∈ forest.walk child) (fun _ => Forest.alone_attach)
    (fun _ _ => wellLinked.parentLink?_rearranged arranges) ?_ (by simpa using outside)
  intro container inner name index held apart
  refine ⟨fun ⟨child, comes, inside⟩ => apart ⟨child, comes, ?_⟩, ?_⟩
  · exact shaped.mem_walk_of_parent? (alive comes) inside (shaped.contained held)
  · rw [wellLinked.childrenOf_rearranged arranges]
    · exact held
    · rintro ⟨rfl, rfl⟩
      have comes := arranges.symm.subset (List.mem_of_getElem? held)
      exact apart ⟨inner, comes, Forest.mem_walk_self shaped (alive comes)⟩

theorem map_id_rearranged :
    children.map (id sources after) =
      (forest.childrenOf node feature).map (id sources forest) := by
  have applied : forest.apply (.setChildren node feature children) = .ok after := set
  have shaped := wellLinked.treeShaped
  have filled := Forest.childrenOf_setChildren wellLinked.conforming set
  have container : id sources after node = id sources forest node :=
    id_rearranged_of_outside wellLinked arranges set fun child comes =>
      shaped.not_mem_walk_of_parent? (wellLinked.toLinked.parent?_of_mem (arranges.subset comes))
  have same := map_id_eq shaped (wellLinked.apply applied).treeShaped container
    (by rw [filled]; exact arranges.length_eq)
  rwa [filled] at same

/-- What lies below a node keeps its place there. -/
theorem exists_suffix_rearranged {inner : NodeId} (comes : child ∈ children)
    (inside : inner ∈ forest.walk child) :
    ∃ suffix, id sources forest inner = (id sources forest child).map (· ++ suffix) ∧
      id sources after inner = (id sources after child).map (· ++ suffix) := by
  have applied : forest.apply (.setChildren node feature children) = .ok after := set
  have shaped := wellLinked.treeShaped
  have shapedAfter := (wellLinked.apply applied).treeShaped
  have up := wellLinked.toLinked.parent?_of_mem (arranges.subset comes)
  have alive := Forest.isAlive_of_parent?_eq_some up
  obtain ⟨path, leads⟩ := (shaped.mem_walk_iff alive).mp inside
  obtain ⟨_, _, _, _, _, _, _, _, rfl⟩ := Forest.setChildren_eq_ok_iff.mp set
  have still : (forest.attach node feature children .replace).Leads child path inner := by
    refine leads.congr_below fun {way container} below name => ?_
    refine wellLinked.childrenOf_rearranged arranges ?_
    rintro ⟨rfl, _⟩
    exact shaped.not_mem_walk_of_parent? up ((shaped.mem_walk_iff alive).mpr ⟨way, below⟩)
  exact ⟨pathText path, id_eq_of_leads shaped leads, id_eq_of_leads shapedAfter still⟩

end

/-- A tree that comes in at the end of a list moves nothing. -/
theorem id_addChild_of_outside (isRoot : forest.isRoot child = true)
    (added : forest.addChild node feature child = .ok after)
    (outside : other ∉ forest.walk child) :
    id sources after other = id sources forest other := by
  have applied : forest.apply (.addChild node feature child) = .ok after := added
  have shaped := wellLinked.treeShaped
  have linked := wellLinked.toLinked
  have filled := (wellLinked.moved_addChild added (.refl after)).1
  have shapedAfter := (wellLinked.apply applied).treeShaped
  rw [Forest.isRoot_eq, Bool.and_eq_true, Option.isNone_iff_eq_none] at isRoot
  obtain ⟨alive, top⟩ := isRoot
  have apart (container : NodeId) (name : String) : child ∉ forest.childrenOf container name := by
    intro held
    cases top.symm.trans (linked.linked held)
  obtain ⟨_, _, _, _, _, _, _, rfl⟩ := Forest.addChild_eq_ok_iff.mp added
  refine id_eq_of_outside shaped shapedAfter (· ∈ forest.walk child)
    (fun _ => Forest.alone_attach) (fun other outside => ?_) ?_ outside
  · refine Forest.parentLink?_attach_of_not_mem ?_ fun driven => ?_
    · rw [List.mem_singleton]
      rintro rfl
      exact outside (Forest.mem_walk_self shaped alive)
    · cases (linked.mem_displacedBy_iff.mp driven).1
  · intro container inner name index held outside
    refine ⟨fun inside => outside ?_, ?_⟩
    · exact shaped.mem_walk_of_parent? alive inside (shaped.contained held)
    · by_cases here : container = node ∧ name = feature
      · obtain ⟨rfl, rfl⟩ := here
        have alive := Forest.isAlive_of_mem_childrenOf (List.mem_of_getElem? held)
        rw [filled (by simpa using alive), List.filter_eq_self.mpr]
        · exact List.getElem?_append_left (List.getElem?_eq_some_iff.mp held).1 ▸ held
        · intro inner member
          simpa using fun same => apart _ _ (same ▸ member)
      · rw [linked.childrenOf_attach_of_ne here (by simpa using apart container name)]
        exact held

end

variable {decls : List ConceptDecl} {schema : Schema}

/-- Filling a list with its own nodes in another order permutes the identifiers of its
places, with all that lies below them; a tree that is added moves nothing. -/
theorem id_rearranged (built : Schema.build decls = .ok schema) (operations : List Operation)
    (sources : SourceIds) :
    let forest := Forest.run schema operations
    (∀ node feature target children, forest.Declares node feature (.children target) →
      children.Perm (forest.childrenOf node feature) →
      ∃ after, forest.setChildren node feature children = .ok after ∧
        children.map (id sources after) =
          (forest.childrenOf node feature).map (id sources forest) ∧
        (∀ child ∈ children, ∀ inner ∈ forest.walk child,
          ∃ suffix, id sources forest inner = (id sources forest child).map (· ++ suffix) ∧
            id sources after inner = (id sources after child).map (· ++ suffix)) ∧
        ∀ other, (∀ child ∈ children, other ∉ forest.walk child) →
          id sources after other = id sources forest other) ∧
    ∀ node feature child after, forest.isRoot child = true →
      forest.addChild node feature child = .ok after →
      ∀ other ∉ forest.walk child, id sources after other = id sources forest other := by
  intro forest
  have wellLinked : forest.WellLinked := Forest.wellLinked_run built operations
  have conformant := Forest.conformant_run built operations
  constructor
  · intro node feature target children declares arranges
    obtain ⟨after, set⟩ := wellLinked.exists_setChildren arranges conformant declares
    exact ⟨after, set, map_id_rearranged wellLinked arranges set,
      fun child comes inner inside => exists_suffix_rearranged wellLinked arranges set comes inside,
      fun other outside => id_rearranged_of_outside wellLinked arranges set outside⟩
  · intro node feature child after isRoot added other outside
    exact id_addChild_of_outside wellLinked isRoot added outside

/-- A list of three, the second of which has a lid, and a node that stands alone. -/
def lidOperations : List Operation :=
  [.create "Box", .create "Box", .create "Box", .create "Box", .create "Box", .create "Box",
    .edit (.setSource 0 (some (.named "repo"))), .edit (.setChildren 0 "sub_items" [1, 2, 3]),
    .edit (.setChild 2 "lid_1" (some 4))]

theorem id_rearranged_lid :
    ∃ schema after, Schema.build nestedDecls = .ok schema ∧
      (Forest.run schema lidOperations).setChildren 0 "sub_items" [2, 3, 1] = .ok after ∧
      [2, 3, 1].map (id .simple after) = [.ok "repo_root_sub_items", .ok "repo_root_sub_items_1",
        .ok "repo_root_sub_items_2"] ∧
      (∃ suffix, id .simple (Forest.run schema lidOperations) 4 =
          .ok ("repo_root_sub_items_1" ++ suffix) ∧
        id .simple after 4 = .ok ("repo_root_sub_items" ++ suffix)) ∧
      id .simple after 0 = .ok "repo_root" ∧
      ∃ added, (Forest.run schema lidOperations).addChild 2 "sub_items" 5 = .ok added ∧
        id .simple added 3 = .ok "repo_root_sub_items_2" := by
  have answers : (Schema.build nestedDecls).toOption.map (fun schema =>
      let forest := Forest.run schema lidOperations
      (forest.childrenOf 0 "sub_items",
        (forest.concept? 0).bind fun concept => (concept.feature? "sub_items").map (·.type),
        [0, 1, 2, 3].map (id .simple forest), [1, 2, 3, 5].map forest.walk, forest.isRoot 5,
        (forest.addChild 2 "sub_items" 5).isOk)) =
      some ([1, 2, 3], some (.children "Box"), [.ok "repo_root", .ok "repo_root_sub_items",
        .ok "repo_root_sub_items_1", .ok "repo_root_sub_items_2"], [[1], [2, 4], [3], [5]],
        true, true) := by
    rfl
  cases built : Schema.build nestedDecls with
  | error reason =>
      rw [built] at answers
      cases answers
  | ok schema =>
      rw [built] at answers
      simp only [Except.toOption, Option.map_some, Option.some.injEq, Prod.mk.injEq,
        List.map_cons, List.map_nil, List.cons.injEq, and_true] at answers
      obtain ⟨stood, declared, ⟨top, first, second, third⟩, ⟨one, two, three, five⟩, isRoot,
        accepted⟩ := answers
      obtain ⟨concept, holds, type⟩ := Option.bind_eq_some_iff.mp declared
      obtain ⟨feature, known, kind⟩ := Option.map_eq_some_iff.mp type
      obtain ⟨rearrange, adding⟩ := id_rearranged built lidOperations .simple
      obtain ⟨after, set, places, below, others⟩ := rearrange 0 "sub_items" "Box" [2, 3, 1]
        ⟨concept, feature, holds, known, kind⟩ (by rw [stood]; decide)
      simp only [stood, List.map_cons, List.map_nil, first, second, third] at places
      obtain ⟨suffix, before, afterwards⟩ := below 2 (by decide) 4 (by simp [two])
      cases added : (Forest.run schema lidOperations).addChild 2 "sub_items" 5 with
      | error reason =>
          rw [added] at accepted
          cases accepted
      | ok more =>
          refine ⟨schema, after, rfl, set, places, ⟨suffix, ?_, ?_⟩, ?_, more, added, ?_⟩
          · rw [before, second]
            rfl
          · rw [afterwards, (List.cons.inj places).1]
            rfl
          · rw [others 0 (by simp [one, two, three]), top]
          · rw [adding 2 "sub_items" 5 more isRoot added 3 (by simp [five]), third]

end Structural

end TypedTree
