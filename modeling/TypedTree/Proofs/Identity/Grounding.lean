import TypedTree.Proofs.Identity.Structural

namespace TypedTree.Structural

variable {forest : Forest} {sources : SourceIds} {top node other : NodeId} {text : String}
  {path : List (String × Nat)} {error : IdError}

/-- What one step down a tree adds to an identifier. -/
def stepText (step : String × Nat) : String :=
  "_" ++ step.1 ++ if step.2 = 0 then "" else "_" ++ step.2.repr

theorem pathText_eq_join (path : List (String × Nat)) :
    pathText path = String.join (path.map stepText) := by
  induction path with
  | nil => rfl
  | cons step path ih =>
      obtain ⟨feature, index⟩ := step
      by_cases first : index = 0
      · simp [pathText, containedId, stepText, first, ih]
      · simp [pathText, containedId, stepText, first, ih, String.append_assoc]

theorem id_of_parent?_none (alone : forest.parent? node = none) :
    id sources forest node =
      if forest.isRoot node then idAt sources forest node .root
      else .error (.detachedNode (forest.conceptName node)) := by
  rw [id, coordinates, Forest.ancestors_of_parent?_none alone, coordinatesUnder]
  split <;> rfl

theorem not_isRoot_iff (alive : forest.isAlive node = true)
    (alone : forest.parent? node = none) :
    forest.isRoot node = false ↔
      ∃ gone, forest.parentLink? node = some gone ∧ forest.isAlive gone = false := by
  obtain ⟨cell, there⟩ := Option.isSome_iff_exists.mp alive
  cases link : cell.parent with
  | none => simp [Forest.isRoot, Forest.parentLink?, there, link]
  | some gone => simpa [Forest.isRoot, Forest.parentLink?, Forest.parent?, there, link] using alone

section

variable (shaped : forest.TreeShaped) (alone : forest.parent? top = none)
  (leads : forest.Leads top path node)
include shaped alone leads

theorem id_eq_ok_iff :
    id sources forest node = .ok text ↔
      forest.isRoot top = true ∧ ∃ source name, (forest.cell? top).bind (·.source) = some source ∧
        sources source = .ok name ∧ text = name ++ "_root" ++ String.join (path.map stepText) := by
  rw [id_eq_of_leads shaped leads, id_of_parent?_none alone, pathText_eq_join]
  by_cases isRoot : forest.isRoot top = true
  · cases recorded : (forest.cell? top).bind (·.source) with
    | none => simp [isRoot, idAt, recorded, Except.map]
    | some source =>
        cases accepted : sources source with
        | error reason => simp [isRoot, idAt, recorded, accepted, Except.map]
        | ok name => simp [isRoot, idAt, recorded, accepted, Except.map, eq_comm]
  · simp [isRoot, Except.map]

theorem id_eq_error_iff (alive : forest.isAlive top = true) :
    id sources forest node = .error error ↔
      (forest.isRoot top = true ∧ ∃ source, (forest.cell? top).bind (·.source) = some source ∧
        sources source = .error error) ∨
      (forest.isRoot top = true ∧ (forest.cell? top).bind (·.source) = none ∧
        error = .missingSource (forest.conceptName top)) ∨
      ∃ gone, forest.parentLink? top = some gone ∧ forest.isAlive gone = false ∧
        error = .detachedNode (forest.conceptName top) := by
  have lost := not_isRoot_iff alive alone
  rw [id_eq_of_leads shaped leads, id_of_parent?_none alone]
  by_cases isRoot : forest.isRoot top = true
  · have kept : ¬ ∃ gone, forest.parentLink? top = some gone ∧ forest.isAlive gone = false ∧
        error = .detachedNode (forest.conceptName top) := by
      rintro ⟨gone, link, dead, _⟩
      simp [lost.mpr ⟨gone, link, dead⟩] at isRoot
    cases recorded : (forest.cell? top).bind (·.source) with
    | none => simpa [isRoot, idAt, recorded, Except.map, kept] using eq_comm
    | some source =>
        cases accepted : sources source with
        | error reason => simp [isRoot, idAt, recorded, accepted, Except.map, kept]
        | ok name => simp [isRoot, idAt, recorded, accepted, Except.map, kept]
  · obtain ⟨gone, link, dead⟩ := lost.mp (by simpa using isRoot)
    simpa [isRoot, Except.map, link, dead] using eq_comm

theorem id_setSource_of_ne (differs : other ≠ top) {source : Option Source}
    (shapedAfter : (forest.setSource other source).TreeShaped) :
    id sources (forest.setSource other source) node = id sources forest node := by
  have parents (node : NodeId) : (forest.setSource other source).parent? node =
      forest.parent? node := Forest.parent?_modify_of_same fun _ => rfl
  have held (node : NodeId) (feature : String) :
      (forest.setSource other source).childrenOf node feature = forest.childrenOf node feature :=
    forest.childrenOf_modify_of_same other node feature fun _ => rfl
  have same : (forest.setSource other source).cell? top = forest.cell? top := by
    simp [Forest.setSource, Forest.cell?_modify, Ne.symm differs]
  have isRoot : (forest.setSource other source).isRoot top = forest.isRoot top := by
    simp [Forest.isRoot, same]
  have name : (forest.setSource other source).conceptName top = forest.conceptName top := by
    simp [Forest.conceptName, Forest.concept?, same]
  rw [id_eq_of_leads shaped leads, id_eq_of_leads shapedAfter (leads.congr held),
    id_of_parent?_none alone, id_of_parent?_none ((parents top).trans alone), isRoot, name]
  simp only [idAt, same, name]

end

variable {decls : List ConceptDecl} {schema : Schema}

/-- The identifier of a node follows from what is known of the node at the top of its tree
and the path down from there. -/
theorem id_determined_by_top (built : Schema.build decls = .ok schema)
    (operations : List Operation) (sources : SourceIds)
    (alive : (Forest.run schema operations).isAlive node = true)
    (isTop : (node :: (Forest.run schema operations).ancestors node).getLast? = some top) :
    let forest := Forest.run schema operations
    (∃ path, forest.Leads top path node) ∧
    (∀ path, forest.Leads top path node → ∀ text, id sources forest node = .ok text ↔
      forest.isRoot top = true ∧ ∃ source name, (forest.cell? top).bind (·.source) = some source ∧
        sources source = .ok name ∧ text = name ++ "_root" ++ String.join (path.map stepText)) ∧
    (∀ error, id sources forest node = .error error ↔
      (forest.isRoot top = true ∧ ∃ source, (forest.cell? top).bind (·.source) = some source ∧
        sources source = .error error) ∨
      (forest.isRoot top = true ∧ (forest.cell? top).bind (·.source) = none ∧
        error = .missingSource (forest.conceptName top)) ∨
      ∃ gone, forest.parentLink? top = some gone ∧ forest.isAlive gone = false ∧
        error = .detachedNode (forest.conceptName top)) ∧
    ∀ other source, other ≠ top →
      id sources (forest.setSource other source) node = id sources forest node := by
  intro forest
  have shaped : forest.TreeShaped := (Forest.wellLinked_run built operations).treeShaped
  have isRoot : top = forest.root node := by
    simpa [Forest.root, List.getLast?_cons, eq_comm] using isTop
  have alone : forest.parent? top = none := isRoot ▸ shaped.grounded.parent?_root node
  have aliveTop : forest.isAlive top = true := isRoot ▸ Forest.isAlive_root alive
  obtain ⟨path, leads⟩ := shaped.exists_leads_root node
  rw [← isRoot] at leads
  refine ⟨⟨path, leads⟩, fun path leads text => id_eq_ok_iff shaped alone leads,
    fun error => id_eq_error_iff shaped alone leads aliveTop, fun other source differs => ?_⟩
  have applied : forest.apply (.setSource other source) = .ok (forest.setSource other source) :=
    rfl
  have after := (Forest.wellLinked_run built operations).apply applied
  exact id_setSource_of_ne shaped alone leads differs after.treeShaped

/-- Three trees: one with sources at its root and further down, one without, and the rest
of one whose root is gone. -/
def groundedOperations : List Operation :=
  [.create "Box", .create "Box", .create "Box", .create "Box",
    .edit (.setSource 0 (some (.named "repo"))), .edit (.setSource 2 (some (.named "part"))),
    .edit (.setChildren 0 "sub_items" [1, 2]), .edit (.setChild 2 "lid_1" (some 3)),
    .create "Box", .create "Box", .edit (.setChild 4 "lid_1" (some 5)),
    .create "Box", .create "Box", .create "Box", .edit (.setChild 6 "lid_1" (some 7)),
    .edit (.setChild 7 "lid_1" (some 8)), .sweep [0, 4, 7]]

theorem id_determined_by_top_grounded :
    ∃ schema, Schema.build nestedDecls = .ok schema ∧
      id .simple (Forest.run schema groundedOperations) 3 = .ok "repo_root_sub_items_1_lid_1" ∧
      id .simple (Forest.run schema groundedOperations) 5 = .error (.missingSource "Box") ∧
      id .simple (Forest.run schema groundedOperations) 8 = .error (.detachedNode "Box") := by
  have answers : (Schema.build nestedDecls).toOption.map (fun schema =>
      let forest := Forest.run schema groundedOperations
      ([3, 5, 8].map forest.isAlive, [3, 5, 8].map forest.ancestors, [0, 4].map forest.isRoot,
        [0, 4].map fun root => (forest.cell? root).bind (·.source),
        [(0, "sub_items"), (2, "lid_1")].map fun place => forest.childrenOf place.1 place.2,
        [4, 7].map forest.conceptName, forest.parentLink? 7, forest.isAlive 6)) =
      some ([true, true, true], [[2, 0], [4], [7]], [true, true], [some (.named "repo"), none],
        [[1, 2], [3]], ["Box", "Box"], some 6, false) := by
    rfl
  cases built : Schema.build nestedDecls with
  | error reason =>
      rw [built] at answers
      cases answers
  | ok schema =>
      rw [built] at answers
      simp only [Except.toOption, Option.map_some, Option.some.injEq, Prod.mk.injEq,
        List.map_cons, List.map_nil, List.cons.injEq, and_true] at answers
      obtain ⟨⟨alive, alsoAlive, stillAlive⟩, ⟨up, parent, lost⟩, ⟨isRoot, alsoRoot⟩,
        ⟨recorded, missing⟩, ⟨items, lid⟩, ⟨name, concept⟩, link, gone⟩ := answers
      have inFirst :
          (3 :: (Forest.run schema groundedOperations).ancestors 3).getLast? = some 0 := by
        rw [up]
        rfl
      have inSecond :
          (5 :: (Forest.run schema groundedOperations).ancestors 5).getLast? = some 4 := by
        rw [parent]
        rfl
      have inThird :
          (8 :: (Forest.run schema groundedOperations).ancestors 8).getLast? = some 7 := by
        rw [lost]
        rfl
      have leads : (Forest.run schema groundedOperations).Leads 0
          [("sub_items", 1), ("lid_1", 0)] 3 :=
        .down (by rw [items]; rfl) (.down (by rw [lid]; rfl) (.here 3))
      obtain ⟨_, named, _⟩ := id_determined_by_top built groundedOperations .simple alive inFirst
      obtain ⟨_, _, unnamed, _⟩ :=
        id_determined_by_top built groundedOperations .simple alsoAlive inSecond
      obtain ⟨_, _, detached, _⟩ :=
        id_determined_by_top built groundedOperations .simple stillAlive inThird
      refine ⟨schema, rfl, (named _ leads _).mpr ⟨isRoot, _, _, recorded, rfl, rfl⟩, ?_, ?_⟩
      · exact (unnamed _).mpr (Or.inr (Or.inl ⟨alsoRoot, missing, by rw [name]⟩))
      · exact (detached _).mpr (Or.inr (Or.inr ⟨6, link, gone, by rw [concept]⟩))

end TypedTree.Structural
