import TypedTree.Identity.Structural
import TypedTree.Proofs.Forest.Paths
import TypedTree.Proofs.Forest.Typing

namespace TypedTree

/-! # Identifiers of the nodes of a tree

The identifier of a node is that of a node above it followed by the text of the path
between the two. Names and places are divided by an underscore, which a name may contain
as well, and the first place is not written: two paths can have one text. Where no name
can be read in two ways, the identifier tells where the node stands.
-/

variable {forest : Forest} {sources : SourceIds} {top node container child : NodeId}
  {feature : String} {index : Nat} {path other : List (String × Nat)} {text : String}

namespace Structural

/-- What a path adds to the identifier of the node it starts from. -/
def pathText : List (String × Nat) → String
  | [] => ""
  | (feature, index) :: path => containedId "" feature index ++ pathText path

theorem containedId_eq_append (text feature : String) (index : Nat) :
    containedId text feature index = text ++ containedId "" feature index := by
  unfold containedId
  split <;> simp [String.append_assoc]

theorem coordinates_of_isRoot (isRoot : forest.isRoot node = true) :
    coordinates sources forest node = .ok .root := by
  unfold coordinates
  cases forest.ancestors node <;> simp [coordinatesUnder, isRoot]

theorem id_of_isRoot {source : Source} (isRoot : forest.isRoot node = true)
    (recorded : (forest.cell? node).bind (·.source) = some source)
    (accepted : sources source = .ok text) :
    id sources forest node = .ok (text ++ "_root") := by
  rw [id, coordinates_of_isRoot isRoot]
  simp [bind, Except.bind, idAt, recorded, accepted, Except.map]

theorem isRoot_eq_false {parent : NodeId} (up : forest.parent? node = some parent) :
    forest.isRoot node = false := by
  obtain ⟨link, _⟩ := Forest.parent?_eq_some_iff.mp up
  obtain ⟨cell, there, stored⟩ := Option.bind_eq_some_iff.mp link
  simp [Forest.isRoot, there, stored]

/-- A contained node is named after its container, and has no name if the container has
none. -/
theorem id_eq_of_held (shaped : forest.TreeShaped)
    (held : (forest.childrenOf container feature)[index]? = some child) :
    id sources forest child =
      (id sources forest container).map (· ++ containedId "" feature index) := by
  have up := shaped.contained held
  obtain ⟨name, position, place, unique⟩ := shaped.placed up
  obtain ⟨rfl, rfl⟩ := (unique feature index).mp held
  have within : coordinates sources forest child =
      (id sources forest container).map (.contained · feature index) := by
    unfold id Structural.coordinates
    rw [shaped.grounded.ancestors_of_parent? up]
    simp only [coordinatesUnder, isRoot_eq_false up, place]
    cases coordinatesUnder sources forest container (forest.ancestors container) <;> rfl
  rw [id, within]
  cases id sources forest container with
  | error reason => rfl
  | ok text => simp [Except.map, bind, Except.bind, idAt, containedId_eq_append text]

theorem id_eq_of_leads (shaped : forest.TreeShaped) (leads : forest.Leads top path node) :
    id sources forest node = (id sources forest top).map (· ++ pathText path) := by
  induction leads with
  | here node => cases id sources forest node <;> simp [Except.map, pathText]
  | @down container child node feature index path held _ ih =>
      rw [ih, id_eq_of_held shaped held]
      cases id sources forest container <;> simp [Except.map, pathText, String.append_assoc]

theorem id_of_leads (shaped : forest.TreeShaped) (leads : forest.Leads top path node)
    (named : id sources forest top = .ok text) :
    id sources forest node = .ok (text ++ pathText path) := by
  rw [id_eq_of_leads shaped leads, named]
  rfl

def indexText (index : Nat) : List Char :=
  if index = 0 then [] else '_' :: index.repr.toList

theorem toList_containedId (feature : String) (index : Nat) :
    (containedId "" feature index).toList = '_' :: (feature.toList ++ indexText index) := by
  unfold containedId indexText
  split <;> simp

theorem toList_pathText_cons (feature : String) (index : Nat) (path : List (String × Nat)) :
    (pathText ((feature, index) :: path)).toList =
      '_' :: (feature.toList ++ (indexText index ++ (pathText path).toList)) := by
  rw [pathText, String.toList_append, toList_containedId]
  simp

/-- Nothing, or a text after an underscore: what can follow a name or a place. -/
def Divided (text : List Char) : Prop := ∀ char ∈ text.head?, char = '_'

theorem divided_pathText (path : List (String × Nat)) : Divided (pathText path).toList := by
  cases path with
  | nil => simp [Divided, pathText]
  | cons step path =>
      rw [toList_pathText_cons]
      simp [Divided]

theorem divided_indexText_append (index : Nat) (path : List (String × Nat)) :
    Divided (indexText index ++ (pathText path).toList) := by
  unfold indexText
  split
  · exact divided_pathText path
  · simp [Divided]

/-- `long` is `short` followed by an underscore and possibly more. -/
abbrev Continues (short long : List Char) : Prop := short ++ ['_'] <+: long

/-- Of two readings of a text either both end at one place or the longer one runs over an
underscore. -/
theorem eq_or_continues {first second rest others : List Char} (divided : Divided rest)
    (alsoDivided : Divided others) (same : first ++ rest = second ++ others) :
    (first = second ∧ rest = others) ∨ Continues first second ∨ Continues second first := by
  have run_over {short long more tail : List Char} (fresh : Divided tail)
      (parts : tail = more ++ long) (nonempty : more ≠ []) :
      Continues short (short ++ more) := by
    obtain ⟨char, rest, rfl⟩ := List.exists_cons_of_ne_nil nonempty
    cases fresh char (by simp [parts])
    exact ⟨rest, by simp⟩
  rcases List.append_eq_append_iff.mp same with ⟨more, rfl, parts⟩ | ⟨more, rfl, parts⟩
  · by_cases nothing : more = []
    · subst nothing
      exact Or.inl ⟨by simp, parts⟩
    · exact Or.inr (Or.inl (run_over divided parts nothing))
  · by_cases nothing : more = []
    · subst nothing
      exact Or.inl ⟨by simp, parts.symm⟩
    · exact Or.inr (Or.inr (run_over alsoDivided parts nothing))

theorem not_continues_repr (short : List Char) (number : Nat) :
    ¬ Continues short number.repr.toList := by
  intro runsOver
  have inside : '_' ∈ number.repr.toList := runsOver.subset (by simp)
  rw [Nat.toList_repr] at inside
  exact Nat.underscore_not_in_toDigits inside

end Structural

namespace Forest

open Structural

/-- No feature in use below `root` can be read in two ways. -/
@[mk_iff]
structure Legible (forest : Forest) (root : NodeId) : Prop where
  /-- A feature of a node is not another one continued after an underscore. -/
  features : ∀ node ∈ forest.walk root, ∀ short ∈ forest.occupied node,
    ∀ long ∈ forest.occupied node, ¬ Continues short.toList long.toList
  /-- A feature of the first node in a list is not the place of a later one there, also
  not continued after an underscore. -/
  places : ∀ node ∈ forest.walk root, ∀ feature ∈ forest.occupied node,
    ∀ first ∈ (forest.childrenOf node feature)[0]?,
    ∀ index < (forest.childrenOf node feature).length, 0 < index →
    ∀ inner ∈ forest.occupied first,
      inner ≠ index.repr ∧ ¬ Continues index.repr.toList inner.toList

instance (forest : Forest) (root : NodeId) : Decidable (forest.Legible root) :=
  decidable_of_iff' _ (legible_iff forest root)

section

variable {root first second : NodeId} (shaped : forest.TreeShaped)
  (alive : forest.isAlive root = true)
include shaped alive

theorem Legible.below (legible : forest.Legible root)
    (held : (forest.childrenOf root feature)[index]? = some child) : forest.Legible child := by
  have childAlive := isAlive_of_parent?_eq_some (shaped.contained held)
  have within : ∀ node ∈ forest.walk child, node ∈ forest.walk root := by
    intro node member
    obtain ⟨path, leads⟩ := (shaped.mem_walk_iff childAlive).mp member
    exact (shaped.mem_walk_iff alive).mpr ⟨_, .down held leads⟩
  exact ⟨fun node member => legible.features node (within node member),
    fun node member => legible.places node (within node member)⟩

theorem mem_walk_self : root ∈ forest.walk root :=
  (shaped.mem_walk_iff alive).mpr ⟨[], .here root⟩

/-- Where the first step of one path goes to the first place of a list and that of the
other one to a later place, the texts differ. -/
theorem Legible.pathText_ne (legible : forest.Legible root)
    (held : (forest.childrenOf root feature)[0]? = some child)
    (later : (forest.childrenOf root feature)[index]? = some second) (positive : 0 < index)
    (leads : forest.Leads child path node) (rest : List (String × Nat)) :
    (pathText path).toList ≠ '_' :: (index.repr.toList ++ (pathText rest).toList) := by
  intro same
  cases leads with
  | here => simp [pathText] at same
  | @down _ _ _ inner position path place _ =>
      rw [toList_pathText_cons, List.cons.injEq] at same
      obtain ⟨within, _⟩ := List.getElem?_eq_some_iff.mp later
      have apart := legible.places root (mem_walk_self shaped alive) feature
        (mem_occupied_of_getElem? held) child held index within positive inner
        (mem_occupied_of_getElem? place)
      rcases eq_or_continues (divided_indexText_append position path) (divided_pathText rest)
        same.2 with ⟨isPlace, _⟩ | runsOver | runsOver
      · exact apart.1 (String.toList_inj.mp isPlace)
      · exact not_continues_repr _ index runsOver
      · exact apart.2 runsOver

end

/-- The places that two paths through one feature begin with are one place, and the rest
of both has one text. -/
theorem Legible.index_eq {root first second sibling : NodeId} {position : Nat}
    {rest : List (String × Nat)} (legible : forest.Legible root)
    (shaped : forest.TreeShaped) (alive : forest.isAlive root = true)
    (held : (forest.childrenOf root feature)[index]? = some child)
    (beside : (forest.childrenOf root feature)[position]? = some sibling)
    (leads : forest.Leads child path first) (others : forest.Leads sibling rest second)
    (same : indexText index ++ (pathText path).toList =
      indexText position ++ (pathText rest).toList) :
    index = position ∧ (pathText path).toList = (pathText rest).toList := by
  unfold indexText at same
  by_cases isFirst : index = 0
  · subst isFirst
    by_cases alsoFirst : position = 0
    · subst alsoFirst
      exact ⟨rfl, by simpa using same⟩
    · simp only [alsoFirst, if_true, if_false, List.nil_append, List.cons_append] at same
      exact absurd same
        (legible.pathText_ne shaped alive held beside (Nat.pos_of_ne_zero alsoFirst) leads rest)
  · by_cases alsoFirst : position = 0
    · subst alsoFirst
      simp only [isFirst, if_true, if_false, List.nil_append, List.cons_append] at same
      exact absurd same.symm
        (legible.pathText_ne shaped alive beside held (Nat.pos_of_ne_zero isFirst) others path)
    · simp only [isFirst, alsoFirst, if_false, List.cons_append, List.cons.injEq, true_and] at same
      rcases eq_or_continues (divided_pathText path) (divided_pathText rest) same with
        ⟨numbers, texts⟩ | runsOver | runsOver
      · have number := congrArg (Nat.ofDigitChars 10 · 0) numbers
        rw [Nat.toList_repr, Nat.toList_repr] at number
        exact ⟨by simpa only [Nat.ofDigitChars_ten_toDigits] using number, texts⟩
      · exact absurd runsOver (not_continues_repr _ position)
      · exact absurd runsOver (not_continues_repr _ index)

/-- Paths with one text are one path. -/
theorem Legible.path_eq {root first second : NodeId} (legible : forest.Legible root)
    (shaped : forest.TreeShaped) (alive : forest.isAlive root = true)
    (leads : forest.Leads root path first) (others : forest.Leads root other second)
    (same : (pathText path).toList = (pathText other).toList) : path = other := by
  -- the first steps are read off both texts, then the rest below the child they share
  induction leads generalizing other second with
  | here =>
      cases others with
      | here => rfl
      | down =>
          rw [toList_pathText_cons] at same
          cases same
  | @down root child first feature index path held below ih =>
      cases others with
      | here =>
          rw [toList_pathText_cons] at same
          cases same
      | @down _ sibling _ name position rest place beside =>
          rw [toList_pathText_cons, toList_pathText_cons, List.cons.injEq] at same
          have apart := legible.features root (mem_walk_self shaped alive)
          have used := mem_occupied_of_getElem? held
          have alsoUsed := mem_occupied_of_getElem? place
          rcases eq_or_continues (divided_indexText_append index path)
            (divided_indexText_append position rest) same.2 with
            ⟨names, texts⟩ | runsOver | runsOver
          · obtain rfl := String.toList_inj.mp names
            obtain ⟨rfl, remaining⟩ :=
              legible.index_eq shaped alive held place below beside texts
            cases held.symm.trans place
            have childAlive := isAlive_of_parent?_eq_some (shaped.contained held)
            rw [ih (legible.below shaped alive held) childAlive beside remaining]
          · exact absurd runsOver (apart feature used name alsoUsed)
          · exact absurd runsOver (apart name alsoUsed feature used)

section

variable {decls : List ConceptDecl} {schema : Schema} {name : String}
  (built : Schema.build decls = .ok schema)
include built

/-- A feature in use is one that the schema declares to contain nodes. -/
theorem exists_feature_of_mem_occupied (operations : List Operation)
    (used : name ∈ (run schema operations).occupied node) :
    ∃ concept, schema.concept? concept.name = some concept ∧
      ∃ feature ∈ concept.features, feature.name = name ∧ feature.type.isContainment = true := by
  have typed := typedIn_run built operations
  obtain ⟨concept, is, feature, member, same, kind⟩ := typed.conforming.exists_feature used
  refine ⟨concept, typed.concepts is ?_, feature, member, same, kind⟩
  by_contra placeholder
  have plain := emptyPlaceholders_run built operations node concept is (by simpa using placeholder)
  simp [plain feature member] at kind

/-- Names without underscores that are not places either can be read in one way only. -/
theorem legible_run
    (plain : ∀ name concept, schema.concept? name = some concept →
      ∀ feature ∈ concept.features, feature.type.isContainment = true →
        '_' ∉ feature.name.toList ∧ ∀ index, 0 < index → feature.name ≠ index.repr)
    (operations : List Operation) (root : NodeId) : (run schema operations).Legible root := by
  have named {node : NodeId} {name : String}
      (used : name ∈ (run schema operations).occupied node) :
      '_' ∉ name.toList ∧ ∀ index, 0 < index → name ≠ index.repr := by
    obtain ⟨concept, declared, feature, member, rfl, kind⟩ :=
      exists_feature_of_mem_occupied built operations used
    exact plain concept.name concept declared feature member kind
  have whole {short : List Char} {name : String} (unmarked : '_' ∉ name.toList) :
      ¬ Continues short name.toList := fun runsOver => unmarked (runsOver.subset (by simp))
  refine ⟨fun node _ short _ long used => whole (named used).1, ?_⟩
  intro node _ feature _ first _ index _ positive inner used
  exact ⟨(named used).2 index positive, whole (named used).1⟩

end

end Forest

namespace Structural

variable {decls : List ConceptDecl} {schema : Schema}

/-- Nodes of one legible tree have different identifiers. -/
theorem id_ne_of_legible {root first second : NodeId} {source : Source}
    (built : Schema.build decls = .ok schema) (operations : List Operation)
    (isRoot : (Forest.run schema operations).isRoot root = true)
    (recorded : ((Forest.run schema operations).cell? root).bind (·.source) = some source)
    (accepted : sources source = .ok text)
    (legible : (Forest.run schema operations).Legible root)
    (inFirst : first ∈ (Forest.run schema operations).walk root)
    (inSecond : second ∈ (Forest.run schema operations).walk root) (differ : first ≠ second) :
    ∃ firstId secondId, id sources (Forest.run schema operations) first = .ok firstId ∧
      id sources (Forest.run schema operations) second = .ok secondId ∧ firstId ≠ secondId := by
  have shaped := (Forest.wellLinked_run built operations).treeShaped
  have alive : (Forest.run schema operations).isAlive root = true := by
    obtain ⟨cell, there, _⟩ := Option.bind_eq_some_iff.mp recorded
    simp [Forest.isAlive, there]
  have named := id_of_isRoot isRoot recorded accepted
  obtain ⟨path, leads⟩ := (shaped.mem_walk_iff alive).mp inFirst
  obtain ⟨other, others⟩ := (shaped.mem_walk_iff alive).mp inSecond
  refine ⟨_, _, id_of_leads shaped leads named, id_of_leads shaped others named, fun same => ?_⟩
  have texts : (pathText path).toList = (pathText other).toList := by
    have whole := congrArg String.toList same
    simp only [String.toList_append] at whole
    exact List.append_cancel_left whole
  rw [← legible.path_eq shaped alive leads others texts] at others
  exact differ (leads.unique others)

/-- Names with underscores and a digit that are read in one way only. -/
def nestedDecls : List ConceptDecl :=
  [((ConceptDecl.named "Box").addFeature "sub_items" (.children "Box")).addFeature "lid_1"
    (.child "Box")]

def nestedOperations : List Operation :=
  [.create "Box", .create "Box", .create "Box", .create "Box",
    .edit (.setSource 0 (some (.named "repo"))), .edit (.setChildren 0 "sub_items" [1, 2]),
    .edit (.setChild 1 "lid_1" (some 3))]

theorem id_ne_of_legible_nested :
    ∃ schema, Schema.build nestedDecls = .ok schema ∧
      (Forest.run schema nestedOperations).Legible 0 ∧
      id .simple (Forest.run schema nestedOperations) 2 = .ok "repo_root_sub_items_1" ∧
      id .simple (Forest.run schema nestedOperations) 3 = .ok "repo_root_sub_items_lid_1" ∧
      ∃ firstId secondId, id .simple (Forest.run schema nestedOperations) 2 = .ok firstId ∧
        id .simple (Forest.run schema nestedOperations) 3 = .ok secondId ∧
        firstId ≠ secondId := by
  have answers : (Schema.build nestedDecls).toOption.map (fun schema =>
      let forest := Forest.run schema nestedOperations
      (forest.isRoot 0, (forest.cell? 0).bind (·.source), decide (forest.Legible 0),
        forest.walk 0, id .simple forest 2, id .simple forest 3)) =
      some (true, some (.named "repo"), true, [0, 1, 3, 2], .ok "repo_root_sub_items_1",
        .ok "repo_root_sub_items_lid_1") := by
    rfl
  cases built : Schema.build nestedDecls with
  | error reason =>
      rw [built] at answers
      cases answers
  | ok schema =>
      rw [built] at answers
      simp only [Except.toOption, Option.map_some, Option.some.injEq, Prod.mk.injEq,
        decide_eq_true_eq] at answers
      obtain ⟨isRoot, recorded, legible, walk, second, inner⟩ := answers
      refine ⟨schema, rfl, legible, second, inner, ?_⟩
      exact id_ne_of_legible built nestedOperations isRoot recorded rfl legible
        (by simp [walk]) (by simp [walk]) (by decide)

/-- A list next to a feature that is named like the second place in it. -/
def crossedDecls : List ConceptDecl :=
  [((ConceptDecl.named "Box").addFeature "x" (.children "Box")).addFeature "x_1" (.child "Box")]

def crossedOperations : List Operation :=
  [.create "Box", .create "Box", .create "Box", .create "Box",
    .edit (.setSource 0 (some (.named "repo"))), .edit (.setChildren 0 "x" [1, 2]),
    .edit (.setChild 0 "x_1" (some 3))]

/-- Two nodes of one tree with one identifier. -/
theorem id_eq_of_crossed :
    ∃ schema, Schema.build crossedDecls = .ok schema ∧
      (Forest.run schema crossedOperations).isRoot 0 = true ∧
      (((Forest.run schema crossedOperations).cell? 0).bind (·.source)).isSome = true ∧
      2 ∈ (Forest.run schema crossedOperations).walk 0 ∧
      3 ∈ (Forest.run schema crossedOperations).walk 0 ∧
      id .simple (Forest.run schema crossedOperations) 2 = .ok "repo_root_x_1" ∧
      id .simple (Forest.run schema crossedOperations) 3 = .ok "repo_root_x_1" := by
  have answers : (Schema.build crossedDecls).toOption.map (fun schema =>
      ((Forest.run schema crossedOperations).isRoot 0,
        (((Forest.run schema crossedOperations).cell? 0).bind (·.source)).isSome,
        (Forest.run schema crossedOperations).walk 0,
        id .simple (Forest.run schema crossedOperations) 2,
        id .simple (Forest.run schema crossedOperations) 3)) =
      some (true, true, [0, 1, 2, 3], .ok "repo_root_x_1", .ok "repo_root_x_1") := by
    rfl
  cases built : Schema.build crossedDecls with
  | error reason =>
      rw [built] at answers
      cases answers
  | ok schema =>
      rw [built] at answers
      simp only [Except.toOption, Option.map_some, Option.some.injEq, Prod.mk.injEq] at answers
      obtain ⟨isRoot, sourced, walk, second, only⟩ := answers
      exact ⟨schema, rfl, isRoot, sourced, by simp [walk], by simp [walk], second, only⟩

end Structural

end TypedTree
