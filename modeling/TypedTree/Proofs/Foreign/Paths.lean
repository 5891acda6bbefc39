import TypedTree.Proofs.Foreign.Nesting

namespace TypedTree

/-! # Dotted paths

A path joined from two by a dot leads to where its second part leads from all that its first
part leads to, and lists on the way keep their shape. Reading one accessor puts other values in
the place of the nodes and the scalars of a value; two such replacements are one, and so all
accessors of a path make one replacement. Which accessors a path has is a matter of its
dots alone, of which any number may stand together.
-/

namespace ForeignValue

variable {accessors : List String} {path name : String}

/-- The path has these accessors, in this order. A dot keeps apart the accessors before it and
those after it, and there need be none on either side. -/
inductive Spells : List String → String → Prop where
  | nothing : Spells [] ""
  | accessor {name : String} (proper : name ≠ "") (plain : '.' ∉ name.toList) :
      Spells [name] name
  | dot {before after : List String} {first second : String} (start : Spells before first)
      (rest : Spells after second) : Spells (before ++ after) (first ++ "." ++ second)

theorem segments_dot (first second : String) :
    segments (first ++ "." ++ second) = segments first ++ segments second := by
  have parts : (first ++ "." ++ second).toList = first.toList ++ '.' :: second.toList := by simp
  rw [segments, parts, Text.splitChars_append, List.filter_append, List.map_append, ← segments,
    ← segments]

theorem segments_of_plain (proper : name ≠ "") (plain : '.' ∉ name.toList) :
    segments name = [name] := by
  have kept : name.toList ≠ [] := by simpa using proper
  simp [segments, Text.splitChars_of_not_mem plain, kept]

theorem Spells.segments_eq (spelled : Spells accessors path) : segments path = accessors := by
  induction spelled with
  | nothing => rfl
  | accessor proper plain => exact segments_of_plain proper plain
  | dot _ _ start rest => rw [segments_dot, start, rest]

theorem spells_segments (path : String) : Spells (segments path) path := by
  by_cases marked : '.' ∈ path.toList
  · obtain ⟨before, after, parts⟩ := List.append_of_mem marked
    have joined : path = String.ofList before ++ "." ++ String.ofList after := by
      apply String.toList_injective
      simpa using parts
    have shorter : before.length < path.toList.length ∧ after.length < path.toList.length := by
      simp only [parts, List.length_append, List.length_cons]
      omega
    rw [joined, segments_dot]
    exact .dot (spells_segments _) (spells_segments _)
  · by_cases empty : path = ""
    · subst empty
      exact .nothing
    · rw [segments_of_plain empty marked]
      exact .accessor empty marked
termination_by path.toList.length
decreasing_by
  · simpa using shorter.1
  · simpa using shorter.2

/-- A path has one sequence of accessors, although it can be joined in many ways. -/
theorem segments_eq_iff : segments path = accessors ↔ Spells accessors path :=
  ⟨fun same => same ▸ spells_segments path, Spells.segments_eq⟩

theorem Spells.eq_nil (spelled : Spells accessors path) (dots : ∀ c ∈ path.toList, c = '.') :
    accessors = [] := by
  induction spelled with
  | nothing => rfl
  | @accessor name proper plain =>
      obtain ⟨c, present⟩ := List.exists_mem_of_ne_nil name.toList (by simpa using proper)
      exact absurd (dots c present ▸ present) plain
  | dot _ _ start rest =>
      simp only [String.toList_append, List.forall_mem_append] at dots
      rw [start dots.1.1, rest dots.2, List.append_nil]

mutual
/-- Puts other values in the place of the nodes and of the scalars. Lists keep their items, at
any depth. -/
def replace (node : ForeignNode → ForeignValue) (scalar : Value → ForeignValue) :
    ForeignValue → ForeignValue
  | .node foreign => node foreign
  | .list items => .list (replaceAll node scalar items)
  | .null => .null
  | .scalar value => scalar value

def replaceAll (node : ForeignNode → ForeignValue) (scalar : Value → ForeignValue) :
    List ForeignValue → List ForeignValue
  | [] => []
  | item :: rest => item.replace node scalar :: replaceAll node scalar rest
end

theorem replaceAll_eq_map (node : ForeignNode → ForeignValue) (scalar : Value → ForeignValue)
    (items : List ForeignValue) :
    replaceAll node scalar items = items.map (replace node scalar) := by
  induction items with
  | nil => rfl
  | cons item rest ih => rw [replaceAll, ih, List.map_cons]

theorem replace_self (value : ForeignValue) : value.replace .node .scalar = value := by
  induction value with
  | null => rfl
  | scalar => rfl
  | node => rfl
  | list items ih => rw [replace, replaceAll_eq_map, List.map_congr_left ih, List.map_id']

theorem replace_replace (value : ForeignValue) (node node' : ForeignNode → ForeignValue)
    (scalar scalar' : Value → ForeignValue) :
    (value.replace node scalar).replace node' scalar' =
      value.replace (fun foreign => (node foreign).replace node' scalar') fun plain =>
        (scalar plain).replace node' scalar' := by
  induction value with
  | null => rfl
  | scalar => rfl
  | node => rfl
  | list items ih =>
      simp only [replace, replaceAll_eq_map, List.map_map]
      exact congrArg list (List.map_congr_left ih)

theorem step_eq_replace (accessor : String) (value : ForeignValue) :
    value.step accessor = value.replace (·.get accessor) fun _ => .null := by
  induction value with
  | null => rfl
  | scalar => rfl
  | node => rfl
  | list items ih =>
      rw [step, replace, stepAll_eq_map, replaceAll_eq_map, List.map_congr_left ih]

/-- A scalar is left only if no accessor is read at all. -/
theorem foldl_step_eq_replace (accessors : List String) (value : ForeignValue) :
    accessors.foldl (fun current accessor => current.step accessor) value =
      value.replace
        (fun foreign =>
          accessors.foldl (fun current accessor => current.step accessor) (.node foreign))
        fun scalar => if accessors = [] then .scalar scalar else .null := by
  induction accessors generalizing value with
  | nil => exact value.replace_self.symm
  | cons accessor rest ih =>
      rw [List.foldl_cons, ih, step_eq_replace, replace_replace]
      simp only [List.foldl_cons, step, replace, reduceCtorEq, if_false, ← ih]

/-- What a path leads to from a value. In the place of each node, at any nesting of lists, is
what the path leads to from that node. From null and from a scalar it leads to null, unless it
has no accessors and leads nowhere. -/
def along (path : String) (value : ForeignValue) : ForeignValue :=
  value.replace (fun foreign => foreign.navigate path) fun scalar =>
    if segments path = [] then .scalar scalar else .null

theorem follow_eq_along (value : ForeignValue) (path : String) :
    value.follow path = value.along path :=
  foldl_step_eq_replace (segments path) value

end ForeignValue

namespace ForeignNode

open ForeignValue

theorem navigate_dot (foreign : ForeignNode) (first second : String) :
    foreign.navigate (first ++ "." ++ second) = (foreign.navigate first).follow second := by
  rw [navigate, follow, segments_dot, List.foldl_append, ← follow, ← follow, ← navigate]

/-- A joined path is followed part by part. What a path leads to depends on no more than the
accessors in it, and dots alone lead to the node itself. -/
theorem navigate_joined (foreign : ForeignNode) :
    (∀ first second,
      foreign.navigate (first ++ "." ++ second) = (foreign.navigate first).along second) ∧
    (∀ path accessors, segments path = accessors ↔ Spells accessors path) ∧
    (∀ accessors path other, Spells accessors path → Spells accessors other →
      foreign.navigate path = foreign.navigate other) ∧
    ∀ path, (∀ c ∈ path.toList, c = '.') → foreign.navigate path = .node foreign := by
  refine ⟨fun first second => ?_, fun path accessors => segments_eq_iff,
    fun accessors path other spelled same => ?_, fun path dots => ?_⟩
  · rw [navigate_dot, follow_eq_along]
  · rw [navigate, navigate, follow, follow, spelled.segments_eq, same.segments_eq]
  · rw [navigate, follow, (spells_segments path).eq_nil dots, List.foldl_nil]

/-- The body is a list with a list in it, and neither holds methods alone. -/
def unevenClass : ForeignNode :=
  let method (name : String) : ForeignValue :=
    .node (.record "Method" [] [("name", .scalar (.str name))] none none)
  .record "Class" []
    [("body", .list [method "get", .list [method "set", .null], .scalar (.str "end")])] none none

theorem navigate_joined_unevenClass :
    Spells ["body", "name"] "body.name" ∧ Spells ["body", "name"] "..body...name." ∧
      unevenClass.navigate "..body...name." =
        .list [.scalar (.str "get"), .list [.scalar (.str "set"), .null], .null] ∧
      (∀ c ∈ "..".toList, c = '.') ∧ unevenClass.navigate ".." = .node unevenClass := by
  obtain ⟨joined, spelled, same, dots⟩ := navigate_joined unevenClass
  have plain := (spelled "body.name" ["body", "name"]).mp (by decide +kernel)
  have stray := (spelled "..body...name." ["body", "name"]).mp (by decide +kernel)
  have twoDots : ∀ c ∈ "..".toList, c = '.' := by simp
  refine ⟨plain, stray, ?_, twoDots, dots ".." twoDots⟩
  calc
    unevenClass.navigate "..body...name." = unevenClass.navigate "body.name" :=
      same _ _ _ stray plain
    _ = (unevenClass.navigate "body").along "name" := joined "body" "name"
    _ = _ := rfl

end ForeignNode

end TypedTree
