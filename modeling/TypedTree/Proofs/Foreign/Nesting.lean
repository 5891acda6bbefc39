import TypedTree.Foreign.Basic

namespace TypedTree

mutual
/-- How deep records are nested, the node itself included. -/
def ForeignNode.depth : ForeignNode → Nat
  | .record _ _ fields _ _ => ForeignValue.depthOfFields fields + 1
  | .parsed _ => 1

def ForeignValue.depth : ForeignValue → Nat
  | .node foreign => foreign.depth
  | .list items => ForeignValue.depthOfItems items
  | .null => 0
  | .scalar _ => 0

def ForeignValue.depthOfItems : List ForeignValue → Nat
  | [] => 0
  | item :: rest => max item.depth (ForeignValue.depthOfItems rest)

def ForeignValue.depthOfFields : List (String × ForeignValue) → Nat
  | [] => 0
  | (_, value) :: rest => max value.depth (ForeignValue.depthOfFields rest)
end

/-- Induction on how lists are nested in a value. What stands inside its nodes does not count. -/
@[elab_as_elim, induction_eliminator]
theorem ForeignValue.nested_induction {motive : ForeignValue → Prop} (null : motive .null)
    (scalar : ∀ value, motive (.scalar value)) (node : ∀ foreign, motive (.node foreign))
    (list : ∀ items, (∀ item ∈ items, motive item) → motive (.list items)) :
    ∀ value, motive value
  | .null => null
  | .scalar value => scalar value
  | .node foreign => node foreign
  | .list items => list items fun item _ => nested_induction null scalar node list item

namespace ForeignValue

variable {node inner : ForeignNode} {value : ForeignValue} {accessor path : String}

/-- The node is the value or stands somewhere inside it. -/
inductive Holds (node : ForeignNode) : ForeignValue → Prop where
  | here : Holds node (.node node)
  | item {items value} (member : value ∈ items) (held : Holds node value) :
      Holds node (.list items)
  | field {type supertypes fields range text name value} (member : (name, value) ∈ fields)
      (held : Holds node value) :
      Holds node (.node (.record type supertypes fields range text))

theorem Holds.trans (held : Holds inner value) (inside : Holds node (.node inner)) :
    Holds node value := by
  induction held with
  | here => exact inside
  | item member _ ih => exact .item member ih
  | field member _ ih => exact .field member ih

theorem depth_le_depthOfItems {items : List ForeignValue} (member : value ∈ items) :
    value.depth ≤ depthOfItems items := by
  induction items with
  | nil => cases member
  | cons first rest ih =>
      rw [depthOfItems]
      rcases List.mem_cons.mp member with rfl | later
      · exact Nat.le_max_left _ _
      · exact Nat.le_trans (ih later) (Nat.le_max_right _ _)

theorem depth_le_depthOfFields {fields : List (String × ForeignValue)} {name : String}
    (member : (name, value) ∈ fields) : value.depth ≤ depthOfFields fields := by
  induction fields with
  | nil => cases member
  | cons first rest ih =>
      rw [depthOfFields]
      rcases List.mem_cons.mp member with rfl | later
      · exact Nat.le_max_left _ _
      · exact Nat.le_trans (ih later) (Nat.le_max_right _ _)

theorem Holds.depth_le (held : Holds node value) : node.depth ≤ value.depth := by
  induction held with
  | here => exact Nat.le_refl _
  | item member _ ih => exact Nat.le_trans ih (depth_le_depthOfItems member)
  | field member _ ih =>
      have below := depth_le_depthOfFields member
      simp only [depth, ForeignNode.depth]
      omega

/-- All nodes are records, and the type of a node determines its supertypes. -/
def TypedBy (supers : String → List String) (value : ForeignValue) : Prop :=
  ∀ node, Holds node value →
    ∃ type fields range text, node = .record type (supers type) fields range text

variable {supers : String → List String}

@[simp]
theorem typedBy_null : ForeignValue.null.TypedBy supers := nofun

@[simp]
theorem typedBy_scalar (scalar : Value) : (ForeignValue.scalar scalar).TypedBy supers := nofun

@[simp]
theorem typedBy_list_iff {items : List ForeignValue} :
    (ForeignValue.list items).TypedBy supers ↔ ∀ item ∈ items, item.TypedBy supers := by
  constructor
  · exact fun typed item member node held => typed node (.item member held)
  · intro each node held
    cases held with
    | item member inside => exact each _ member node inside

@[simp]
theorem typedBy_record_iff {type : String} {supertypes : List String}
    {fields : List (String × ForeignValue)} {range : Option Span} {text : Option String} :
    (ForeignValue.node (.record type supertypes fields range text)).TypedBy supers ↔
      supertypes = supers type ∧ ∀ field ∈ fields, field.2.TypedBy supers := by
  constructor
  · intro typed
    refine ⟨?_, fun field member node held => typed node (.field member held)⟩
    obtain ⟨_, _, _, _, same⟩ := typed _ .here
    cases same
    rfl
  · intro both node held
    cases held with
    | here => exact ⟨type, fields, range, text, by rw [both.1]⟩
    | field member inside => exact both.2 _ member node inside

theorem TypedBy.inside (typed : value.TypedBy supers) (held : Holds inner value) :
    (ForeignValue.node inner).TypedBy supers :=
  fun node inside => typed node (held.trans inside)

theorem TypedBy.tail {items : List ForeignValue}
    (typed : (ForeignValue.list (value :: items)).TypedBy supers) :
    (ForeignValue.list items).TypedBy supers := by
  rw [typedBy_list_iff, List.forall_mem_cons] at typed
  exact typedBy_list_iff.mpr typed.2

theorem stepAll_eq_map (items : List ForeignValue) :
    stepAll accessor items = items.map (step accessor) := by
  induction items with
  | nil => rfl
  | cons item rest ih => rw [stepAll, ih, List.map_cons]

theorem exists_holds_of_get {type : String} {supertypes : List String}
    {fields : List (String × ForeignValue)} {range : Option Span} {text : Option String}
    (held : Holds node ((ForeignNode.record type supertypes fields range text).get accessor)) :
    ∃ name value, (name, value) ∈ fields ∧ Holds node value := by
  simp only [ForeignNode.get] at held
  cases found : fields.reverse.find? fun field => field.1 = accessor with
  | none =>
      rw [found] at held
      cases held
  | some field =>
      rw [found] at held
      exact ⟨field.1, field.2, List.mem_reverse.mp (List.mem_of_find?_eq_some found), held⟩

theorem Holds.of_step {value : ForeignValue} (typed : value.TypedBy supers)
    (held : Holds node (value.step accessor)) :
    ∃ asked, Holds asked value ∧ Holds node (.node asked) ∧ node.depth < asked.depth := by
  induction value with
  | null => cases held
  | scalar => cases held
  | node asked =>
      obtain ⟨type, fields, range, text, rfl⟩ := typed asked .here
      rw [step] at held
      obtain ⟨name, value, member, inside⟩ := exists_holds_of_get held
      refine ⟨_, .here, .field member inside, ?_⟩
      have below := Nat.le_trans inside.depth_le (depth_le_depthOfFields member)
      rw [ForeignNode.depth]
      omega
  | list items ih =>
      rw [step, stepAll_eq_map] at held
      cases held with
      | item member inside =>
          obtain ⟨item, inItems, rfl⟩ := List.mem_map.mp member
          obtain ⟨asked, isAsked, below⟩ :=
            ih item inItems (typedBy_list_iff.mp typed item inItems) inside
          exact ⟨asked, .item inItems isAsked, below⟩

theorem TypedBy.step (typed : value.TypedBy supers) : (value.step accessor).TypedBy supers := by
  intro node held
  obtain ⟨asked, isAsked, inside, _⟩ := held.of_step typed
  exact typed node (isAsked.trans inside)

theorem Holds.of_steps {accessors : List String} (typed : value.TypedBy supers)
    (held : Holds node (accessors.foldl (fun current accessor => current.step accessor) value)) :
    ∃ asked, Holds asked value ∧ Holds node (.node asked) ∧
      (accessors ≠ [] → node.depth < asked.depth) := by
  induction accessors generalizing value with
  | nil => exact ⟨node, held, .here, fun some => absurd rfl some⟩
  | cons accessor rest ih =>
      obtain ⟨middle, isMiddle, inMiddle, _⟩ := ih typed.step held
      obtain ⟨asked, isAsked, inside, below⟩ := isMiddle.of_step typed
      refine ⟨asked, isAsked, inside.trans inMiddle, fun _ => ?_⟩
      exact Nat.lt_of_le_of_lt inMiddle.depth_le below

theorem Holds.of_navigate {foreign : ForeignNode}
    (typed : (ForeignValue.node foreign).TypedBy supers)
    (held : Holds inner (foreign.navigate path)) :
    Holds inner (.node foreign) ∧ (segments path ≠ [] → inner.depth < foreign.depth) := by
  obtain ⟨asked, isAsked, inside, below⟩ := held.of_steps typed
  refine ⟨isAsked.trans inside, fun some => ?_⟩
  exact Nat.lt_of_lt_of_le (below some) isAsked.depth_le

end ForeignValue

end TypedTree
