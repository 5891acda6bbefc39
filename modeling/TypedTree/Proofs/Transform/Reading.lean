import Mathlib.Data.List.Basic
import TypedTree.Proofs.Foreign.Nesting
import TypedTree.Transform.Lookup

namespace TypedTree

namespace Drafting

variable {supers : String → List String}

/-- A node counts as the text it was read from. -/
def scalarOf : ForeignValue → Option Value
  | .null | .list _ => none
  | .scalar value => some value
  | .node (.record _ _ _ _ text) => text.map .str
  | .node (.parsed tree) => some (.str tree.text)

/-- The name that a reference gets from a scalar. -/
def nameOf : Value → String
  | .str text => text
  | .int number => toString number
  | .float number => Decimal.text number
  | .bool flag => toString flag

def labelOf : Value → String
  | .str _ => "string"
  | .int _ => "int"
  | .float _ => "float"
  | .bool _ => "bool"

/-- The value stored under a name; each field takes the place of earlier ones of its name. -/
def fieldOf (name : String) (fields : List (String × ForeignValue)) : ForeignValue :=
  fields.foldl (fun before field => if field.1 = name then field.2 else before) .null

mutual
/-- What stands under an accessor, for a list at each of its elements. Parse nodes, which
are not drafted, have nothing there. -/
def valueUnder (accessor : String) : ForeignValue → ForeignValue
  | .node (.record _ _ fields _ _) => fieldOf accessor fields
  | .list items => .list (valuesUnder accessor items)
  | .node (.parsed _) => .null
  | .null => .null
  | .scalar _ => .null

def valuesUnder (accessor : String) : List ForeignValue → List ForeignValue
  | [] => []
  | item :: rest => valueUnder accessor item :: valuesUnder accessor rest
end

def valueAlong : List String → ForeignValue → ForeignValue
  | [], value => value
  | accessor :: rest, value => valueAlong rest (valueUnder accessor value)

/-- The parts of a path between its dots, without the empty ones. -/
def accessorsOf (path : String) : List String :=
  ((path.toList.splitOn '.').filter fun part => !part.isEmpty).map String.ofList

def read (foreign : ForeignNode) : FeatureSource → ForeignValue
  | .getter getter => getter foreign
  | .path path => valueAlong (accessorsOf path) (.node foreign)

/-- The factory of the first of the types that has one. -/
def firstRegistered (factories : Registry String Factory) : List String → Option Factory
  | [] => none
  | type :: rest =>
      match factories.get? type with
      | some factory => some factory
      | none => firstRegistered factories rest

/-- The rule for a feature of the first of the concepts that has one, or else the rule for
the feature of any concept. -/
def firstRule (rules : Registry String FeatureSource) (feature : String) :
    List String → Option FeatureSource
  | [] => rules.get? feature
  | concept :: rest =>
      match rules.get? (concept ++ "#" ++ feature) with
      | some source => some source
      | none => firstRule rules feature rest

/-- What a feature of a concept is read from. A rule of the factory goes before the path that
the feature declares. -/
def sourceOf (factory : Factory) (concept : Concept) (feature : Feature) : Option FeatureSource :=
  match firstRule factory.rules.sources feature.name concept.ancestry with
  | some source => some source
  | none => feature.mappedFrom.map .path

theorem scalarOf_eq (value : ForeignValue) : scalarOf value = value.scalar? := by
  match value with
  | .null | .list _ | .scalar _ => rfl
  | .node (.record _ _ _ _ _) | .node (.parsed _) => rfl

theorem nameOf_eq (value : Value) : nameOf value = value.text := by
  match value with
  | .str _ | .int _ | .float _ => rfl
  | .bool true | .bool false => rfl

theorem labelOf_eq (value : Value) : labelOf value = value.kindLabel := by
  cases value <;> rfl

theorem fieldOf_eq (name : String) (fields : List (String × ForeignValue)) :
    fieldOf name fields =
      ((fields.reverse.find? fun field => field.1 = name).map Prod.snd).getD .null := by
  unfold fieldOf
  rw [← List.foldr_reverse]
  induction fields.reverse with
  | nil => rfl
  | cons field earlier ih =>
      rw [List.foldr_cons, List.find?_cons]
      by_cases here : field.1 = name
      · rw [if_pos here, decide_eq_true here]
        rfl
      · rw [if_neg here, decide_eq_false here, ih]

theorem valuesUnder_eq_map (accessor : String) (items : List ForeignValue) :
    valuesUnder accessor items = items.map (valueUnder accessor) := by
  induction items with
  | nil => rfl
  | cons item rest ih => rw [valuesUnder, ih, List.map_cons]

theorem valueUnder_eq (accessor : String) {value : ForeignValue} (typed : value.TypedBy supers) :
    valueUnder accessor value = value.step accessor := by
  induction value with
  | null => rfl
  | scalar => rfl
  | node foreign =>
      obtain ⟨type, fields, range, text, rfl⟩ := typed foreign .here
      exact fieldOf_eq accessor fields
  | list items ih =>
      rw [valueUnder, ForeignValue.step, valuesUnder_eq_map, ForeignValue.stepAll_eq_map]
      refine congrArg ForeignValue.list (List.map_congr_left fun item member => ?_)
      exact ih item member (ForeignValue.typedBy_list_iff.mp typed item member)

theorem valueAlong_eq (accessors : List String) {value : ForeignValue}
    (typed : value.TypedBy supers) :
    valueAlong accessors value =
      accessors.foldl (fun current accessor => current.step accessor) value := by
  induction accessors generalizing value with
  | nil => rfl
  | cons accessor rest ih =>
      rw [valueAlong, valueUnder_eq accessor typed, ih typed.step, List.foldl_cons]

theorem splitOn_eq_splitChars (separator : Char) (cs : List Char) :
    cs.splitOn separator = Text.splitChars separator cs := by
  induction cs with
  | nil => rfl
  | cons c rest ih =>
      rw [List.splitOn_cons_eq_if_modifyHead, ih, Text.splitChars]
      by_cases here : c = separator
      · rw [if_pos (beq_iff_eq.mpr here), if_pos here]
      · rw [if_neg (beq_iff_eq.not.mpr here), if_neg here]
        cases parts : Text.splitChars separator rest with
        | nil => exact absurd parts (Text.splitChars_ne_nil separator rest)
        | cons part others => rfl

theorem accessorsOf_eq (path : String) : accessorsOf path = ForeignValue.segments path := by
  rw [accessorsOf, splitOn_eq_splitChars, ForeignValue.segments]
  congr 2
  funext part
  cases part <;> rfl

theorem read_eq {foreign : ForeignNode} (typed : (ForeignValue.node foreign).TypedBy supers)
    (source : FeatureSource) : read foreign source = source.extract foreign := by
  match source with
  | .getter _ => rfl
  | .path path =>
      rw [read, valueAlong_eq _ typed, accessorsOf_eq]
      rfl

theorem firstRegistered_eq (factories : Registry String Factory) (foreign : ForeignNode) :
    firstRegistered factories (foreign.typeName :: foreign.supertypes) =
      findFactory factories foreign := by
  unfold findFactory
  induction foreign.typeName :: foreign.supertypes with
  | nil => rfl
  | cons type rest ih =>
      rw [firstRegistered, List.findSome?_cons]
      cases factories.get? type with
      | some factory => rfl
      | none => exact ih

theorem firstRule_eq (rules : ExtractionRules) (concept : Concept) (feature : String) :
    firstRule rules.sources feature concept.ancestry = rules.source? concept feature := by
  rw [ExtractionRules.source?]
  induction concept.ancestry with
  | nil => rfl
  | cons ancestor rest ih =>
      rw [firstRule, List.findSome?_cons, ExtractionRules.qualifiedKey]
      cases rules.sources.get? (ancestor ++ "#" ++ feature) with
      | some source => rfl
      | none => exact ih

end Drafting

end TypedTree
