import TypedTree.Foreign.Basic
import TypedTree.Registry
import TypedTree.Schema.Basic

namespace TypedTree

/-! # Extraction rules

A rule says from where on a foreign node a feature is read. A rule belongs to a
feature name, or to a feature name on one concept and its subtypes. Both kinds are
kept in one registry: the key of a rule for a concept is `Concept#feature`. -/

inductive FeatureSource where
  | getter (read : ForeignNode → ForeignValue)
  /-- A dotted accessor path. -/
  | path (accessors : String)

def FeatureSource.extract : FeatureSource → ForeignNode → ForeignValue
  | .getter read, foreign => read foreign
  | .path accessors, foreign => foreign.navigate accessors

structure ExtractionRules where
  sources : Registry String FeatureSource

namespace ExtractionRules

def empty : ExtractionRules := ⟨∅⟩

instance : Inhabited ExtractionRules := ⟨empty⟩

def qualifiedKey (concept feature : String) : String := concept ++ "#" ++ feature

/-- A rule for every feature of that name. A later rule replaces an earlier one with
the same key. -/
def add (rules : ExtractionRules) (feature : String) (source : FeatureSource) :
    ExtractionRules :=
  ⟨rules.sources.insert feature source⟩

/-- A rule for the feature on nodes that are a `concept`. -/
def addFor (rules : ExtractionRules) (concept feature : String) (source : FeatureSource) :
    ExtractionRules :=
  ⟨rules.sources.insert (qualifiedKey concept feature) source⟩

/-- The rule for a feature of a concept: that of the most specific concept in the
ancestry that has one, or else the one for the bare name. -/
def source? (rules : ExtractionRules) (concept : Concept) (feature : String) :
    Option FeatureSource :=
  match concept.ancestry.findSome? fun ancestor =>
      rules.sources.get? (qualifiedKey ancestor feature) with
  | some source => some source
  | none => rules.sources.get? feature

/-- What the rule for a feature reads, or null if there is no rule. -/
def extract (rules : ExtractionRules) (concept : Concept) (feature : String)
    (foreign : ForeignNode) : ForeignValue :=
  ((rules.source? concept feature).map (·.extract foreign)).getD .null

/-- The concept and the feature that a key names, if it is the key of a rule for a
concept. -/
def qualified? (key : String) : Option (String × String) := Text.splitOnce? '#' key

/-- The first key that names a concept or a feature the schema does not have. -/
def unknownKey? (rules : ExtractionRules) (schema : Schema) : Option String :=
  rules.sources.keys.find? fun key =>
    match qualified? key with
    | none => false
    | some (concept, feature) =>
        !(schema.concept? concept).any fun known => (known.feature? feature).isSome

end ExtractionRules

end TypedTree
