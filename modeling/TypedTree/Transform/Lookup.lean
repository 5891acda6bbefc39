import TypedTree.Transform.Factory

namespace TypedTree

/-- The features that are filled, each with what it is read from. -/
abbrev Plan := List (Feature × FeatureSource)

def findFactory (factories : Registry String Factory) (foreign : ForeignNode) :
    Option Factory :=
  (foreign.typeName :: foreign.supertypes).findSome? factories.get?

/-- A rule of the factory counts before the mapping that the feature declares. -/
def Factory.plan (factory : Factory) (concept : Concept) : Plan :=
  concept.features.filterMap fun feature =>
    match factory.rules.source? concept feature.name with
    | some source => some (feature, source)
    | none => feature.mappedFrom.map fun path => (feature, .path path)

/-- What was found before. -/
structure Memo where
  factories : Registry String (Option Factory)
  plans : Registry (String × String) Plan

def Memo.empty : Memo := ⟨∅, ∅⟩

instance : Inhabited Memo := ⟨.empty⟩

/-- How factories and plans are found, from what was found before. `direct` finds them anew each
time; `memoized` remembers them, by the foreign type and by the names of factory and concept. -/
structure Lookups where
  factory : Registry String Factory → ForeignNode → Memo → Option Factory × Memo
  plan : Factory → Concept → Memo → Plan × Memo

namespace Lookups

def direct : Lookups where
  factory factories foreign memo := (findFactory factories foreign, memo)
  plan factory concept memo := (factory.plan concept, memo)

def memoized : Lookups where
  factory factories foreign memo :=
    match memo.factories.get? foreign.typeName with
    | some found => (found, memo)
    | none =>
        let found := findFactory factories foreign
        (found, { memo with factories := memo.factories.insert foreign.typeName found })
  plan factory concept memo :=
    let key := (factory.sourceType, concept.name)
    match memo.plans.get? key with
    | some plan => (plan, memo)
    | none =>
        let plan := factory.plan concept
        (plan, { memo with plans := memo.plans.insert key plan })

end Lookups

end TypedTree
