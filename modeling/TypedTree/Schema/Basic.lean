import TypedTree.Registry

namespace TypedTree

/-! # Schemas

A schema declares the types of nodes. Every concept has supertypes and an ordered
list of features. What would otherwise be searched for on every use is stored with
each concept: its ancestry, most specific first, and all of its features, inherited
ones first.
-/

/-- What a feature holds: a scalar, one contained node, a list of contained nodes,
or a named link to a node elsewhere. -/
inductive FeatureType where
  | attribute
  | child (target : String)
  | children (target : String)
  | reference (target : String)
deriving DecidableEq, Repr, Inhabited

namespace FeatureType

def label : FeatureType → String
  | .attribute => "attribute"
  | .child _ => "child"
  | .children _ => "children"
  | .reference _ => "reference"

def isContainment : FeatureType → Bool
  | .child _ | .children _ => true
  | .attribute | .reference _ => false

/-- The concept expected of contained or referenced nodes. -/
def target? : FeatureType → Option String
  | .attribute => none
  | .child target | .children target | .reference target => some target

def isReference : FeatureType → Bool
  | .reference _ => true
  | _ => false

end FeatureType

structure Feature where
  name : String
  type : FeatureType
  /-- The accessor path that supplies the feature when no factory has a rule for it. -/
  mappedFrom : Option String
  owner : String
deriving DecidableEq, Repr, Inhabited

structure Concept where
  name : String
  supertypes : List String
  /-- The concept itself, then all its supertypes, each after its own subtypes. -/
  ancestry : List String
  features : List Feature
deriving DecidableEq, Repr, Inhabited

namespace Concept

/-- The concept that all others extend. -/
def base : Concept where
  name := "Node"
  supertypes := []
  ancestry := ["Node"]
  features := []

/-- Stands in for a subtree that no factory knows. -/
def generic : Concept where
  name := "GenericNode"
  supertypes := ["Node"]
  ancestry := ["GenericNode", "Node"]
  features := []

/-- The attribute that says what went wrong at an error node. -/
def messageFeature : Feature where
  name := "message"
  type := .attribute
  mappedFrom := none
  owner := "ErrorNode"

/-- Stands in for a subtree whose factory failed. -/
def error : Concept where
  name := "ErrorNode"
  supertypes := ["Node"]
  ancestry := ["ErrorNode", "Node"]
  features := [messageFeature]

def isA (concept : Concept) (name : String) : Bool := concept.ancestry.contains name

def feature? (concept : Concept) (name : String) : Option Feature :=
  concept.features.find? fun feature => feature.name = name

def isGeneric (concept : Concept) : Bool := concept.name == generic.name

def isError (concept : Concept) : Bool := concept.name == error.name

def isPlaceholder (concept : Concept) : Bool := concept.isGeneric || concept.isError

end Concept

structure Schema where
  concepts : Registry String Concept

namespace Schema

def concept? (schema : Schema) (name : String) : Option Concept := schema.concepts.get? name

def contains (schema : Schema) (name : String) : Bool := schema.concepts.contains name

/-- Whether `sub` is `sup` or a direct or indirect subtype of it. -/
def isSubtype (schema : Schema) (sub sup : String) : Bool :=
  (schema.concept? sub).any fun concept => concept.isA sup

end Schema

end TypedTree
