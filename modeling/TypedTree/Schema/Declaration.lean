import TypedTree.Schema.Basic

namespace TypedTree

structure FeatureDecl where
  name : String
  type : FeatureType
  mappedFrom : Option String
deriving DecidableEq, Repr, Inhabited

def FeatureDecl.ownedBy (decl : FeatureDecl) (owner : String) : Feature where
  name := decl.name
  type := decl.type
  mappedFrom := decl.mappedFrom
  owner := owner

structure ConceptDecl where
  name : String
  supertypes : List String
  features : List FeatureDecl
deriving DecidableEq, Repr, Inhabited

namespace ConceptDecl

def named (name : String) : ConceptDecl := ⟨name, [], []⟩

def extend (decl : ConceptDecl) (supertype : String) : ConceptDecl :=
  { decl with supertypes := decl.supertypes ++ [supertype] }

def addFeature (decl : ConceptDecl) (name : String) (type : FeatureType) : ConceptDecl :=
  { decl with features := decl.features ++ [⟨name, type, none⟩] }

/-- Says which accessor path supplies the feature declared last. A path that precedes every
feature is kept on one without a name, which no schema accepts. -/
def mapLastFrom (decl : ConceptDecl) (path : String) : ConceptDecl :=
  match decl.features.getLast? with
  | some last =>
      { decl with features := decl.features.dropLast ++ [{ last with mappedFrom := some path }] }
  | none => { decl with features := [⟨"", .attribute, some path⟩] }

/-- A concept without supertypes extends the base concept. -/
def withBase (decl : ConceptDecl) : ConceptDecl :=
  if decl.supertypes.isEmpty && decl.name != Concept.base.name then
    { decl with supertypes := [Concept.base.name] }
  else decl

def ownFeatures (decl : ConceptDecl) : List Feature :=
  decl.features.map fun feature => feature.ownedBy decl.name

/-- The concepts that every schema has. -/
def builtins : List ConceptDecl :=
  [named Concept.base.name, named Concept.generic.name,
    (named Concept.error.name).addFeature Concept.messageFeature.name .attribute]

end ConceptDecl

end TypedTree
