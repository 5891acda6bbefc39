import TypedTree.Schema.Ancestry

namespace TypedTree

namespace Schema

def checkNamed (decl : ConceptDecl) : Except SchemaError Unit :=
  if decl.features.any fun feature => feature.name == "" then
    .error (.danglingMapping decl.name)
  else .ok ()

def checkSupertype (declared : Registry String ConceptDecl) (decl : ConceptDecl)
    (supertype : String) : Except SchemaError Unit :=
  if declared.contains supertype then .ok ()
  else .error (.unknownSupertype decl.name supertype)

def checkTarget (declared : Registry String ConceptDecl) (decl : ConceptDecl)
    (feature : FeatureDecl) : Except SchemaError Unit :=
  match feature.type.target? with
  | none => .ok ()
  | some target =>
      if declared.contains target then .ok ()
      else .error (.unknownTarget decl.name feature.name target)

def checkNames (declared : Registry String ConceptDecl) (decl : ConceptDecl) :
    Except SchemaError Unit := do
  decl.supertypes.forM (checkSupertype declared decl)
  decl.features.forM (checkTarget declared decl)

/-- The features of a concept: those of its ancestry from the most general concept
to itself, each concept's in the order of declaration. -/
def inheritedFeatures (declared : Registry String ConceptDecl) (ancestry : List String) :
    List Feature :=
  ancestry.reverse.flatMap fun ancestor =>
    ((declared.get? ancestor).map (·.ownFeatures)).getD []

def completeConcept (declared : Registry String ConceptDecl) (known : Ancestry.Known)
    (decl : ConceptDecl) : Except SchemaError (String × Concept) :=
  let ancestry := (known.get? decl.name).getD []
  let features := inheritedFeatures declared ancestry
  match firstRepeat? [] (features.map (·.name)) with
  | some feature => .error (.duplicateFeature decl.name feature)
  | none => .ok (decl.name, ⟨decl.name, decl.supertypes, ancestry, features⟩)

/-- The declarations by name, the built-in ones first and every concept extending
the base concept. -/
def declare (decls : List ConceptDecl) : Registry String ConceptDecl :=
  .ofEntries ((ConceptDecl.builtins ++ decls).map fun decl => (decl.name, decl.withBase))

def build (decls : List ConceptDecl) : Except SchemaError Schema := do
  let all := ConceptDecl.builtins ++ decls
  match firstRepeat? [] (all.map (·.name)) with
  | some concept => throw (.duplicateConcept concept)
  | none => pure ()
  all.forM checkNamed
  let declared := declare decls
  declared.values.forM (checkNames declared)
  let known ← Ancestry.all declared
  let concepts ← declared.values.mapM (completeConcept declared known)
  return ⟨.ofEntries concepts⟩

end Schema

end TypedTree
