import TypedTree.Order
import TypedTree.Schema.Declaration

namespace TypedTree

/-! # Ancestries

The ancestry of a concept lists it and all its supertypes, each after its
subtypes. The ancestries of the direct supertypes are merged level by level, so
that nearer supertypes come first among unrelated ones, and the merged list is
then put into an order that respects subtyping.
-/

inductive SchemaError where
  | duplicateConcept (concept : String)
  | unknownSupertype (concept supertype : String)
  | unknownTarget (concept feature target : String)
  | duplicateFeature (concept feature : String)
  | inheritanceCycle (concept : String)
  | danglingMapping (concept : String)
deriving DecidableEq, Repr, Inhabited

def SchemaError.message : SchemaError → String
  | .duplicateConcept concept => "Duplicate concept: " ++ concept
  | .unknownSupertype concept supertype =>
      "Concept " ++ concept ++ " extends unknown concept " ++ supertype
  | .unknownTarget concept feature target =>
      "Feature " ++ concept ++ "." ++ feature ++ " targets unknown concept " ++ target
  | .duplicateFeature concept feature =>
      "Feature " ++ feature ++ " is declared more than once in " ++ concept
  | .inheritanceCycle concept => "Inheritance cycle through concept " ++ concept
  | .danglingMapping concept =>
      "Concept " ++ concept ++ " declares a mapping before any feature"

namespace Ancestry

/-- The ancestries found so far. -/
abbrev Known := Registry String (List String)

/-- The ancestry of `name`, given those of its direct supertypes and of all the
concepts in them. -/
def merge (known : Known) (name : String) (parents : List (List String)) : List String :=
  let below (sub sup : String) : Bool := ((known.get? sub).getD []).contains sup
  name :: linearize below List.head? (firstOccurrences (levels parents))

/-- Visits names from left to right, each with what the earlier visits found. -/
def visitAll (visit : String → Known → Except SchemaError (List String × Known)) :
    List String → Known → Except SchemaError (List (List String) × Known)
  | [], known => .ok ([], known)
  | name :: rest, known => do
      let (ancestry, known) ← visit name known
      let (ancestries, known) ← visitAll visit rest known
      return (ancestry :: ancestries, known)

/-- Finds the ancestry of `name` after those of its supertypes. `path` holds the
concepts whose supertypes are being visited: meeting one again is a cycle, and
so no path is longer than `depth`, the number of declared concepts. -/
def visit (declared : Registry String ConceptDecl) :
    (depth : Nat) → (path : List String) → String → Known →
      Except SchemaError (List String × Known)
  | depth, path, name, known =>
      match known.get? name with
      | some ancestry => .ok (ancestry, known)
      | none =>
          if name ∈ path then .error (.inheritanceCycle name)
          else
            match depth with
            | 0 => .error (.inheritanceCycle name)
            | depth + 1 => do
                let supertypes := ((declared.get? name).map (·.supertypes)).getD []
                let (parents, known) ←
                  visitAll (visit declared depth (name :: path)) supertypes known
                let ancestry := merge known name parents
                return (ancestry, known.insert name ancestry)

/-- The ancestries of all declared concepts. -/
def all (declared : Registry String ConceptDecl) : Except SchemaError Known :=
  (visitAll (visit declared declared.size []) declared.keys ∅).map Prod.snd

end Ancestry

end TypedTree
