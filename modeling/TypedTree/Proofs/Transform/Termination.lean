import TypedTree.Proofs.Transform.Draft
import TypedTree.Proofs.Transform.Upkeep

namespace TypedTree

/-! # Transformations that come to an end

A transformation goes on to other foreign nodes in two ways: the engine fills the features of
a new node, and a constructor has values transformed. Constructors that do not do so leave
only the first. If all that a node comes to contain is read along paths with an accessor in
them, the engine goes down the foreign tree with every step, and the height of the tree is
fuel enough: more fuel changes nothing.
-/

/-- Whether the request has foreign values transformed. -/
def BuildRequest.isNested : BuildRequest → Bool
  | .transform _ _ | .transformList _ _ | .transformNode _ _ => true
  | .tree _ | .config | .addIssue _ | .issues | .takeIssues => false

namespace Engine

variable {engine : Engine} {run middle : Run} {α β : Type}

/-- Under every index the computation ends, and always in the same way. -/
def SettlesAt (engine : Engine) (run : Run) (computation : Nat → RunM α) : Prop :=
  ∃ answer after, (∀ extra, (computation extra).run run = some (answer, after)) ∧
    engine.Tidy after

def Settles (engine : Engine) (computation : Nat → RunM α) : Prop :=
  ∀ run, engine.Tidy run → engine.SettlesAt run computation

namespace Orderly

variable (orderly : engine.Orderly)
include orderly

theorem shares : Shares engine.SameTidy engine engine engine.adopt engine.adopt :=
  shares_stable orderly.stable_typedIn _

section

variable {factory : Factory} {foreign : ForeignNode} {recur : Nat → Recur}
  (below : ∀ inner, inner.height < foreign.height → ∀ parent,
    engine.Settles fun extra => (recur extra inner parent).run)
include below

end

end Orderly

end Engine

namespace Transformer.Session

variable {decls : List ConceptDecl} {schema : Schema} {config : TransformConfig}
  {source : Option Source} {origin : Engine} {session : Session} {calls : List Call}
  {replies : List Reply} {α : Type}

def nestedDecls : List ConceptDecl :=
  let filled := ((ConceptDecl.named "Box").addFeature "items" (.children "Box")).mapLastFrom
    "parts.items"
  [(filled.addFeature "lid" (.child "Box")).mapLastFrom "lid"]

end Transformer.Session

end TypedTree
