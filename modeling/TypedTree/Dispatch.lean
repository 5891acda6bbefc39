import TypedTree.Order
import TypedTree.Schema.Basic

namespace TypedTree

/-! # Dispatch by concept

A dispatch table keeps rules for concepts. A rule applies to a concept if it is kept
for that concept or one of its supertypes. Of the applicable rules the most specific
one is selected; `policy` says what happens if there are several such.

What was selected for a concept, and the order of the rules, are remembered until the
next rule is registered.
-/

inductive DispatchPolicy where
  /-- The rule whose concept has the smallest name is selected. -/
  | nameOrder
  /-- Nothing is selected. -/
  | strict
deriving DecidableEq, Repr, Inhabited

inductive DispatchError where
  | unknownConcept (concept : String)
  | duplicateRule (key : String)
  | ambiguous (concept first second : String)
deriving DecidableEq, Repr, Inhabited

def DispatchError.message : DispatchError → String
  | .unknownConcept concept => "Unknown concept: " ++ concept
  | .duplicateRule key => "A rule for " ++ key ++ " is already registered"
  | .ambiguous concept first second =>
      "Ambiguous rules for " ++ concept ++ ": " ++ first ++ " and " ++ second ++ " both apply"

structure DispatchTable (R : Type) where
  schema : Schema
  policy : DispatchPolicy
  rules : Registry String R
  /-- The selections made so far, by concept. -/
  selected : Registry String (Except DispatchError (Option String))
  /-- The order of the rules, once it has been asked for. -/
  order : Option (List String)

namespace DispatchTable

variable {R : Type}

def new (schema : Schema) (policy : DispatchPolicy) : DispatchTable R :=
  ⟨schema, policy, ∅, ∅, none⟩

def size (table : DispatchTable R) : Nat := table.rules.size

def isEmpty (table : DispatchTable R) : Bool := table.rules.isEmpty

def register (table : DispatchTable R) (concept : String) (rule : R) :
    Except DispatchError (DispatchTable R) :=
  if !table.schema.contains concept then .error (.unknownConcept concept)
  else if table.rules.contains concept then .error (.duplicateRule concept)
  else
    .ok { table with
      rules := table.rules.insert concept rule
      selected := ∅
      order := none }

def sortNames (names : List String) : List String :=
  names.mergeSort fun first second => first ≤ second

/-- The concept whose rule is the one for `concept`. -/
def select (table : DispatchTable R) (concept : Concept) :
    Except DispatchError (Option String) :=
  let applicable := table.rules.keys.filter concept.isA
  match sortNames (minimal table.schema.isSubtype applicable), table.policy with
  | [], _ => .ok none
  | first :: second :: _, .strict => .error (.ambiguous concept.name first second)
  | first :: _, _ => .ok (some first)

/-- The rule for nodes of a concept. -/
def find (table : DispatchTable R) (concept : Concept) : Except DispatchError (Option R) :=
  (table.select concept).map fun winner => winner.bind table.rules.get?

/-- The rule for nodes of a concept, by what is remembered if it is. -/
def lookup (table : DispatchTable R) (concept : Concept) :
    Except DispatchError (Option R) × DispatchTable R :=
  match table.selected.get? concept.name with
  | some selection => (selection.map fun winner => winner.bind table.rules.get?, table)
  | none =>
      let selection := table.select concept
      (selection.map fun winner => winner.bind table.rules.get?,
        { table with selected := table.selected.insert concept.name selection })

/-- The concepts that have rules, each after its subtypes, by name where that leaves a
choice. -/
def specificityOrder (table : DispatchTable R) : List String :=
  linearize table.schema.isSubtype (fun names => (sortNames names).head?) table.rules.keys

/-- The order of the rules, by what is remembered if it is. -/
def orderedConcepts (table : DispatchTable R) : List String × DispatchTable R :=
  match table.order with
  | some order => (order, table)
  | none =>
      let order := table.specificityOrder
      (order, { table with order := some order })

end DispatchTable

end TypedTree
