import TypedTree.Span

namespace TypedTree

/-- The phase that raised an issue. -/
inductive IssueKind where
  | lexical
  | syntactic
  | semantic
  | translation
deriving DecidableEq, Repr, Inhabited

inductive Severity where
  | error
  | warning
  | info
deriving DecidableEq, Repr, Inhabited

namespace Severity

def label : Severity → String
  | .error => "error"
  | .warning => "warning"
  | .info => "info"

/-- Errors come first, infos last. -/
def rank : Severity → Nat
  | .error => 0
  | .warning => 1
  | .info => 2

instance : LE Severity where
  le first second := first.rank ≤ second.rank

instance (first second : Severity) : Decidable (first ≤ second) :=
  inferInstanceAs (Decidable (first.rank ≤ second.rank))

end Severity

structure Issue where
  kind : IssueKind
  severity : Severity
  message : String
  range : Option Span
deriving DecidableEq, Repr, Inhabited

namespace Issue

def isError (issue : Issue) : Bool := issue.severity == .error

def text (issue : Issue) : String :=
  match issue.range with
  | some range => issue.severity.label ++ " at " ++ range.text ++ ": " ++ issue.message
  | none => issue.severity.label ++ ": " ++ issue.message

/-- The places of `issues` in order of severity, equal ones in their given order. -/
def bySeverity (issues : List Issue) : List Nat :=
  let placed := issues.zipIdx
  (placed.mergeSort fun first second => first.1.severity ≤ second.1.severity).map Prod.snd

end Issue

end TypedTree
