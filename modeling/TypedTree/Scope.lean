import TypedTree.Forest.Basic
import TypedTree.Text.Lowercase

namespace TypedTree

/-! # Scopes

A scope binds names to nodes and may lie inside other scopes. A name can be bound
several times; the first binding that fits is the one that is found. Each scope
decides for itself whether it tells upper from lower case.
-/

/-- The bindings of one scope alone. -/
structure Frame where
  ignoreCase : Bool
  /-- The nodes bound to each name, in the order of definition. -/
  symbols : Registry String (List NodeId)

namespace Frame

def new (ignoreCase : Bool) : Frame := ⟨ignoreCase, ∅⟩

/-- The form in which the frame compares names. -/
def fold (frame : Frame) (name : String) : String :=
  if frame.ignoreCase then Text.lowercase name else name

def define (frame : Frame) (name : String) (node : NodeId) : Frame :=
  let key := frame.fold name
  let bound := (frame.symbols.get? key).getD []
  { frame with symbols := frame.symbols.insert key (bound ++ [node]) }

def find? (frame : Frame) (fits : NodeId → Bool) (name : String) : Option NodeId :=
  ((frame.symbols.get? (frame.fold name)).getD []).find? fits

def size (frame : Frame) : Nat := frame.symbols.values.flatten.length

end Frame

structure Scope where
  inner : Frame
  /-- The scopes around it, nearest first. -/
  enclosing : List Frame

namespace Scope

def new (ignoreCase : Bool) : Scope := ⟨.new ignoreCase, []⟩

instance : Inhabited Scope := ⟨new false⟩

def frames (scope : Scope) : List Frame := scope.inner :: scope.enclosing

def withParent (scope parent : Scope) : Scope := { scope with enclosing := parent.frames }

def parent? (scope : Scope) : Option Scope :=
  match scope.enclosing with
  | [] => none
  | frame :: rest => some ⟨frame, rest⟩

def defineAs (scope : Scope) (name : String) (node : NodeId) : Scope :=
  { scope with inner := scope.inner.define name node }

/-- Binds a node under its own name; a node without one is left out. -/
def define (scope : Scope) (forest : Forest) (node : NodeId) : Scope :=
  match (forest.cell? node).bind (·.name?) with
  | some name => scope.defineAs name node
  | none => scope

def defineAll (scope : Scope) (forest : Forest) (nodes : List NodeId) : Scope :=
  nodes.foldl (fun grown node => grown.define forest node) scope

/-- The node that a name means: the first binding, from the innermost scope outwards,
of a node that is a `required`, if something is required. -/
def resolve (scope : Scope) (forest : Forest) (name : String) (required : Option String) :
    Option NodeId :=
  let fits (node : NodeId) : Bool := required.all fun concept => forest.isA node concept
  scope.frames.findSome? fun frame => frame.find? fits name

def contains (scope : Scope) (forest : Forest) (name : String) : Bool :=
  (scope.resolve forest name none).isSome

/-- The names bound in the innermost scope, in the form it compares them. -/
def names (scope : Scope) : List String := scope.inner.symbols.keys

def size (scope : Scope) : Nat := scope.inner.size

def isEmpty (scope : Scope) : Bool := scope.inner.symbols.isEmpty

/-- All nodes that the scope or one around it binds. -/
def boundNodes (scope : Scope) : List NodeId :=
  scope.frames.flatMap fun frame => frame.symbols.values.flatten

end Scope

end TypedTree
