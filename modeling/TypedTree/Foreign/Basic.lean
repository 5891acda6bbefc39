import TypedTree.Foreign.ParseTree
import TypedTree.Text.Split
import TypedTree.Value

namespace TypedTree

/-! # Foreign trees

A foreign tree is what a parser or a front end hands over. All that is asked of a
foreign node is its type, the type's supertypes, its accessors and, if it has them,
a range and a text. Records carry these as they are; nodes of a parse tree answer
from the tree.
-/

mutual
inductive ForeignNode where
  /-- Of two fields with one name the later one counts. -/
  | record (typeName : String) (supertypes : List String)
      (fields : List (String × ForeignValue)) (range : Option Span) (text : Option String)
  | parsed (node : ParseNode)

inductive ForeignValue where
  | null
  | scalar (value : Value)
  | node (node : ForeignNode)
  | list (items : List ForeignValue)
end

instance : Inhabited ForeignValue := ⟨.null⟩

instance : Inhabited ForeignNode := ⟨.parsed default⟩

namespace ForeignNode

def typeName : ForeignNode → String
  | .record typeName _ _ _ _ => typeName
  | .parsed node => node.kind

/-- The supertypes of the node's type, most specific first. -/
def supertypes : ForeignNode → List String
  | .record _ supertypes _ _ _ => supertypes
  | .parsed _ => []

def range : ForeignNode → Option Span
  | .record _ _ _ range _ => range
  | .parsed node => some node.range

def text : ForeignNode → Option String
  | .record _ _ _ _ text => text
  | .parsed node => some node.text

end ForeignNode

namespace ParseNode

def childrenOfKind (node : ParseNode) (kind : String) : List ParseNode :=
  node.childNodes.filter fun child => child.kind = kind

/-- The accessors of a parse node: its text, all its child nodes, those of one kind
(the kind followed by an asterisk), or the first child of a kind, a node before a
token. -/
def get (node : ParseNode) (accessor : String) : ForeignValue :=
  let asList (nodes : List ParseNode) : ForeignValue :=
    .list (nodes.map fun child => .node (.parsed child))
  if accessor = "text" then .scalar (.str node.text)
  else if accessor = "children" then asList node.childNodes
  else if accessor.toList.getLast? = some '*' then
    asList (node.childrenOfKind (String.ofList accessor.toList.dropLast))
  else
    match (node.childrenOfKind accessor).head?, node.tokenText? accessor with
    | some child, _ => .node (.parsed child)
    | none, some text => .scalar (.str text)
    | none, none => .null

end ParseNode

namespace ForeignNode

/-- Reads one accessor; an unknown one gives null. -/
def get (node : ForeignNode) (accessor : String) : ForeignValue :=
  match node with
  | .record _ _ fields _ _ =>
      ((fields.reverse.find? fun field => field.1 = accessor).map Prod.snd).getD .null
  | .parsed tree => tree.get accessor

end ForeignNode

namespace ForeignValue

def isNull : ForeignValue → Bool
  | .null => true
  | _ => false

def node? : ForeignValue → Option ForeignNode
  | .node foreign => some foreign
  | _ => none

/-- The scalar that a value stands for; nodes stand for their text. -/
def scalar? : ForeignValue → Option Value
  | .scalar value => some value
  | .node foreign => foreign.text.map .str
  | .null | .list _ => none

mutual
/-- Reads one accessor of every node, lists element by element; scalars have no
accessors. -/
def step (accessor : String) : ForeignValue → ForeignValue
  | .node foreign => foreign.get accessor
  | .list items => .list (stepAll accessor items)
  | .null => .null
  | .scalar _ => .null

def stepAll (accessor : String) : List ForeignValue → List ForeignValue
  | [] => []
  | item :: rest => item.step accessor :: stepAll accessor rest
end

/-- The non-empty parts of a dotted path. -/
def segments (path : String) : List String :=
  ((Text.splitChars '.' path.toList).filter (· ≠ [])).map String.ofList

/-- Reads the accessors of a dotted path one after the other. -/
def follow (value : ForeignValue) (path : String) : ForeignValue :=
  (segments path).foldl (fun current accessor => current.step accessor) value

end ForeignValue

namespace ForeignNode

def navigate (node : ForeignNode) (path : String) : ForeignValue :=
  (ForeignValue.node node).follow path

end ForeignNode

end TypedTree
