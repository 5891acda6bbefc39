import TypedTree.LineIndex

namespace TypedTree

/-- The tokens of a parse tree, from left to right, are the text it was read from. -/
inductive ParseTree where
  | node (kind : String) (children : List ParseTree)
  | token (kind text : String)
deriving Inhabited

namespace ParseTree

mutual
def text : ParseTree → String
  | .node _ children => textOfAll children
  | .token _ text => text

def textOfAll : List ParseTree → String
  | [] => ""
  | tree :: rest => tree.text ++ textOfAll rest
end

def length (tree : ParseTree) : Nat := tree.text.utf8ByteSize

/-- The trees with the offsets at which they start, the first at `start`. -/
def placedFrom (start : Nat) : List ParseTree → List (Nat × ParseTree)
  | [] => []
  | tree :: rest => (start, tree) :: placedFrom (start + tree.length) rest

end ParseTree

/-- A node of a parse tree at its place in the text. -/
structure ParseNode where
  kind : String
  children : List ParseTree
  start : Nat
  index : LineIndex
deriving Inhabited

namespace ParseNode

/-- The root of a tree, unless it is a token. Positions refer to the lines of
`indexed`. -/
def ofTree? (tree : ParseTree) (indexed : String) : Option ParseNode :=
  match tree with
  | .node kind children => some ⟨kind, children, 0, .ofText indexed⟩
  | .token _ _ => none

def text (node : ParseNode) : String := ParseTree.textOfAll node.children

def stop (node : ParseNode) : Nat := node.start + node.text.utf8ByteSize

def range (node : ParseNode) : Span := node.index.span node.start node.stop

def childNodes (node : ParseNode) : List ParseNode :=
  (ParseTree.placedFrom node.start node.children).filterMap fun (start, tree) =>
    match tree with
    | .node kind children => some ⟨kind, children, start, node.index⟩
    | .token _ _ => none

def tokenText? (node : ParseNode) (kind : String) : Option String :=
  node.children.findSome? fun
    | .token tokenKind text => if tokenKind = kind then some text else none
    | .node _ _ => none

def place (node : ParseNode) : String :=
  node.kind ++ "@" ++ node.start.repr ++ ".." ++ node.stop.repr

end ParseNode

end TypedTree
