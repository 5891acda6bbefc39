import TypedTree.Decimal.Shortest

namespace TypedTree

inductive Value where
  | str (text : String)
  | int (number : Int)
  | float (number : Binary64)
  | bool (flag : Bool)
deriving DecidableEq, Repr, Inhabited

namespace Value

def text : Value → String
  | .str text => text
  | .int number => number.repr
  | .float number => Decimal.text number
  | .bool true => "true"
  | .bool false => "false"

/-- The word for the value's kind in messages. -/
def kindLabel : Value → String
  | .str _ => "string"
  | .int _ => "int"
  | .float _ => "float"
  | .bool _ => "bool"

def str? : Value → Option String
  | .str text => some text
  | _ => none

def int? : Value → Option Int
  | .int number => some number
  | _ => none

def bool? : Value → Option Bool
  | .bool flag => some flag
  | _ => none

/-- Equality of values of one kind, floating-point numbers compared numerically. -/
def same : Value → Value → Bool
  | .str first, .str second => first == second
  | .int first, .int second => first == second
  | .float first, .float second => first.same second
  | .bool first, .bool second => first == second
  | _, _ => false

end Value

end TypedTree
