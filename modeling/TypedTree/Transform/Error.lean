import TypedTree.Forest.Edit

namespace TypedTree

/-- Where a foreign value of the wrong shape was met. -/
inductive Place where
  | entry
  | ofFeature (concept feature : String)
  | insideFeature (concept feature : String)
deriving DecidableEq, Repr, Inhabited

def Place.text : Place → String
  | .entry => "at transformation entry"
  | .ofFeature concept feature => "for " ++ concept ++ "." ++ feature
  | .insideFeature concept feature => "inside for " ++ concept ++ "." ++ feature

inductive TransformError where
  | unexpectedCollection (place : Place)
  | unexpectedValue (place : Place) (kind : String)
  | unmappedType (type : String)
  | duplicateFactory (type : String)
  | unknownChildRule (type key : String)
  /-- A failure that a factory reports itself. -/
  | factory (message : String)
  | edit (error : EditError)
deriving DecidableEq, Repr, Inhabited

def TransformError.message : TransformError → String
  | .unexpectedCollection place =>
      "Expected a single foreign node " ++ place.text ++ ", got a collection"
  | .unexpectedValue place kind =>
      "Expected a foreign node " ++ place.text ++ ", got a " ++ kind ++ " value"
  | .unmappedType type => "No factory registered for foreign type " ++ type
  | .duplicateFactory type => "A factory for foreign type " ++ type ++ " is already registered"
  | .unknownChildRule type key =>
      "Factory for " ++ type ++ " declares a rule for unknown feature " ++ key
  | .factory message => message
  | .edit error => error.message

end TypedTree
