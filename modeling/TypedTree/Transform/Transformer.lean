import TypedTree.Transform.Engine

namespace TypedTree

/-! # Transformers

A transformer is an engine together with what its runs leave behind: the issues and
the memo. Registering a factory forgets the memo, because the new factory may be the
one for types seen before.
-/

structure Transformer where
  engine : Engine
  issues : List Issue
  memo : Memo

namespace Transformer

def new (schema : Schema) (config : TransformConfig) (source : Option Source) :
    Transformer where
  engine :=
    { schema := schema
      config := config
      source := source
      factories := ∅
      lookups := .memoized }
  issues := []
  memo := .empty

/-- Adds a factory. There is one for each foreign type, and its rules for concepts may
only name concepts and features of the schema. -/
def register (transformer : Transformer) (factory : Factory) :
    Except TransformError Transformer :=
  let engine := transformer.engine
  if engine.factories.contains factory.sourceType then
    .error (.duplicateFactory factory.sourceType)
  else
    match factory.rules.unknownKey? engine.schema with
    | some key => .error (.unknownChildRule factory.sourceType key)
    | none =>
        .ok { transformer with
          engine :=
            { engine with factories := engine.factories.insert factory.sourceType factory }
          memo := .empty }

def registerConcept (transformer : Transformer) (sourceType concept : String) :
    Except TransformError Transformer :=
  transformer.register (.ofConcept sourceType concept)

def addIssue (transformer : Transformer) (issue : Issue) : Transformer :=
  { transformer with issues := transformer.issues ++ [issue] }

def takeIssues (transformer : Transformer) : List Issue × Transformer :=
  (transformer.issues, { transformer with issues := [] })

/-- What is left after a call: its result, the forest and the transformer. -/
structure Outcome (α : Type) where
  result : Except TransformError α
  forest : Forest
  transformer : Transformer

def perform {α : Type} (transformer : Transformer) (forest : Forest)
    (action : Engine → EngineM α) : Option (Outcome α) := do
  let (result, run) ←
    (action transformer.engine).run.run ⟨forest, transformer.issues, transformer.memo⟩
  return ⟨result, run.forest, { transformer with issues := run.issues, memo := run.memo }⟩

def transform (transformer : Transformer) (fuel : Nat) (forest : Forest)
    (value : ForeignValue) (parent : Option NodeId) : Option (Outcome (Option NodeId)) :=
  transformer.perform forest fun engine => engine.transform fuel value parent

def transformList (transformer : Transformer) (fuel : Nat) (forest : Forest)
    (value : ForeignValue) (parent : Option NodeId) : Option (Outcome (List NodeId)) :=
  transformer.perform forest fun engine => engine.transformList fuel value parent

end Transformer

end TypedTree
