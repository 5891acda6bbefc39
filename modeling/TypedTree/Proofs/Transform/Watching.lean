import TypedTree.Transform.Transformer

namespace TypedTree

/-! # Engines under watch

What happens in the middle of a run cannot be read off its outcome. A watched engine works
like the engine it watches, and has no outcome once something happens that a rule forbids.
So a statement about an outcome of a watched run is one about the runs in which the rule
was kept throughout, at every depth and in every call that a constructor makes.
-/

/-- What an engine comes across. -/
inductive Event where
  /-- A foreign node, for which a factory is looked up. -/
  | meets (foreign : ForeignNode)
  /-- A foreign node without a factory. -/
  | unmapped (foreign : ForeignNode)
  /-- A constructor that reports a failure. -/
  | failed (foreign : ForeignNode) (message : String)
  | hookFailed (error : TransformError)

namespace Event

/-- Whether a lenient engine answers the event with a placeholder. -/
def isSubstituted : Event → Bool
  | .unmapped _ | .failed _ _ => true
  | .meets _ | .hookFailed _ => false

end Event

namespace Engine

def heed (rule : Event → Bool) (event : Event) : RunM Unit :=
  if rule event then pure () else failure

def watchHook (engine : Engine) (rule : Event → Bool) (factory : Factory)
    (foreign : ForeignNode) (node : NodeId) : EngineM Unit :=
  ExceptT.mk do
    let ended ← (engine.runHook factory foreign node).run
    if let .error error := ended then heed rule (.hookFailed error)
    return ended

/-- As `transformWith`, for as long as the rule is kept. -/
def watchWith (engine : Engine) (rule : Event → Bool) (adopt : Adopt) (recur : Recur) : Recur :=
    fun foreign parent => do
  heed rule (.meets foreign)
  match ← engine.factoryFor foreign with
  | none =>
      heed rule (.unmapped foreign)
      engine.substituteGeneric adopt foreign parent
  | some factory =>
      let mark := (← get).forest.nextId
      match ← ExceptT.lift (engine.construct recur factory foreign) with
      | .ok none => return none
      | .ok (some node) =>
          adopt node foreign parent
          engine.wire recur factory foreign node
          engine.watchHook rule factory foreign node
          return some node
      | .error (.factory message) =>
          heed rule (.failed foreign message)
          if engine.config.containFailures then
            substituteError adopt mark message foreign parent
          else throw (.factory message)
      | .error error => throw error

def watchNode (engine : Engine) (rule : Event → Bool) : (fuel : Nat) → Recur
  | 0 => fun _ _ => outOfFuel
  | fuel + 1 => fun foreign parent =>
      engine.watchWith rule engine.adopt (engine.watchNode rule fuel) foreign parent

def watch (engine : Engine) (rule : Event → Bool) (fuel : Nat) (value : ForeignValue)
    (parent : Option NodeId) : EngineM (Option NodeId) :=
  transformValue (engine.watchNode rule fuel) value parent

def watchList (engine : Engine) (rule : Event → Bool) (fuel : Nat) (value : ForeignValue)
    (parent : Option NodeId) : EngineM (List NodeId) :=
  transformAll (engine.watchNode rule fuel) value parent

def anything : Event → Bool := fun _ => true

theorem heed_bind {α : Type} {rule : Event → Bool} {event : Event} (allowed : rule event = true)
    (next : Unit → EngineM α) :
    ((liftM (heed rule event) : EngineM Unit) >>= next) = next () := by
  rw [heed, if_pos allowed]
  rfl

theorem watchHook_eq {rule : Event → Bool} (allowed : ∀ error, rule (.hookFailed error) = true)
    (engine : Engine) (factory : Factory) (foreign : ForeignNode) (node : NodeId) :
    engine.watchHook rule factory foreign node = engine.runHook factory foreign node := by
  refine ExceptT.ext ?_
  refine (bind_congr fun ended => ?_).trans (bind_pure _)
  cases ended with
  | ok done => rfl
  | error error =>
      dsimp only
      rw [heed, if_pos (allowed error)]
      rfl

theorem watchWith_anything (engine : Engine) (adopt : Adopt) (recur : Recur) :
    engine.watchWith anything adopt recur = engine.transformWith adopt recur := by
  funext foreign parent
  unfold watchWith transformWith
  rw [heed_bind rfl]
  refine bind_congr fun found => ?_
  cases found with
  | none => exact heed_bind rfl _
  | some factory =>
      refine bind_congr fun run => bind_congr fun made => ?_
      match made with
      | .ok none => rfl
      | .ok (some node) =>
          refine bind_congr fun _ => bind_congr fun _ => ?_
          rw [watchHook_eq fun _ => rfl]
      | .error (.factory message) => exact heed_bind rfl _
      | .error (.unexpectedCollection _) | .error (.unexpectedValue _ _)
      | .error (.unmappedType _) | .error (.duplicateFactory _)
      | .error (.unknownChildRule _ _) | .error (.edit _) => rfl

theorem watchNode_anything (engine : Engine) (fuel : Nat) :
    engine.watchNode anything fuel = engine.transformNode fuel := by
  induction fuel with
  | zero => rfl
  | succ fuel ih =>
      funext foreign parent
      rw [watchNode, transformNode, ih, watchWith_anything]

end Engine

end TypedTree
