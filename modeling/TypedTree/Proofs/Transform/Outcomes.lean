import TypedTree.Proofs.Transform.Adoption
import TypedTree.Proofs.Transform.Running

namespace TypedTree

namespace Engine

theorem compatible_eq (schema : Schema) : Compatible schema Eq where
  forest related := related ▸ rfl
  issues related := related ▸ rfl
  setIssues related _ := related ▸ rfl
  create related _ _ _ _ := related ▸ rfl
  createGeneric related := related ▸ rfl
  createError related _ := related ▸ rfl
  apply related _ _ _ := related ▸ rfl
  discardSince related _ := related ▸ rfl

theorem follows_eq (engine : Engine) :
    Follows Eq engine engine engine.adopt engine.adopt where
  schema := rfl
  config := rfl
  compatible := compatible_eq engine.schema
  factoryFor _ := simulates_modifyGet fun _ _ related => related ▸ ⟨rfl, rfl⟩
  planFor _ _ := simulates_modifyGet fun _ _ related => related ▸ ⟨rfl, rfl⟩
  adopts _ _ _ := simulates_modify fun _ _ related => related ▸ rfl

theorem simulatesRecur_watchNode (engine : Engine) (rule : Event → Bool) (fuel : Nat) :
    SimulatesRecur Eq (engine.watchNode rule fuel) (engine.transformNode fuel) := by
  rw [← watchNode_anything]
  induction fuel with
  | zero =>
      intro foreign parent run other answer after related ended
      cases ended
  | succ fuel ih => exact (engine.follows_eq.tracks rule).watchWith (fun _ _ => rfl) ih

end Engine

namespace Transformer

variable {α : Type} {transformer : Transformer} {forest : Forest}
  {watched action : Engine → EngineM α} {outcome : Outcome α}

theorem perform_of_watched
    (simulated : Engine.Simulates Eq (watched transformer.engine).run
      (action transformer.engine).run)
    (ended : transformer.perform forest watched = some outcome) :
    transformer.perform forest action = some outcome := by
  obtain ⟨run, ran, same⟩ := perform_eq_some ended
  obtain ⟨_, otherRan, rfl⟩ := simulated _ _ _ _ rfl ran
  rw [same]
  exact perform_of_ran otherRan

variable {rule : Event → Bool} {fuel : Nat} {parent : Option NodeId}

theorem transform_of_watch {value : ForeignValue} {outcome : Outcome (Option NodeId)}
    (ended : transformer.perform forest (·.watch rule fuel value parent) = some outcome) :
    transformer.transform fuel forest value parent = some outcome :=
  perform_of_watched
    ((transformer.engine.simulatesRecur_watchNode rule fuel).transformValue value parent) ended

theorem transformList_of_watchList {value : ForeignValue} {outcome : Outcome (List NodeId)}
    (ended : transformer.perform forest (·.watchList rule fuel value parent) = some outcome) :
    transformer.transformList fuel forest value parent = some outcome :=
  perform_of_watched
    ((transformer.engine.simulatesRecur_watchNode rule fuel).transformAll value parent) ended

theorem transformNode_of_watchNode {foreign : ForeignNode} {outcome : Outcome (Option NodeId)}
    (ended : transformer.perform forest (·.watchNode rule fuel foreign parent) = some outcome) :
    transformer.perform forest (·.transformNode fuel foreign parent) = some outcome :=
  perform_of_watched (transformer.engine.simulatesRecur_watchNode rule fuel foreign parent) ended

end Transformer

end TypedTree
