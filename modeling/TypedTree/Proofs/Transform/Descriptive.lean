import TypedTree.Proofs.Forest.Ranges
import TypedTree.Proofs.Transform.Draft
import TypedTree.Proofs.Transform.Running

namespace TypedTree

/-- Whether the request is about neither ranges nor contents. -/
def TreeRequest.isDescriptive : TreeRequest → Bool
  | .edit change => change.isDescriptive
  | .look | .create _ | .createGeneric | .createError _ => true

def BuildRequest.isDescriptive : BuildRequest → Bool
  | .tree request => request.isDescriptive
  | .config | .addIssue _ | .issues | .takeIssues => true
  | .transform _ _ | .transformList _ _ | .transformNode _ _ => false

/-- The nodes that are made in answer to a request. -/
def TreeRequest.made : (request : TreeRequest) → request.Answer → List NodeId
  | .create _, .ok node | .createGeneric, node | .createError _, node => [node]
  | .create _, .error _ | .look, _ | .edit _, _ => []

def BuildRequest.made : (request : BuildRequest) → request.Answer → List NodeId
  | .tree request, answer => request.made answer
  | .config, _ | .addIssue _, _ | .issues, _ | .takeIssues, _ | .transform _ _, _
  | .transformList _ _, _ | .transformNode _ _, _ => []

/-- The program makes and describes nodes, and what it answers with is a node that it has made;
`made` are those that it has made already. -/
inductive Construction.Makes : List NodeId → Construction (Option NodeId) → Prop where
  | nothing {made : List NodeId} : Makes made (.done none)
  | done {made : List NodeId} {node : NodeId} (own : node ∈ made) : Makes made (.done (some node))
  | fail {made : List NodeId} (error : TransformError) : Makes made (.fail error)
  | ask {made : List NodeId} {request : BuildRequest}
      {next : request.Answer → Construction (Option NodeId)}
      (descriptive : request.isDescriptive = true)
      (later : ∀ answer, Makes (request.made answer ++ made) (next answer)) :
      Makes made (.ask request next)

inductive Finishing.Describes {α : Type} : Finishing α → Prop where
  | done (result : α) : Describes (.done result)
  | fail (error : TransformError) : Describes (.fail error)
  | ask {request : TreeRequest} {next : request.Answer → Finishing α}
      (descriptive : request.isDescriptive = true)
      (later : ∀ answer, Describes (next answer)) : Describes (.ask request next)

/-- The constructor only makes a node, every rule is a path, and if there is a hook, it only
describes nodes. -/
structure Factory.Descriptive (factory : Factory) : Prop where
  makes : ∀ foreign, (factory.construct foreign factory.rules).Makes []
  paths : ∀ key source, factory.rules.sources.get? key = some source →
    ∃ path, source = .path path
  finishes : ∀ hook, factory.finish = some hook → ∀ node foreign, (hook node foreign).Describes

namespace Factory

variable {factory : Factory} {concept : Concept} {feature : Feature} {source : FeatureSource}

theorem Descriptive.exists_path (descriptive : factory.Descriptive)
    (planned : (feature, source) ∈ factory.plan concept) : ∃ path, source = .path path := by
  rw [factory.plan_eq] at planned
  obtain ⟨declared, _, isStep⟩ := List.mem_filterMap.mp planned
  obtain ⟨_, found, same⟩ := Option.map_eq_some_iff.mp isStep
  cases same
  rw [sourceFor, Option.or_eq_some_iff] at found
  rcases found with rule | ⟨_, mapping⟩
  · unfold ExtractionRules.source? at rule
    split at rule
    · next owned nearest =>
        cases rule
        obtain ⟨owner, _, registered⟩ := List.exists_of_findSome?_eq_some nearest
        exact descriptive.paths _ _ registered
    · exact descriptive.paths _ _ rule
  · obtain ⟨path, _, rfl⟩ := Option.map_eq_some_iff.mp mapping
    exact ⟨path, rfl⟩

end Factory

namespace Engine

variable {engine : Engine} {recur : Recur} {floor : NodeId} {made : List NodeId}
  {run after : Run} {schema : Schema} {α : Type}

/-- Nodes were described, and the nodes `made` were made. -/
structure Described (floor : NodeId) (made : List NodeId) (run after : Run) : Prop where
  keeps : Forest.KeepsRanges floor run.forest after.forest
  unranged : ∀ node, run.forest.Unranged floor node → after.forest.Unranged floor node
  made : ∀ node ∈ made, after.forest.Unranged floor node
  memo : after.memo = run.memo

theorem described_nothing (forest : after.forest = run.forest) (memo : after.memo = run.memo) :
    Described floor [] run after where
  keeps := forest ▸ .refl _ _
  unranged _ := forest ▸ id
  made := nofun
  memo := memo

theorem described_add (low : floor ≤ run.forest.nextId) {cell : Cell} (bare : cell.Bare)
    (vacant : cell.range = none) :
    Described floor [run.forest.nextId] run
      { run with forest := (run.forest.add cell).2 } where
  keeps := Forest.keepsRanges_add bare
  unranged _ unranged := unranged.add cell
  made node member := by
    cases List.mem_singleton.mp member
    exact Forest.unranged_add low vacant
  memo := rfl

theorem described_answerTree (low : floor ≤ run.forest.nextId) {request : TreeRequest}
    (descriptive : request.isDescriptive = true) {answer : request.Answer}
    (answered : (answerTree schema request).run run = some (answer, after)) :
    Described floor (request.made answer) run after := by
  cases request with
  | look =>
      cases answered
      exact described_nothing rfl rfl
  | create concept =>
      change (createNode schema concept).run run = _ at answered
      rw [run_createNode] at answered
      split at answered
      · cases answered
        exact described_add low (Cell.bare_blank _) rfl
      · cases answered
        exact described_nothing rfl rfl
  | createGeneric =>
      cases answered
      exact described_add low (Cell.bare_blank _) rfl
  | createError message =>
      cases answered
      exact described_add low ((Cell.bare_blank _).setSlot _ rfl) rfl
  | edit change =>
      have stepped := Option.some.inj answered
      dsimp only at stepped
      split at stepped
      · next forest applied =>
          cases stepped
          exact ⟨Forest.keepsRanges_of_isDescriptive descriptive applied,
            fun _ unranged => unranged.of_isDescriptive descriptive applied, nofun, rfl⟩
      · cases stepped
        exact described_nothing rfl rfl

theorem described_answerBuild (low : floor ≤ run.forest.nextId) {request : BuildRequest}
    (descriptive : request.isDescriptive = true) {answer : request.Answer}
    (answered : (engine.answerBuild recur request).run run = some (answer, after)) :
    Described floor (request.made answer) run after := by
  cases request with
  | tree request => exact described_answerTree low descriptive answered
  | transform value parent => cases descriptive
  | transformList value parent => cases descriptive
  | transformNode foreign parent => cases descriptive
  | _ =>
      cases answered
      exact described_nothing rfl rfl

theorem described_of_makes {program : Construction (Option NodeId)} (makes : program.Makes made)
    {result : Except TransformError (Option NodeId)}
    (ran : (program.run (engine.answerBuild recur)).run run = some (result, after))
    (low : floor ≤ run.forest.nextId) (own : ∀ node ∈ made, run.forest.Unranged floor node) :
    Described floor [] run after ∧
      ∀ node, result = .ok (some node) → after.forest.Unranged floor node := by
  induction makes generalizing run with
  | nothing =>
      cases ran
      exact ⟨described_nothing rfl rfl, nofun⟩
  | done member =>
      cases ran
      refine ⟨described_nothing rfl rfl, fun node same => ?_⟩
      cases same
      exact own _ member
  | fail error =>
      cases ran
      exact ⟨described_nothing rfl rfl, nofun⟩
  | ask descriptive _ ih =>
      obtain ⟨⟨answer, middle⟩, answered, ran⟩ := Option.bind_eq_some_iff.mp ran
      have first := described_answerBuild low descriptive answered
      obtain ⟨rest, answers⟩ := ih answer ran (Nat.le_trans low first.keeps.nextId)
        fun node member => (List.mem_append.mp member).elim (first.made node) fun old =>
          first.unranged node (own node old)
      refine ⟨⟨first.keeps.trans rest.keeps, fun node => rest.unranged node ∘ first.unranged node,
        nofun, rest.memo.trans first.memo⟩, answers⟩

theorem keepsRanges_of_describes {program : Finishing α} (describes : program.Describes)
    (low : floor ≤ run.forest.nextId) {result : Except TransformError α}
    (ran : (program.run (answerTree schema)).run run = some (result, after)) :
    Forest.KeepsRanges floor run.forest after.forest := by
  induction describes generalizing run with
  | done | fail =>
      cases ran
      exact .refl _ _
  | ask descriptive _ ih =>
      obtain ⟨⟨answer, middle⟩, answered, ran⟩ := Option.bind_eq_some_iff.mp ran
      have first := (described_answerTree low descriptive answered).keeps
      exact first.trans (ih answer (Nat.le_trans low first.nextId) ran)

end Engine

end TypedTree
