import TypedTree.Transform.Engine

namespace TypedTree.Engine

variable {α β : Type} {run middle after : Run}

theorem run_bind_of_ok {first : EngineM α} {next : α → EngineM β} {answer : α}
    (ran : first.run.run run = some (.ok answer, middle)) :
    (first >>= next).run.run run = (next answer).run.run middle := by
  rw [ExceptT.run_bind, StateT.run_bind, ran]
  rfl

theorem run_lift_bind {step : RunM α} {next : α → EngineM β} {answer : α}
    (ran : step.run run = some (answer, middle)) :
    (liftM step >>= next : EngineM β).run.run run = (next answer).run.run middle := by
  change (ExceptT.lift step >>= next).run.run run = _
  rw [ExceptT.run_bind_lift, StateT.run_bind, ran]
  rfl

theorem run_get_bind {next : Run → EngineM α} :
    (get >>= next : EngineM α).run.run run = (next run).run.run run := rfl

theorem run_bind_eq_some_iff {first : EngineM α} {next : α → EngineM β}
    {result : Except TransformError β} :
    (first >>= next).run.run run = some (result, after) ↔
      (∃ answer middle, first.run.run run = some (.ok answer, middle) ∧
        (next answer).run.run middle = some (result, after)) ∨
      ∃ error, first.run.run run = some (.error error, after) ∧ result = .error error := by
  rw [ExceptT.run_bind, StateT.run_bind, Option.bind_eq_bind, Option.bind_eq_some_iff]
  constructor
  · rintro ⟨⟨answer | answer, middle⟩, begun, ran⟩
    · cases ran
      exact .inr ⟨answer, begun, rfl⟩
    · exact .inl ⟨answer, middle, begun, ran⟩
  · rintro (⟨answer, middle, begun, ran⟩ | ⟨error, failed, rfl⟩)
    · exact ⟨(.ok answer, middle), begun, ran⟩
    · exact ⟨(.error error, after), failed, rfl⟩

theorem run_bind_eq_ok {first : EngineM α} {next : α → EngineM β} {answer : β}
    (ran : (first >>= next).run.run run = some (.ok answer, after)) :
    ∃ begun middle, first.run.run run = some (.ok begun, middle) ∧
      (next begun).run.run middle = some (.ok answer, after) := by
  rcases run_bind_eq_some_iff.mp ran with begun | ⟨_, _, failed⟩
  · exact begun
  · cases failed

theorem run_lift_bind_eq_some {step : RunM α} {next : α → EngineM β}
    {ended : Except TransformError β × Run}
    (ran : (liftM step >>= next : EngineM β).run.run run = some ended) :
    ∃ answer middle, step.run run = some (answer, middle) ∧
      (next answer).run.run middle = some ended := by
  change (ExceptT.lift step >>= next).run.run run = _ at ran
  rw [ExceptT.run_bind_lift, StateT.run_bind] at ran
  obtain ⟨⟨answer, middle⟩, stepped, ran⟩ := Option.bind_eq_some_iff.mp ran
  exact ⟨answer, middle, stepped, ran⟩

section

variable {Q : Type} {Answer : Q → Type} {ε : Type} {respond : (question : Q) → RunM (Answer question)}

theorem run_ask {question : Q} {next : Answer question → Program Q Answer ε α}
    {answer : Answer question} (answered : (respond question).run run = some (answer, middle)) :
    ((Program.ask question next).run respond).run run =
      ((next answer).run respond).run middle := by
  rw [Program.run, StateT.run_bind, answered]
  rfl

theorem run_program_bind {program : Program Q Answer ε α} {next : α → Program Q Answer ε β}
    {result : α} (ran : (program.run respond).run run = some (.ok result, middle)) :
    ((program >>= next).run respond).run run = ((next result).run respond).run middle := by
  induction program generalizing run with
  | done given =>
      cases ran
      rfl
  | fail error => cases ran
  | ask question following ih =>
      rw [Program.run, StateT.run_bind] at ran
      obtain ⟨⟨answer, between⟩, answered, ran⟩ := Option.bind_eq_some_iff.mp ran
      rw [Program.ask_bind, run_ask answered]
      exact ih answer ran

end

/-- Whatever is asked about nodes, nothing but the forest changes. -/
theorem forest_of_applyEdit {change : Edit} {answer : Except EditError Unit}
    (answered : (applyEdit change).run run = some (answer, after)) :
    ∃ forest, after = { run with forest := forest } := by
  have stepped := Option.some.inj answered
  dsimp only at stepped
  split at stepped <;>
    · cases stepped
      exact ⟨_, rfl⟩

theorem forest_of_answerTree {schema : Schema} {request : TreeRequest} {answer : request.Answer}
    (answered : (answerTree schema request).run run = some (answer, after)) :
    ∃ forest, after = { run with forest := forest } := by
  cases request with
  | look =>
      cases answered
      exact ⟨_, rfl⟩
  | create concept =>
      have stepped := Option.some.inj answered
      dsimp only at stepped
      split at stepped <;>
        · cases stepped
          exact ⟨_, rfl⟩
  | createGeneric =>
      cases answered
      exact ⟨_, rfl⟩
  | createError message =>
      cases answered
      exact ⟨_, rfl⟩
  | edit change => exact forest_of_applyEdit answered

theorem run_edit (edit : Edit) (run : Run) :
    (Engine.edit edit).run.run run =
      match run.forest.apply edit with
      | .ok forest => some (.ok (), { run with forest := forest })
      | .error error => some (.error (.edit error), run) := by
  unfold Engine.edit applyEdit
  rw [ExceptT.run_mk, StateT.run_bind]
  change (some (match run.forest.apply edit with
    | .ok forest => (Except.ok (), { run with forest := forest })
    | .error error => (Except.error error, run)) >>= _) = _
  cases run.forest.apply edit <;> rfl

theorem run_edit_eq_ok {edit : Edit}
    (ran : (Engine.edit edit).run.run run = some (.ok (), after)) :
    ∃ forest, run.forest.apply edit = .ok forest ∧ after = { run with forest := forest } := by
  rw [run_edit] at ran
  cases applied : run.forest.apply edit with
  | ok forest =>
      rw [applied] at ran
      cases ran
      exact ⟨forest, rfl, rfl⟩
  | error error =>
      rw [applied] at ran
      cases ran

theorem run_createNode (schema : Schema) (name : String) (run : Run) :
    (createNode schema name).run run =
      match schema.concept? name with
      | some concept =>
          some (.ok run.forest.nextId, { run with forest := (run.forest.add (.blank concept)).2 })
      | none => some (.error (.unknownConcept name), run) := by
  change some _ = _
  unfold Forest.create
  cases schema.concept? name <;> rfl

/-- A constructor that only makes a node of one concept. -/
theorem run_construct_ofConcept {engine : Engine} {recur : Recur} {factory : Factory}
    {foreign : ForeignNode} {made : String}
    (constructs : factory.construct = (Factory.ofConcept factory.sourceType made).construct) :
    (engine.construct recur factory foreign).run run =
      match engine.schema.concept? made with
      | some concept =>
          some (.ok (some run.forest.nextId),
            { run with forest := (run.forest.add (.blank concept)).2 })
      | none => some (.error (.edit (.unknownConcept made)), run) := by
  unfold construct
  rw [constructs]
  change (createNode engine.schema made >>= _).run run = _
  rw [StateT.run_bind, run_createNode]
  cases engine.schema.concept? made <;> rfl

section

variable {recur : Recur} {node : NodeId} {concept feature : String}

theorem run_transformElements_node_iff {foreign : ForeignNode} {rest : List ForeignValue}
    {children : List NodeId} :
    (transformElements recur node concept feature (.node foreign :: rest)).run.run run =
        some (.ok children, after) ↔
      ∃ child others middle,
        (recur foreign (some node)).run.run run = some (.ok child, middle) ∧
        (transformElements recur node concept feature rest).run.run middle =
          some (.ok others, after) ∧ children = child.toList ++ others := by
  constructor
  · intro ran
    obtain ⟨child, middle, begun, ran⟩ := run_bind_eq_ok ran
    obtain ⟨others, last, ended, ran⟩ := run_bind_eq_ok ran
    cases ran
    exact ⟨child, others, middle, begun, ended, rfl⟩
  · rintro ⟨child, others, middle, begun, ended, rfl⟩
    rw [transformElements, run_bind_of_ok begun, run_bind_of_ok ended]
    rfl

theorem run_transformElements_append {earlier later : List ForeignValue} {children : List NodeId}
    (ran : (transformElements recur node concept feature (earlier ++ later)).run.run run =
      some (.ok children, after)) :
    ∃ first rest middle,
      (transformElements recur node concept feature earlier).run.run run =
        some (.ok first, middle) ∧
      (transformElements recur node concept feature later).run.run middle =
        some (.ok rest, after) ∧ children = first ++ rest := by
  induction earlier generalizing run children with
  | nil => exact ⟨[], children, run, rfl, ran, rfl⟩
  | cons value values ih =>
      match value with
      | .null => exact ih ran
      | .node foreign =>
          obtain ⟨child, others, begins, begun, continued, rfl⟩ :=
            run_transformElements_node_iff.mp ran
          obtain ⟨first, rest, middle, early, late, rfl⟩ := ih continued
          refine ⟨child.toList ++ first, rest, middle, ?_, late, (List.append_assoc _ _ _).symm⟩
          exact run_transformElements_node_iff.mpr ⟨child, first, begins, begun, early, rfl⟩
      | .list items => cases ran
      | .scalar value => cases ran

end

section

variable {recur : Recur} {parent : Option NodeId} {nodes : List NodeId}

theorem run_transformEach_cons {value : ForeignValue} {rest : List ForeignValue}
    (ran : (transformEach recur parent (value :: rest)).run.run run = some (.ok nodes, after)) :
    ∃ node others middle,
      (transformValue recur value parent).run.run run = some (.ok node, middle) ∧
      (transformEach recur parent rest).run.run middle = some (.ok others, after) ∧
      nodes = node.toList ++ others := by
  obtain ⟨node, middle, begun, ran⟩ := run_bind_eq_ok ran
  obtain ⟨others, last, ended, ran⟩ := run_bind_eq_ok ran
  cases ran
  exact ⟨node, others, middle, begun, ended, rfl⟩

theorem run_transformEach_append {earlier later : List ForeignValue}
    (ran : (transformEach recur parent (earlier ++ later)).run.run run = some (.ok nodes, after)) :
    ∃ first rest middle,
      (transformEach recur parent earlier).run.run run = some (.ok first, middle) ∧
      (transformEach recur parent later).run.run middle = some (.ok rest, after) ∧
      nodes = first ++ rest := by
  induction earlier generalizing run nodes with
  | nil => exact ⟨[], nodes, run, rfl, ran, rfl⟩
  | cons value values ih =>
      obtain ⟨node, others, begins, begun, continued, rfl⟩ := run_transformEach_cons ran
      obtain ⟨first, rest, middle, early, late, rfl⟩ := ih continued
      refine ⟨node.toList ++ first, rest, middle, ?_, late, (List.append_assoc _ _ _).symm⟩
      rw [transformEach, run_bind_of_ok begun, run_bind_of_ok early]
      rfl

end

end TypedTree.Engine
