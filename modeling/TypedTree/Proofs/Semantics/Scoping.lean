import TypedTree.Proofs.Except
import TypedTree.Proofs.Forest.Targets
import TypedTree.Semantics.Resolution

namespace TypedTree.Semantics

variable {α β : Type} {semantics : Semantics} {fuel : Nat} {forest : Forest}
  {session after : Session} {node : NodeId} {feature : String}

/-- An action that answers by the tree alone and changes no more than the issues. -/
def OfTree (forest : Forest) (action : ResolveM α) : Prop :=
  ∃ answer, ∀ session : Session, session.forest.untargeted = forest.untargeted →
    ∃ issues, action.run.run session = some (answer, { session with issues := issues })

theorem run_bind_ok {action : ResolveM α} {next : α → ResolveM β} {answer : α}
    (ran : action.run.run session = some (.ok answer, after)) :
    (action >>= next).run.run session = (next answer).run.run after := by
  simp [ExceptT.run_bind, ran]

theorem run_bind_error {action : ResolveM α} {next : α → ResolveM β} {error : SemanticError}
    (ran : action.run.run session = some (.error error, after)) :
    (action >>= next).run.run session = some (.error error, after) := by
  simp [ExceptT.run_bind, ran]

theorem ofTree_pure (forest : Forest) (answer : α) : OfTree forest (pure answer) :=
  ⟨.ok answer, fun session _ => ⟨session.issues, rfl⟩⟩

theorem ofTree_throw (forest : Forest) (error : SemanticError) :
    OfTree forest (throw error : ResolveM α) :=
  ⟨.error error, fun session _ => ⟨session.issues, rfl⟩⟩

theorem OfTree.bind {action : ResolveM α} {next : α → ResolveM β} (first : OfTree forest action)
    (continued : ∀ answer, OfTree forest (next answer)) : OfTree forest (action >>= next) := by
  obtain ⟨answer, runs⟩ := first
  cases answer with
  | error error =>
      refine ⟨.error error, fun session same => ?_⟩
      obtain ⟨issues, ran⟩ := runs session same
      exact ⟨issues, run_bind_error ran⟩
  | ok answer =>
      obtain ⟨result, continues⟩ := continued answer
      refine ⟨result, fun session same => ?_⟩
      obtain ⟨issues, ran⟩ := runs session same
      obtain ⟨later, further⟩ := continues { session with issues := issues } same
      exact ⟨later, (run_bind_ok ran).trans further⟩

theorem run_get_bind {next : Session → ResolveM α} :
    ((get : ResolveM Session) >>= next).run.run session = (next session).run.run session := rfl

theorem run_expectConcept (node : NodeId) (session : Session) :
    (expectConcept node).run.run session =
      some ((session.forest.concept? node).elim (.error (.edit (.noSuchNode node))) .ok,
        session) := by
  rw [expectConcept, run_get_bind]
  cases session.forest.concept? node <;> rfl

theorem ofTree_expectConcept (forest : Forest) (node : NodeId) :
    OfTree forest (expectConcept node) := by
  refine ⟨(forest.concept? node).elim (.error (.edit (.noSuchNode node))) .ok,
    fun session same => ⟨session.issues, ?_⟩⟩
  rw [run_expectConcept, ← session.forest.concept?_untargeted, same, forest.concept?_untargeted]

theorem run_expectReference (semantics : Semantics) (concept : Concept) (feature : String)
    (session : Session) :
    (semantics.expectReference concept feature).run.run session =
      some (referenceFeature semantics.schema concept.name feature, session) := rfl

theorem referenceFeature_eq_ok_iff {schema : Schema} {concept : String} {declared : Feature} :
    referenceFeature schema concept feature = .ok declared ↔
      ∃ known, schema.concept? concept = some known ∧ known.feature? feature = some declared ∧
        declared.type.isReference = true := by
  unfold referenceFeature
  cases schema.concept? concept with
  | none => simp
  | some known =>
      simp only [Option.some.injEq, exists_eq_left']
      cases known.feature? feature with
      | none => simp
      | some found =>
          by_cases kind : found.type.isReference = true
          · simp only [kind, if_true, Except.ok.injEq, Option.some.injEq]
            exact ⟨fun same => ⟨same, same ▸ kind⟩, And.left⟩
          · simp only [kind, Option.some.injEq]
            exact ⟨nofun, fun ⟨same, holds⟩ => absurd (same ▸ holds) kind⟩

theorem ofTree_expectReference (forest : Forest) (semantics : Semantics) (concept : Concept)
    (feature : String) : OfTree forest (semantics.expectReference concept feature) :=
  ⟨_, fun session _ => ⟨session.issues, rfl⟩⟩

/-- All rules that can be asked for a scope. -/
def scopeRules (semantics : Semantics) : List ScopeRule :=
  semantics.featureRules.values.flatMap (·.rules.values) ++ semantics.nodeRules.rules.values

theorem mem_values_of_find {R : Type} {table : DispatchTable R} {concept : Concept} {rule : R}
    (found : table.find concept = .ok (some rule)) : rule ∈ table.rules.values := by
  unfold DispatchTable.find at found
  cases selected : table.select concept with
  | error error => simp [selected, Except.map] at found
  | ok winner =>
      simp only [selected, Except.map, Except.ok.injEq] at found
      obtain ⟨name, rfl, held⟩ := Option.bind_eq_some_iff.mp found
      exact List.mem_map.mpr ⟨(name, rule), Registry.mem_entries_iff.mpr held, rfl⟩

theorem mem_scopeRules {concept : Concept} {declared : Feature} {rule : ScopeRule}
    (found : semantics.scopeRule? concept declared = .ok (some rule)) :
    rule ∈ semantics.scopeRules := by
  have byNode (chosen : semantics.nodeRules.find concept = .ok (some rule)) :
      rule ∈ semantics.scopeRules := List.mem_append_right _ (mem_values_of_find chosen)
  unfold scopeRule? at found
  cases kept : semantics.featureRules.get? (declared.owner, declared.name) with
  | none =>
      rw [kept] at found
      exact byNode found
  | some table =>
      rw [kept] at found
      obtain ⟨forFeature, consulted, chosen⟩ := Except.bind_eq_ok_iff.mp found
      cases forFeature with
      | none => exact byNode chosen
      | some own =>
          cases chosen
          have listed : table ∈ semantics.featureRules.values :=
            List.mem_map.mpr ⟨_, Registry.mem_entries_iff.mpr kept, rfl⟩
          exact List.mem_append_left _
            (List.mem_flatMap.mpr ⟨table, listed, mem_values_of_find consulted⟩)

/-- Scope rules that answer by the tree alone; where they ask for other scopes, `fuel` is
enough for the answer. -/
def Lawful (semantics : Semantics) (fuel : Nat) (forest : Forest) : Prop :=
  ∀ rule ∈ semantics.scopeRules, ∀ node,
    OfTree forest (semantics.runRule (semantics.services fuel) (rule node))

theorem Lawful.congr (lawful : semantics.Lawful fuel session.forest)
    (same : after.forest.untargeted = session.forest.untargeted) :
    semantics.Lawful fuel after.forest := by
  intro rule member node
  obtain ⟨answer, runs⟩ := lawful rule member node
  exact ⟨answer, fun other alike => runs other (alike.trans same)⟩

theorem Lawful.scopeFor (lawful : semantics.Lawful fuel forest) (node : NodeId)
    (feature : String) : OfTree forest (semantics.scopeFor (fuel + 1) node feature) := by
  refine (ofTree_expectConcept forest node).bind fun concept => ?_
  refine (ofTree_expectReference forest semantics concept feature).bind fun declared => ?_
  cases selected : semantics.scopeRule? concept declared with
  | error error => exact ofTree_throw forest (.dispatch error)
  | ok rule =>
      cases rule with
      | none => exact ofTree_pure forest (Scope.new false)
      | some rule => exact lawful rule (mem_scopeRules selected) node

/-- What is answered when the scope of a reference is asked for. -/
def scopeAt (semantics : Semantics) (fuel : Nat) (session : Session) (node : NodeId)
    (feature : String) : Option (Except SemanticError Scope) :=
  ((semantics.scopeFor fuel node feature).run.run session).map Prod.fst

/-- The concept that a reference feature asks for. -/
def required? (semantics : Semantics) (forest : Forest) (node : NodeId) (feature : String) :
    Option String :=
  (referenceFeature semantics.schema (forest.conceptName node) feature).toOption.bind
    (·.type.target?)

/-- The node that the name of a reference has in its scope. -/
def found? (semantics : Semantics) (fuel : Nat) (session : Session) (node : NodeId)
    (feature : String) : Option NodeId := do
  let scope ← (semantics.scopeAt fuel session node feature).bind (·.toOption)
  let name ← (session.forest.link? node feature).map (·.name)
  scope.resolve session.forest name (semantics.required? session.forest node feature)

theorem Lawful.run_scopeFor (lawful : semantics.Lawful fuel forest)
    (same : session.forest.untargeted = forest.untargeted) (node : NodeId) (feature : String) :
    ∃ answer issues, (semantics.scopeFor (fuel + 1) node feature).run.run session =
        some (answer, { session with issues := issues }) ∧
      ∀ other : Session, other.forest.untargeted = forest.untargeted →
        semantics.scopeAt (fuel + 1) other node feature = some answer := by
  obtain ⟨answer, runs⟩ := lawful.scopeFor node feature
  obtain ⟨issues, ran⟩ := runs session same
  refine ⟨answer, issues, ran, fun other alike => ?_⟩
  obtain ⟨later, again⟩ := runs other alike
  rw [scopeAt, again]
  rfl

theorem Lawful.scopeAt_eq (lawful : semantics.Lawful fuel after.forest)
    (same : session.forest.untargeted = after.forest.untargeted) (node : NodeId)
    (feature : String) :
    semantics.scopeAt (fuel + 1) session node feature =
      semantics.scopeAt (fuel + 1) after node feature := by
  obtain ⟨answer, issues, _, agree⟩ := lawful.run_scopeFor same node feature
  rw [agree session same, agree after rfl]

theorem required?_eq (semantics : Semantics)
    (same : session.forest.untargeted = after.forest.untargeted) (node : NodeId)
    (feature : String) :
    semantics.required? session.forest node feature =
      semantics.required? after.forest node feature := by
  have names : session.forest.conceptName node = after.forest.conceptName node := by
    rw [Forest.conceptName, ← Forest.concept?_untargeted, same, Forest.concept?_untargeted,
      Forest.conceptName]
  rw [required?, names, required?]

theorem Lawful.found?_eq (lawful : semantics.Lawful fuel after.forest)
    (same : session.forest.untargeted = after.forest.untargeted) (node : NodeId)
    (feature : String) :
    semantics.found? (fuel + 1) session node feature =
      semantics.found? (fuel + 1) after node feature := by
  have scopes (scope : Scope) (name : String) (required : Option String) :
      scope.resolve session.forest name required = scope.resolve after.forest name required := by
    rw [← Scope.resolve_untargeted, same, Scope.resolve_untargeted]
  have links : (session.forest.link? node feature).map (·.name) =
      (after.forest.link? node feature).map (·.name) := by
    have plain := congrArg (fun forest => (forest.link? node feature).map (·.name)) same
    simpa [Forest.link?_untargeted, Function.comp_def] using plain
  simp only [found?, lawful.scopeAt_eq same, required?_eq semantics same, links, scopes]

theorem run_expectConcept_of_link? {link : Reference}
    (set : session.forest.link? node feature = some link) :
    ∃ concept, (expectConcept node).run.run session = some (.ok concept, session) ∧
      session.forest.conceptName node = concept.name := by
  obtain ⟨cell, found, _⟩ := Option.bind_eq_some_iff.mp set
  have there : session.forest.concept? node = some cell.concept := by
    rw [Forest.concept?, found]
    rfl
  refine ⟨cell.concept, ?_, by rw [Forest.conceptName, there]; rfl⟩
  rw [run_expectConcept, there]
  rfl

/-- A reference whose feature is refused has no scope. -/
theorem run_scopeFor_of_refused {link : Reference} {error : SemanticError}
    (set : session.forest.link? node feature = some link)
    (refused : referenceFeature semantics.schema (session.forest.conceptName node) feature =
      .error error) :
    (semantics.scopeFor (fuel + 1) node feature).run.run session = some (.error error, session) := by
  obtain ⟨concept, known, named⟩ := run_expectConcept_of_link? set
  refine (run_bind_ok known).trans (run_bind_error ?_)
  rw [run_expectReference, ← named, refused]

theorem exists_required? {link : Reference} {scope : Scope}
    (set : session.forest.link? node feature = some link)
    (scoping : semantics.scopeAt (fuel + 1) session node feature = some (.ok scope)) :
    ∃ required, semantics.required? session.forest node feature = some required := by
  cases declared : referenceFeature semantics.schema (session.forest.conceptName node) feature with
  | error error =>
      rw [scopeAt, run_scopeFor_of_refused set declared] at scoping
      cases scoping
  | ok declaration =>
      obtain ⟨_, _, _, kind⟩ := referenceFeature_eq_ok_iff.mp declared
      rw [required?, declared]
      cases type : declaration.type with
      | reference target => exact ⟨target, by simp [Except.toOption, type, FeatureType.target?]⟩
      | _ => simp [type, FeatureType.isReference] at kind

end TypedTree.Semantics
