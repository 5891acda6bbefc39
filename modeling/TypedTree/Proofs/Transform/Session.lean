import TypedTree.Proofs.Transform.Outcomes

namespace TypedTree.Transformer

/-! # Sessions

A session is what is done with one transformer and the forest it works on, call by call.
Between the calls the forest may be used for anything else. How foreign nodes are
transformed is left open, so that sessions can be watched.
-/

/-- A way to transform foreign nodes that are nested to some depth. -/
abbrev Way := Engine → (fuel : Nat) → Recur

inductive Call where
  | register (factory : Factory)
  | registerConcept (sourceType concept : String)
  | transform (fuel : Nat) (value : ForeignValue) (parent : Option NodeId)
  | transformList (fuel : Nat) (value : ForeignValue) (parent : Option NodeId)
  | addIssue (issue : Issue)
  | takeIssues
  | operate (operation : Operation)

inductive Reply where
  | done
  | registered (result : Except TransformError Unit)
  | node (result : Except TransformError (Option NodeId))
  | nodes (result : Except TransformError (List NodeId))
  | issues (issues : List Issue)
deriving DecidableEq

structure Session where
  transformer : Transformer
  forest : Forest

namespace Session

def new (schema : Schema) (config : TransformConfig) (source : Option Source)
    (lookups : Lookups) : Session where
  transformer :=
    let fresh := Transformer.new schema config source
    { fresh with engine := { fresh.engine with lookups := lookups } }
  forest := ∅

/-- The part of a session that a transformation works on. -/
def state (session : Session) : Run :=
  ⟨session.forest, session.transformer.issues, session.transformer.memo⟩

def registering (session : Session) (registered : Except TransformError Transformer) :
    Reply × Session :=
  match registered with
  | .ok transformer => (.registered (.ok ()), { session with transformer := transformer })
  | .error error => (.registered (.error error), session)

def performing {α : Type} (session : Session) (action : Engine → EngineM α)
    (reply : Except TransformError α → Reply) : Option (Reply × Session) :=
  (session.transformer.perform session.forest action).map fun outcome =>
    (reply outcome.result, ⟨outcome.transformer, outcome.forest⟩)

def step (way : Way) (session : Session) : Call → Option (Reply × Session)
  | .register factory => some (session.registering (session.transformer.register factory))
  | .registerConcept sourceType concept =>
      some (session.registering (session.transformer.registerConcept sourceType concept))
  | .transform fuel value parent =>
      session.performing (fun engine => Engine.transformValue (way engine fuel) value parent) .node
  | .transformList fuel value parent =>
      session.performing (fun engine => Engine.transformAll (way engine fuel) value parent) .nodes
  | .addIssue issue =>
      some (.done, { session with transformer := session.transformer.addIssue issue })
  | .takeIssues =>
      let (issues, transformer) := session.transformer.takeIssues
      some (.issues issues, { session with transformer := transformer })
  | .operate operation =>
      let schema := session.transformer.engine.schema
      some (.done, { session with forest := session.forest.perform schema operation })

def run (way : Way) (session : Session) : List Call → Option (List Reply × Session)
  | [] => some ([], session)
  | call :: rest => do
      let (reply, after) ← session.step way call
      let (replies, last) ← after.run way rest
      return (reply :: replies, last)

variable {way other : Way} {session after : Session} {calls : List Call} {call : Call}
  {reply : Reply} {replies : List Reply} {α : Type}

theorem run_cons_eq_some_iff {ended : List Reply × Session} :
    session.run way (call :: calls) = some ended ↔
      ∃ reply after replies last, session.step way call = some (reply, after) ∧
        after.run way calls = some (replies, last) ∧ ended = (reply :: replies, last) := by
  simp only [run, Option.bind_eq_bind, Option.bind_eq_some_iff, Option.pure_def,
    Option.some.injEq]
  constructor
  · rintro ⟨⟨reply, after⟩, stepped, ⟨replies, last⟩, ran, rfl⟩
    exact ⟨reply, after, replies, last, stepped, ran, rfl⟩
  · rintro ⟨reply, after, replies, last, stepped, ran, rfl⟩
    exact ⟨(reply, after), stepped, (replies, last), ran, rfl⟩

/-- A call, or whatever the owner of the forest does with it between two calls. -/
inductive Turn where
  | call (call : Call)
  | change (change : Forest → Forest)

def turn (way : Way) (session : Session) : Turn → Option (Reply × Session)
  | .call call => session.step way call
  | .change change => some (.done, { session with forest := change session.forest })

def play (way : Way) (session : Session) : List Turn → Option (List Reply × Session)
  | [] => some ([], session)
  | turn :: rest => do
      let (reply, after) ← session.turn way turn
      let (replies, last) ← after.play way rest
      return (reply :: replies, last)

theorem play_cons_eq_some_iff {turn : Turn} {turns : List Turn} {ended : List Reply × Session} :
    session.play way (turn :: turns) = some ended ↔
      ∃ reply after replies last, session.turn way turn = some (reply, after) ∧
        after.play way turns = some (replies, last) ∧ ended = (reply :: replies, last) := by
  simp only [play, Option.bind_eq_bind, Option.bind_eq_some_iff, Option.pure_def,
    Option.some.injEq]
  constructor
  · rintro ⟨⟨reply, after⟩, turned, ⟨replies, last⟩, played, rfl⟩
    exact ⟨reply, after, replies, last, turned, played, rfl⟩
  · rintro ⟨reply, after, replies, last, turned, played, rfl⟩
    exact ⟨(reply, after), turned, (replies, last), played, rfl⟩

/-- Whatever a call does in a session, it does in every related one. -/
def Matches (way other : Way) (related : Session → Session → Prop) : Prop :=
  ∀ session second call reply after, related session second →
    session.step way call = some (reply, after) →
    ∃ secondAfter, second.step other call = some (reply, secondAfter) ∧
      related after secondAfter

theorem Matches.play {related : Session → Session → Prop} {second : Session} {turns : List Turn}
    (matched : Matches way other related)
    (changed : ∀ change, .change change ∈ turns → ∀ session second, related session second →
      related { session with forest := change session.forest }
        { second with forest := change second.forest })
    (here : related session second) (played : session.play way turns = some (replies, after)) :
    ∃ secondAfter, second.play other turns = some (replies, secondAfter) ∧
      related after secondAfter := by
  induction turns generalizing session second replies with
  | nil =>
      cases played
      exact ⟨second, rfl, here⟩
  | cons turn rest ih =>
      obtain ⟨reply, middle, others, last, turned, played, same⟩ := play_cons_eq_some_iff.mp played
      cases same
      have turnsAlike : ∃ secondMiddle, second.turn other turn = some (reply, secondMiddle) ∧
          related middle secondMiddle := by
        match turn with
        | .call call => exact matched _ _ _ _ _ here turned
        | .change change =>
            cases turned
            exact ⟨_, rfl, changed change List.mem_cons_self _ _ here⟩
      obtain ⟨secondMiddle, secondTurned, between⟩ := turnsAlike
      obtain ⟨secondAfter, secondPlayed, relatedAfter⟩ :=
        ih (fun change member => changed change (List.mem_cons_of_mem _ member)) between played
      refine ⟨secondAfter, play_cons_eq_some_iff.mpr ?_, relatedAfter⟩
      exact ⟨reply, secondMiddle, others, secondAfter, secondTurned, secondPlayed, rfl⟩

def watching (rule : Event → Bool) : Way := fun engine => engine.watchNode rule

theorem performing_of_watched {watched action : Engine → EngineM α}
    {answer : Except TransformError α → Reply}
    (simulated : Engine.Simulates Eq (watched session.transformer.engine).run
      (action session.transformer.engine).run)
    (ended : session.performing watched answer = some (reply, after)) :
    session.performing action answer = some (reply, after) := by
  obtain ⟨outcome, performed, same⟩ := Option.map_eq_some_iff.mp ended
  rw [performing, perform_of_watched simulated performed, Option.map_some, same]

theorem matches_watching (rule : Event → Bool) :
    Matches (watching rule) Engine.transformNode Eq := by
  intro session second call reply after same stepped
  subst same
  have recursive := session.transformer.engine.simulatesRecur_watchNode rule
  refine ⟨after, ?_, rfl⟩
  cases call with
  | transform fuel value parent =>
      exact performing_of_watched ((recursive fuel).transformValue value parent) stepped
  | transformList fuel value parent =>
      exact performing_of_watched ((recursive fuel).transformAll value parent) stepped
  | _ => exact stepped

/-- A session that comes to its end under watch ends the same way without it. -/
theorem play_of_watching {rule : Event → Bool} {turns : List Turn}
    (played : session.play (watching rule) turns = some (replies, after)) :
    session.play Engine.transformNode turns = some (replies, after) := by
  obtain ⟨_, same, rfl⟩ :=
    (matches_watching rule).play (fun _ _ _ _ related => related ▸ rfl) rfl played
  exact same

theorem registering_eq_error {registered : Except TransformError Transformer}
    {error : TransformError}
    (refused : session.registering registered = (.registered (.error error), after)) :
    after = session := by
  cases registered with
  | ok transformer => cases refused
  | error reason => exact (congrArg Prod.snd refused).symm

/-- A registration that fails changes nothing. -/
theorem eq_of_registration_failed {error : TransformError}
    (refused : session.step way call = some (.registered (.error error), after)) :
    after = session := by
  cases call with
  | register factory => exact registering_eq_error (Option.some.inj refused)
  | registerConcept sourceType concept => exact registering_eq_error (Option.some.inj refused)
  | transform fuel value parent =>
      obtain ⟨outcome, _, same⟩ := Option.map_eq_some_iff.mp refused
      cases same
  | transformList fuel value parent =>
      obtain ⟨outcome, _, same⟩ := Option.map_eq_some_iff.mp refused
      cases same
  | addIssue issue => cases refused
  | takeIssues => cases refused
  | operate operation => cases refused

end Session

end TypedTree.Transformer
