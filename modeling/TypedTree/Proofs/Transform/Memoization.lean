import TypedTree.Proofs.Forest.Typing
import TypedTree.Proofs.Transform.Lookup
import TypedTree.Proofs.Transform.Session

namespace TypedTree

/-! # What memoization shows

Plans are remembered by the names of factory and concept. As long as no two concepts of the
nodes in use have one name, and foreign nodes of one type report the same supertypes, it makes
no difference whether an engine remembers what it found or looks it up each time: sessions with
either kind of engine give the same replies, and leave the same forest and the same issues.
-/

/-- Whether every foreign node that is met reports the supertypes that `supers` gives its
type. -/
def Event.respects (supers : String → List String) : Event → Bool
  | .meets foreign => foreign.supertypes == supers foreign.typeName
  | .unmapped _ | .failed _ _ | .hookFailed _ => true

namespace Engine

variable {engine : Engine} {world : Schema} {supers : String → List String}
  {decls : List ConceptDecl} {first second : Lookups}

/-- The engine as it would be for all concepts of a schema that has those of its own. -/
def inWorld (engine : Engine) (world : Schema) : Engine := { engine with schema := world }

/-- Two runs that show the same, and remember only what would be found. -/
structure Mirrors (engine : Engine) (world : Schema) (supers : String → List String)
    (run other : Run) : Prop where
  forest : run.forest = other.forest
  issues : run.issues = other.issues
  typed : run.forest.TypedIn world
  memo : run.memo.Faithful (engine.inWorld world) supers
  otherMemo : other.memo.Faithful (engine.inWorld world) supers

theorem Mirrors.setForest {run other : Run} {forest : Forest}
    (mirrors : Mirrors engine world supers run other) (typed : forest.TypedIn world) :
    Mirrors engine world supers { run with forest := forest } { other with forest := forest } :=
  ⟨rfl, mirrors.issues, typed, mirrors.memo, mirrors.otherMemo⟩

theorem compatible_mirrors (built : Schema.build decls = .ok engine.schema)
    (within : engine.schema.Within world) :
    Compatible engine.schema (Mirrors engine world supers) where
  forest mirrors := mirrors.forest
  issues mirrors := mirrors.issues
  setIssues mirrors _ := { mirrors with issues := rfl }
  create mirrors _ _ _ created :=
    mirrors.setForest (mirrors.typed.createWithin built within created)
  createGeneric mirrors := mirrors.setForest mirrors.typed.createGeneric
  createError mirrors message := mirrors.setForest (mirrors.typed.createError message)
  apply mirrors _ _ applied := mirrors.setForest (mirrors.typed.apply applied)
  discardSince mirrors _ :=
    mirrors.setForest (mirrors.typed.swept (Forest.swept_sweepRounds _ _))

theorem simulates_adopt (node : NodeId) (foreign : ForeignNode) (parent : Option NodeId) :
    Simulates (Mirrors engine world supers) (engine.adopt node foreign parent)
      (engine.adopt node foreign parent) := by
  refine simulates_modify fun run other mirrors => ?_
  rw [← mirrors.forest]
  exact mirrors.setForest (mirrors.typed.setMetadata (fun _ => rfl) fun _ => rfl)

def withLookups (engine : Engine) (lookups : Lookups) : Engine :=
  { engine with lookups := lookups }

variable (firstReliable : first.Reliable) (secondReliable : second.Reliable)
include firstReliable secondReliable

theorem simulates_factoryFor {foreign : ForeignNode}
    (respected : Event.respects supers (.meets foreign) = true) :
    Simulates (Mirrors engine world supers) ((engine.withLookups first).factoryFor foreign)
      ((engine.withLookups second).factoryFor foreign) := by
  have same := findFactory_of_supertypes engine.factories (eq_of_beq respected)
  refine simulates_modifyGet fun run other mirrors => ?_
  obtain ⟨_, memo, looked, rfl, faithful⟩ := firstReliable.factory mirrors.memo same
  obtain ⟨_, otherMemo, otherLooked, rfl, otherFaithful⟩ :=
    secondReliable.factory mirrors.otherMemo same
  dsimp only [inWorld] at looked otherLooked
  simp only [withLookups, looked, otherLooked]
  exact ⟨trivial, { mirrors with memo := faithful, otherMemo := otherFaithful }⟩

theorem simulates_planFor {factory : Factory} {concept : Concept}
    (registered : engine.factories.get? factory.sourceType = some factory)
    (declared : world.concept? concept.name = some concept) :
    Simulates (Mirrors engine world supers) ((engine.withLookups first).planFor factory concept)
      ((engine.withLookups second).planFor factory concept) := by
  refine simulates_modifyGet fun run other mirrors => ?_
  obtain ⟨memo, looked, faithful⟩ := firstReliable.plan mirrors.memo registered declared
  obtain ⟨otherMemo, otherLooked, otherFaithful⟩ :=
    secondReliable.plan mirrors.otherMemo registered declared
  simp only [withLookups, looked, otherLooked]
  exact ⟨trivial, { mirrors with memo := faithful, otherMemo := otherFaithful }⟩

variable (built : Schema.build decls = .ok engine.schema) (within : engine.schema.Within world)
  (keyed : engine.Keyed)
include built within keyed

theorem tracks_withLookups :
    Tracks (Mirrors engine world supers) (Event.respects supers)
      (fun factory => engine.factories.get? factory.sourceType = some factory)
      (engine.withLookups first) (engine.withLookups second) engine.adopt engine.adopt where
  schema := rfl
  config := rfl
  compatible := compatible_mirrors built within
  adopts := simulates_adopt
  factoryFor _ respected := simulates_factoryFor firstReliable secondReliable respected
  found {foreign run other factory after} respected mirrors looked := by
    have same := findFactory_of_supertypes engine.factories (eq_of_beq respected)
    obtain ⟨_, memo, found, rfl, _⟩ := firstReliable.factory mirrors.memo same
    have isFactory : findFactory engine.factories foreign = some factory := by
      rw [same]
      exact (congrArg Prod.fst found).symm.trans
        (congrArg Prod.fst (Option.some.inj looked))
    obtain ⟨type, registered⟩ := get?_of_findFactory isFactory
    rwa [keyed type factory registered]
  planFor registered mirrors kind proper :=
    simulates_planFor firstReliable secondReliable registered (mirrors.typed.concepts kind proper)

theorem simulatesRecur_withLookups (fuel : Nat) :
    SimulatesRecur (Mirrors engine world supers)
      ((engine.withLookups first).watchNode (Event.respects supers) fuel)
      ((engine.withLookups second).watchNode (Event.respects supers) fuel) := by
  induction fuel with
  | zero =>
      intro foreign parent run other answer after mirrors ended
      cases ended
  | succ fuel ih =>
      exact (tracks_withLookups firstReliable secondReliable built within keyed).watchWith
        (fun _ allowed => allowed) ih

end Engine

namespace Transformer.Session

variable {decls : List ConceptDecl} {schema : Schema} {config : TransformConfig}
  {source : Option Source} {world : Schema} {supers : String → List String}
  {first second : Lookups} {session other after : Session} {call : Call} {reply : Reply}
  {turns : List Turn} {α : Type}

/-- Sessions whose engines are one but for the lookups, and that show the same. -/
structure Alike (world : Schema) (supers : String → List String) (first second : Lookups)
    (engine : Engine) (session other : Session) : Prop where
  here : session.transformer.engine = engine.withLookups first
  there : other.transformer.engine = engine.withLookups second
  built : ∃ decls, Schema.build decls = .ok engine.schema
  within : engine.schema.Within world
  keyed : engine.Keyed
  mirrors : Engine.Mirrors engine world supers session.state other.state

section

variable {engine : Engine} (alike : Alike world supers first second engine session other)
include alike

theorem Alike.register {factory : Factory}
    (stepped : session.registering (session.transformer.register factory) = (reply, after)) :
    ∃ otherAfter engine,
      other.registering (other.transformer.register factory) = (reply, otherAfter) ∧
        Alike world supers first second engine after otherAfter := by
  unfold Transformer.register at stepped ⊢
  rw [alike.here] at stepped
  rw [alike.there]
  dsimp only [Engine.withLookups] at stepped ⊢
  by_cases known : engine.factories.contains factory.sourceType = true
  · rw [if_pos known] at stepped ⊢
    cases stepped
    exact ⟨other, engine, rfl, alike⟩
  · rw [if_neg known] at stepped ⊢
    cases stray : factory.rules.unknownKey? engine.schema with
    | some key =>
        rw [stray] at stepped
        cases stepped
        exact ⟨other, engine, rfl, alike⟩
    | none =>
        rw [stray] at stepped
        cases stepped
        refine ⟨_, { engine with
          factories := engine.factories.insert factory.sourceType factory }, rfl, rfl, rfl,
          alike.built, alike.within, alike.keyed.insert factory, ?_⟩
        exact ⟨alike.mirrors.forest, alike.mirrors.issues, alike.mirrors.typed,
          Memo.recalls_empty _ _, Memo.recalls_empty _ _⟩

theorem Alike.performing {action : Engine → EngineM α} {answer : Except TransformError α → Reply}
    (simulated : Engine.Simulates (Engine.Mirrors engine world supers)
      (action (engine.withLookups first)).run (action (engine.withLookups second)).run)
    (ended : session.performing action answer = some (reply, after)) :
    ∃ otherAfter, other.performing action answer = some (reply, otherAfter) ∧
      Alike world supers first second engine after otherAfter := by
  obtain ⟨outcome, performed, same⟩ := Option.map_eq_some_iff.mp ended
  obtain ⟨run, ran, isOutcome⟩ := perform_eq_some performed
  rw [alike.here] at ran
  obtain ⟨otherRun, otherRan, mirrors⟩ := simulated _ _ _ _ alike.mirrors ran
  rw [← alike.there] at otherRan
  rw [isOutcome] at same
  cases same
  refine ⟨_, congrArg (Option.map _) (perform_of_ran otherRan), ?_⟩
  exact ⟨alike.here, alike.there, alike.built, alike.within, alike.keyed, mirrors⟩

theorem Alike.change {change : Forest → Forest}
    (stays : ∀ forest, forest.TypedIn world → (change forest).TypedIn world) :
    Alike world supers first second engine { session with forest := change session.forest }
      { other with forest := change other.forest } where
  here := alike.here
  there := alike.there
  built := alike.built
  within := alike.within
  keyed := alike.keyed
  mirrors :=
    { alike.mirrors with
      forest := congrArg change alike.mirrors.forest
      typed := stays _ alike.mirrors.typed }

end

theorem matches_alike (world : Schema) (supers : String → List String)
    (firstReliable : first.Reliable) (secondReliable : second.Reliable) :
    Matches (watching (Event.respects supers)) (watching (Event.respects supers))
      fun session other => ∃ engine, Alike world supers first second engine session other := by
  intro session other call reply after related stepped
  obtain ⟨engine, alike⟩ := related
  obtain ⟨decls, built⟩ := alike.built
  have recursive (fuel : Nat) :
      Engine.SimulatesRecur (Engine.Mirrors engine world supers)
        (watching (Event.respects supers) (engine.withLookups first) fuel)
        (watching (Event.respects supers) (engine.withLookups second) fuel) :=
    Engine.simulatesRecur_withLookups firstReliable secondReliable built alike.within alike.keyed
      fuel
  have mirrors := alike.mirrors
  cases call with
  | register factory =>
      obtain ⟨otherAfter, engine, registered, alike⟩ := alike.register (Option.some.inj stepped)
      exact ⟨otherAfter, congrArg some registered, engine, alike⟩
  | registerConcept sourceType concept =>
      obtain ⟨otherAfter, engine, registered, alike⟩ := alike.register (Option.some.inj stepped)
      exact ⟨otherAfter, congrArg some registered, engine, alike⟩
  | transform fuel value parent =>
      obtain ⟨otherAfter, ended, alike⟩ :=
        alike.performing ((recursive fuel).transformValue value parent) stepped
      exact ⟨otherAfter, ended, engine, alike⟩
  | transformList fuel value parent =>
      obtain ⟨otherAfter, ended, alike⟩ :=
        alike.performing ((recursive fuel).transformAll value parent) stepped
      exact ⟨otherAfter, ended, engine, alike⟩
  | addIssue issue =>
      cases stepped
      refine ⟨_, rfl, engine, alike.here, alike.there, alike.built, alike.within, alike.keyed, ?_⟩
      exact { mirrors with issues := congrArg (· ++ [issue]) mirrors.issues }
  | takeIssues =>
      cases stepped
      refine ⟨_, congrArg (fun issues => some (Reply.issues issues, _)) mirrors.issues.symm,
        engine, alike.here, alike.there, alike.built, alike.within, alike.keyed, ?_⟩
      exact { mirrors with issues := rfl }
  | operate operation =>
      cases stepped
      refine ⟨_, rfl, engine, alike.here, alike.there, alike.built, alike.within, alike.keyed, ?_⟩
      have schema : session.transformer.engine.schema = engine.schema := by rw [alike.here]; rfl
      have otherSchema : other.transformer.engine.schema = engine.schema := by
        rw [alike.there]; rfl
      refine ⟨?_, mirrors.issues, ?_, mirrors.memo, mirrors.otherMemo⟩
      · change session.forest.perform _ operation = other.forest.perform _ operation
        rw [schema, otherSchema]
        exact congrArg (Forest.perform engine.schema · operation) mirrors.forest
      · change (session.forest.perform _ operation).TypedIn world
        rw [schema]
        exact mirrors.typed.performWithin built alike.within operation

/-- What is seen of a session: the replies, the forest and the issues. -/
def observed (ended : List Reply × Session) : List Reply × Forest × List Issue :=
  (ended.1, ended.2.forest, ended.2.transformer.issues)

theorem observed_of_play (built : Schema.build decls = .ok schema) (within : schema.Within world)
    (firstReliable : first.Reliable) (secondReliable : second.Reliable)
    (stays : ∀ change, .change change ∈ turns →
      ∀ forest, forest.TypedIn world → (change forest).TypedIn world)
    {ended : List Reply × Session}
    (played : (new schema config source first).play (watching (Event.respects supers)) turns =
      some ended) :
    ((new schema config source second).play (watching (Event.respects supers)) turns).map
      observed = some (observed ended) := by
  have fresh : Alike world supers first second (Transformer.new schema config source).engine
      (new schema config source first) (new schema config source second) := by
    refine ⟨rfl, rfl, ⟨decls, built⟩, within, fun _ _ registered => ?_, rfl, rfl,
      Forest.typedIn_empty world, Memo.recalls_empty _ _, Memo.recalls_empty _ _⟩
    cases registered
  obtain ⟨replies, session⟩ := ended
  obtain ⟨other, otherPlayed, engine, alike⟩ :=
    (matches_alike world supers firstReliable secondReliable).play
      (fun change member _ _ ⟨engine, alike⟩ => ⟨engine, alike.change (stays change member)⟩)
      ⟨_, fresh⟩ played
  rw [otherPlayed, Option.map_some, observed, observed]
  have forest : session.forest = other.forest := alike.mirrors.forest
  have issues : session.transformer.issues = other.transformer.issues := alike.mirrors.issues
  rw [forest, issues]

/-- A session with an engine that remembers what it found shows the same as one with an
engine that looks up everything anew, and the one keeps to the supertypes if the other does.
Between the calls anything may be done with the forest and nodes of any concepts may come into
it, if only no two concepts in it have one name. A registration that fails changes nothing. -/
theorem memoized_eq_direct (built : Schema.build decls = .ok schema) (config : TransformConfig)
    (source : Option Source) (supers : String → List String) (within : schema.Within world)
    (stays : ∀ change, .change change ∈ turns →
      ∀ forest, forest.TypedIn world → (change forest).TypedIn world) :
    ((new schema config source .memoized).play (watching (Event.respects supers)) turns).map
        observed =
      ((new schema config source .direct).play (watching (Event.respects supers)) turns).map
        observed ∧
    (∀ lookups ended,
      (new schema config source lookups).play (watching (Event.respects supers)) turns =
        some ended →
      (new schema config source lookups).play Engine.transformNode turns = some ended) ∧
    ∀ (way : Way) (session after : Session) (call : Call) (error : TransformError),
      session.step way call = some (.registered (.error error), after) → after = session := by
  refine ⟨?_, fun lookups ended played => play_of_watching played,
    fun way session after call error refused => eq_of_registration_failed refused⟩
  have memoized := Lookups.reliable_memoized
  have direct := Lookups.reliable_direct
  cases played :
      (new schema config source .memoized).play (watching (Event.respects supers)) turns with
  | some ended => exact (observed_of_play built within memoized direct stays played).symm
  | none =>
      cases otherPlayed :
          (new schema config source .direct).play (watching (Event.respects supers)) turns with
      | none => rfl
      | some ended =>
          have same := observed_of_play built within direct memoized stays otherPlayed
          rw [played] at same
          cases same

def shelfDecls : List ConceptDecl :=
  [((ConceptDecl.named "Shelf").addFeature "books" (.children "Shelf")).mapLastFrom "books"]

def shelfSupers (type : String) : List String := if type = "Rack" then ["Board"] else []

def rack (books : List ForeignValue) : ForeignNode :=
  .record "Rack" (shelfSupers "Rack") [("books", .list books)] none none

/-- Racks and a lamp that no transformation makes. -/
def roomDecls : List ConceptDecl := shelfDecls ++ [.named "Lamp"]

/-- A rack has no factory at first, then that of its supertype, then one of its own; the
second registration for boards is refused. Meanwhile a lamp comes into the forest. -/
def shelving (room : Schema) : List Turn :=
  let filled := ForeignValue.node (rack [.node (rack []), .null])
  [.call (.transform 2 filled none), .call (.registerConcept "Board" "Shelf"),
    .call (.transform 2 filled none), .change (Forest.perform room · (.create "Lamp")),
    .call (.registerConcept "Board" "Rack"), .call (.registerConcept "Rack" "Shelf"),
    .call (.transformList 2 filled none)]

theorem memoized_eq_direct_shelving :
    ∃ schema room, Schema.build shelfDecls = .ok schema ∧ Schema.build roomDecls = .ok room ∧
      ∃ ended other,
        (new schema .lenient none .memoized).play Engine.transformNode (shelving room) =
          some ended ∧
        (new schema .lenient none .direct).play Engine.transformNode (shelving room) =
          some other ∧
        observed ended = observed other := by
  have evaluated : ((Schema.build shelfDecls).toOption.any fun schema =>
      (Schema.build roomDecls).toOption.any fun room =>
        ((new schema .lenient none .memoized).play (watching (Event.respects shelfSupers))
          (shelving room)).isSome &&
        schema.concepts.entries.all fun entry => decide (room.concept? entry.1 = some entry.2)) =
      true := by
    decide +kernel
  cases built : Schema.build shelfDecls with
  | error reason =>
      rw [built] at evaluated
      cases evaluated
  | ok schema =>
      cases builtRoom : Schema.build roomDecls with
      | error reason =>
          rw [built, builtRoom] at evaluated
          cases evaluated
      | ok room =>
          rw [built, builtRoom] at evaluated
          simp only [Except.toOption, Option.any_some, Bool.and_eq_true] at evaluated
          obtain ⟨ended, played⟩ := Option.isSome_iff_exists.mp evaluated.1
          have within : schema.Within room := fun name concept found =>
            of_decide_eq_true (List.all_eq_true.mp evaluated.2 _ (Registry.mem_entries_iff.mpr found))
          have stays : ∀ change, .change change ∈ shelving room →
              ∀ forest, forest.TypedIn room → (change forest).TypedIn room := by
            intro change member forest typed
            obtain rfl : change = (Forest.perform room · (.create "Lamp")) := by
              simpa [shelving] using member
            exact typed.perform builtRoom _
          obtain ⟨same, unwatched, _⟩ :=
            memoized_eq_direct built .lenient none shelfSupers within stays
          rw [played, Option.map_some, eq_comm, Option.map_eq_some_iff] at same
          obtain ⟨other, otherPlayed, same⟩ := same
          exact ⟨schema, room, rfl, rfl, ended, other, unwatched _ _ played,
            unwatched _ _ otherPlayed, same.symm⟩

def labelledDecls : List ConceptDecl :=
  [((ConceptDecl.named "Box").addFeature "label" .attribute).mapLastFrom "text"]

def weighedDecls : List ConceptDecl :=
  [((ConceptDecl.named "Box").addFeature "weight" .attribute).mapLastFrom "load"]

/-- The constructor takes node 0 or node 1, as the foreign node says. -/
def picking : Factory :=
  { Factory.ofConcept "Parcel" "Box" with
    construct := fun foreign _ =>
      return some (if (foreign.get "load").isNull then 0 else 1) }

/-- Boxes of two schemas come into the forest, first one that has a label. Then a parcel is
transformed that takes the first, and one that takes the second. -/
def unpacking (labelled weighed : Schema) : List Turn :=
  [.call (.register picking), .change (Forest.perform labelled · (.create "Box")),
    .change (Forest.perform weighed · (.create "Box")),
    .call (.transform 1
      (.node (.record "Parcel" [] [("text", .scalar (.str "fragile"))] none none)) none),
    .call (.transform 1
      (.node (.record "Parcel" [] [("load", .scalar (.int 3))] none none)) none)]

/-- The plan remembered for the boxes of one schema is followed for those of the other. -/
theorem memoized_differs_of_namesakes :
    ∃ labelled weighed, Schema.build labelledDecls = .ok labelled ∧
      Schema.build weighedDecls = .ok weighed ∧
      ∃ ended other,
        (new labelled .lenient none .memoized).play Engine.transformNode
          (unpacking labelled weighed) = some ended ∧
        (new labelled .lenient none .direct).play Engine.transformNode
          (unpacking labelled weighed) = some other ∧
        ended.1.getLast? = some (.node (.error (.edit (.unknownFeature "Box" "label")))) ∧
        other.1.getLast? = some (.node (.ok (some 1))) := by
  have evaluated : ((Schema.build labelledDecls).toOption.any fun labelled =>
      (Schema.build weighedDecls).toOption.any fun weighed =>
        ((new labelled .lenient none .memoized).play Engine.transformNode
          (unpacking labelled weighed)).any (fun ended => decide (ended.1.getLast? =
            some (.node (.error (.edit (.unknownFeature "Box" "label")))))) &&
        ((new labelled .lenient none .direct).play Engine.transformNode
          (unpacking labelled weighed)).any fun other => decide (other.1.getLast? =
            some (.node (.ok (some 1))))) = true := by
    decide +kernel
  cases built : Schema.build labelledDecls with
  | error reason =>
      rw [built] at evaluated
      cases evaluated
  | ok labelled =>
      cases builtOther : Schema.build weighedDecls with
      | error reason =>
          rw [built, builtOther] at evaluated
          cases evaluated
      | ok weighed =>
          rw [built, builtOther] at evaluated
          simp only [Except.toOption, Option.any_some, Bool.and_eq_true] at evaluated
          obtain ⟨ended, played, failed⟩ := (Option.any_eq_true _ _).mp evaluated.1
          obtain ⟨other, otherPlayed, succeeded⟩ := (Option.any_eq_true _ _).mp evaluated.2
          exact ⟨labelled, weighed, rfl, rfl, ended, other, played, otherPlayed,
            of_decide_eq_true failed, of_decide_eq_true succeeded⟩

end Transformer.Session

end TypedTree
