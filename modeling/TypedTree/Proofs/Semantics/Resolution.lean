import Mathlib
import TypedTree.Proofs.Forest.Paths
import TypedTree.Proofs.Semantics.Scoping

namespace TypedTree.Semantics

variable {semantics : Semantics} {fuel : Nat} {forest : Forest} {session after : Session}
  {node : NodeId} {feature : String}

theorem run_edit {edit : Edit} (applied : session.forest.apply edit = .ok forest) :
    (Semantics.edit edit).run.run session = some (.ok (), { session with forest := forest }) := by
  rw [Semantics.edit, run_get_bind, applied]
  rfl

/-- What resolving one reference does: its target is replaced if one was found. -/
structure Settles (node : NodeId) (feature : String) (found : Option NodeId)
    (forest after : Forest) : Prop where
  tree : after.untargeted = forest.untargeted
  targets : ∀ other name, after.target? other name =
    if other = node ∧ name = feature then found.or (forest.target? other name)
    else forest.target? other name

theorem Settles.none (node : NodeId) (feature : String) (forest : Forest) :
    Settles node feature none forest forest :=
  ⟨rfl, fun _ _ => by simp⟩

theorem Settles.point {link : Reference} (set : forest.link? node feature = some link)
    (target : NodeId) :
    Settles node feature (some target) forest (forest.point node feature link target) :=
  ⟨Forest.untargeted_point set target, fun _ _ => Forest.target?_point set target⟩

theorem resolveReference_eq_point {link : Reference} (conforming : forest.Conforming)
    (set : forest.link? node feature = some link) (target : NodeId) :
    forest.apply (.resolveReference node feature target) =
      .ok (forest.point node feature link target) := by
  obtain ⟨cell, found, reference⟩ := Option.bind_eq_some_iff.mp set
  obtain ⟨declared, known, kind⟩ := (conforming node cell found).feature?_of_reference? reference
  exact Forest.resolveReference_eq_ok_iff.mpr
    ⟨cell, declared, link, found, known, kind, reference, rfl⟩

/-- Looks a name up and writes what was found. -/
def lookUp (node : NodeId) (feature name : String) (required : Option String) (scope : Scope) :
    ResolveM (Option NodeId) := do
  match scope.resolve (← get).forest name required with
  | none => return none
  | some target =>
      edit (.resolveReference node feature target)
      return some target

theorem run_lookUp (session : Session) {link : Reference} (conforming : session.forest.Conforming)
    (set : session.forest.link? node feature = some link) (name : String)
    (required : Option String) (scope : Scope) :
    ∃ after, (lookUp node feature name required scope).run.run session =
        some (.ok (scope.resolve session.forest name required), after) ∧
      Settles node feature (scope.resolve session.forest name required)
        session.forest after.forest := by
  rw [lookUp, run_get_bind]
  cases scope.resolve session.forest name required with
  | none => exact ⟨session, rfl, .none node feature session.forest⟩
  | some target =>
      have written := run_edit (resolveReference_eq_point conforming set target)
      exact ⟨_, run_bind_ok written, .point set target⟩

/-- The feature of a reference is checked once more when its scope is computed. -/
theorem run_resolveReference {link : Reference}
    (set : session.forest.link? node feature = some link) :
    (semantics.resolveReference (fuel + 1) node feature).run.run session =
      (semantics.scopeFor (fuel + 1) node feature >>= lookUp node feature link.name
        (semantics.required? session.forest node feature)).run.run session := by
  obtain ⟨concept, known, named⟩ := run_expectConcept_of_link? set
  rw [resolveReference, resolveReferenceWith, run_bind_ok known]
  have checked := run_expectReference semantics concept feature session
  rw [← named] at checked
  cases declared : referenceFeature semantics.schema (session.forest.conceptName node) feature with
  | error reason =>
      rw [declared] at checked
      rw [run_bind_error checked, run_bind_error (run_scopeFor_of_refused set declared)]
  | ok declaration =>
      rw [declared] at checked
      rw [run_bind_ok checked, run_get_bind, required?, declared]
      unfold Forest.link? at set
      rw [set]
      rfl

/-- What has become of a session when some references were processed: each of them has the
target that was found for it, if any, and all else is as at the start. -/
structure Processed (semantics : Semantics) (fuel : Nat) (start : Session)
    (done : List (NodeId × String)) (forest : Forest) : Prop where
  tree : forest.untargeted = start.forest.untargeted
  scopes : ∀ reference ∈ done, ∃ scope,
    semantics.scopeAt fuel start reference.1 reference.2 = some (.ok scope)
  targets : ∀ node feature, forest.target? node feature =
    if (node, feature) ∈ done then
      (semantics.found? fuel start node feature).or (start.forest.target? node feature)
    else start.forest.target? node feature

theorem processed_nil (semantics : Semantics) (fuel : Nat) (start : Session) :
    Processed semantics fuel start [] start.forest :=
  ⟨rfl, by simp, by simp⟩

theorem Processed.snoc {start : Session} {done : List (NodeId × String)} {scope : Scope}
    {later : Forest} (processed : Processed semantics fuel start done forest)
    (scoping : semantics.scopeAt fuel start node feature = some (.ok scope))
    (settles : Settles node feature (semantics.found? fuel start node feature) forest later) :
    Processed semantics fuel start (done ++ [(node, feature)]) later where
  tree := settles.tree.trans processed.tree
  scopes := List.forall_mem_append.mpr
    ⟨processed.scopes, List.forall_mem_singleton.mpr ⟨scope, scoping⟩⟩
  targets other name := by
    rw [settles.targets, processed.targets]
    by_cases here : other = node ∧ name = feature
    · obtain ⟨rfl, rfl⟩ := here
      by_cases already : (other, name) ∈ done
      · cases semantics.found? fuel start other name <;> simp [already]
      · simp [already]
    · have elsewhere : (other, name) ≠ (node, feature) := fun same => here (Prod.mk.inj same)
      simp [here, elsewhere]

/-- How a pass over references ends, and which it has processed: all of them, or those
before the first one without a scope. -/
inductive Ended (semantics : Semantics) (fuel : Nat) (start : Session) :
    (references done : List (NodeId × String)) → Except SemanticError Unit → Prop where
  | completed (references : List (NodeId × String)) :
      Ended semantics fuel start references references (.ok ())
  | stopped (done rest : List (NodeId × String)) {node : NodeId} {feature : String}
      {error : SemanticError}
      (failed : semantics.scopeAt fuel start node feature = some (.error error)) :
      Ended semantics fuel start (done ++ (node, feature) :: rest) done (.error error)

section

variable {start : Session} {references done : List (NodeId × String)}
  {outcome : Except SemanticError Unit}

theorem Ended.cons (reference : NodeId × String)
    (ended : Ended semantics fuel start references done outcome) :
    Ended semantics fuel start (reference :: references) (reference :: done) outcome := by
  cases ended with
  | completed => exact .completed _
  | stopped done rest failed => exact .stopped (reference :: done) rest failed

theorem Ended.subset (ended : Ended semantics fuel start references done outcome) :
    done ⊆ references := by
  cases ended with
  | completed => exact List.Subset.refl _
  | stopped done rest failed => exact List.subset_append_left _ _

theorem Ended.eq_of_ok (ended : Ended semantics fuel start references done outcome)
    (ok : outcome = .ok ()) : done = references := by
  cases ended with
  | completed => rfl
  | stopped => cases ok

theorem Ended.exists_of_error {error : SemanticError}
    (ended : Ended semantics fuel start references done outcome) (failed : outcome = .error error) :
    ∃ node feature rest, references = done ++ (node, feature) :: rest ∧
      semantics.scopeAt fuel start node feature = some (.error error) := by
  cases ended with
  | completed => cases failed
  | stopped done rest unscoped =>
      cases failed
      exact ⟨_, _, rest, rfl, unscoped⟩

end

theorem run_resolveEach {start : Session} (lawful : semantics.Lawful fuel start.forest)
    (conforming : start.forest.Conforming) {references done : List (NodeId × String)}
    (set : ∀ reference ∈ references, ∃ link,
      start.forest.link? reference.1 reference.2 = some link)
    (processed : Processed semantics (fuel + 1) start done session.forest) :
    ∃ outcome after more, (semantics.resolveEach (fuel + 1) references).run.run session =
        some (outcome, after) ∧
      Ended semantics (fuel + 1) start references more outcome ∧
      Processed semantics (fuel + 1) start (done ++ more) after.forest := by
  -- the tree remains that of `start`, and with it the scopes of the references to come
  induction references generalizing session done with
  | nil => exact ⟨.ok (), session, [], rfl, .completed [], by simpa using processed⟩
  | cons reference rest ih =>
      obtain ⟨node, feature⟩ := reference
      obtain ⟨link, isSet⟩ := set _ List.mem_cons_self
      obtain ⟨target, stillSet⟩ := Forest.exists_link?_of_untargeted_eq processed.tree isSet
      obtain ⟨answer, issues, ran, agree⟩ := lawful.run_scopeFor processed.tree node feature
      rw [resolveEach]
      cases answer with
      | error error =>
          have failed := (run_resolveReference stillSet).trans (run_bind_error ran)
          exact ⟨_, _, [], run_bind_error failed, .stopped [] rest (agree start rfl),
            by simpa using processed⟩
      | ok scope =>
          have found : semantics.found? (fuel + 1) start node feature =
              scope.resolve session.forest link.name
                (semantics.required? session.forest node feature) := by
            rw [← lawful.found?_eq processed.tree, found?, agree session processed.tree, stillSet]
            rfl
          have conforms := Forest.conforming_of_untargeted_eq processed.tree conforming
          obtain ⟨middle, looked, settles⟩ := run_lookUp { session with issues := issues }
            conforms stillSet link.name (semantics.required? session.forest node feature) scope
          rw [← found] at settles
          have resolved := (run_resolveReference stillSet).trans ((run_bind_ok ran).trans looked)
          obtain ⟨outcome, after, more, further, ended, later⟩ :=
            ih (fun other member => set other (List.mem_cons_of_mem _ member))
              (processed.snoc (agree start rfl) settles)
          refine ⟨outcome, after, (node, feature) :: more, (run_bind_ok resolved).trans further,
            ended.cons (node, feature), ?_⟩
          rwa [List.append_assoc] at later

theorem mem_referencesOf_iff {root : NodeId} :
    (node, feature) ∈ referencesOf forest root ↔
      node ∈ forest.walk root ∧ ∃ link, forest.link? node feature = some link := by
  simp only [referencesOf, List.mem_flatMap, List.mem_map, Prod.exists, Prod.mk.injEq]
  constructor
  · rintro ⟨inner, inWalk, name, link, member, rfl, rfl⟩
    exact ⟨inWalk, link, Forest.mem_references_iff.mp member⟩
  · rintro ⟨inWalk, link, set⟩
    exact ⟨node, inWalk, feature, link, Forest.mem_references_iff.mpr set, rfl, rfl⟩

theorem referencesOf_eq (forest : Forest) (root : NodeId) :
    referencesOf forest root = (forest.walk root).flatMap fun node =>
      ((forest.references node).map Prod.fst).map (Prod.mk node) := by
  rw [referencesOf]
  congr 1
  funext node
  rw [List.map_map]
  rfl

theorem referencesOf_untargeted (forest : Forest) (root : NodeId) :
    referencesOf forest.untargeted root = referencesOf forest root := by
  simp only [referencesOf_eq, Forest.walk_untargeted, Forest.references_untargeted]

theorem nodup_referencesOf (shaped : forest.TreeShaped) (root : NodeId) :
    (referencesOf forest root).Nodup := by
  refine List.nodup_flatMap.mpr ⟨fun node _ => ?_, ?_⟩
  · cases found : forest.cell? node with
    | none => simp [Forest.references, found]
    | some cell =>
        have distinct := Forest.pairwise_slots cell
        simp only [Forest.references, found, Option.map_some, Option.getD_some, Cell.references]
        refine List.pairwise_map.mpr (List.pairwise_filterMap.mpr (distinct.imp ?_))
        intro first second different shown isFirst other isSecond same
        split at isFirst <;> cases isFirst
        split at isSecond <;> cases isSecond
        exact different (Prod.mk.inj same).2
  · refine (shaped.nodup_walkTo forest.nextId root).imp ?_
    intro first second different reference inFirst inSecond
    obtain ⟨_, _, rfl⟩ := List.mem_map.mp inFirst
    obtain ⟨_, _, same⟩ := List.mem_map.mp inSecond
    exact different (congrArg Prod.fst same).symm

theorem unresolvedReferences_eq (forest : Forest) (root : NodeId) :
    forest.unresolvedReferences root = (referencesOf forest root).filter fun reference =>
      (forest.target? reference.1 reference.2).all fun target => !forest.isAlive target := by
  rw [Forest.unresolvedReferences, referencesOf, List.filter_flatMap]
  congr 1
  funext node
  rw [← List.filterMap_eq_filter, List.filterMap_map]
  refine List.filterMap_congr fun (feature, link) member => ?_
  have set := Forest.mem_references_iff.mp member
  have leads : (link.target.all fun target => !forest.isAlive target) =
      !forest.isResolved link := by
    rw [Forest.isResolved, Forest.referred?]
    cases link.target with
    | none => rfl
    | some target => cases alive : forest.isAlive target <;> simp [Option.filter, alive]
  simp only [Function.comp_apply, Option.guard, Forest.target?, set, Option.bind_some, leads]
  cases forest.isResolved link <;> rfl

/-- The reference has the target that its name has in its scope, among the nodes of the type
that the feature asks for, or its old one if there is none. -/
def Resolved (semantics : Semantics) (fuel : Nat) (start : Session) (forest : Forest)
    (node : NodeId) (feature : String) : Prop :=
  ∃ scope required link, semantics.scopeAt fuel start node feature = some (.ok scope) ∧
    semantics.required? start.forest node feature = some required ∧
    start.forest.link? node feature = some link ∧
    forest.target? node feature =
      (scope.resolve start.forest link.name (some required)).or link.target ∧
    ∀ target, scope.resolve start.forest link.name (some required) = some target →
      forest.isA target required = true

theorem Processed.resolved {start : Session} {done : List (NodeId × String)} {link : Reference}
    (processed : Processed semantics (fuel + 1) start done forest)
    (member : (node, feature) ∈ done) (set : start.forest.link? node feature = some link) :
    Resolved semantics (fuel + 1) start forest node feature := by
  obtain ⟨scope, scoping⟩ := processed.scopes _ member
  obtain ⟨required, asked⟩ := exists_required? set scoping
  refine ⟨scope, required, link, scoping, asked, set, ?_, fun target found => ?_⟩
  · have before : start.forest.target? node feature = link.target := by
      rw [Forest.target?, set]
      rfl
    rw [processed.targets, if_pos member, found?, scoping, set, asked, before]
    rfl
  · rw [← Forest.isA_untargeted, processed.tree, Forest.isA_untargeted]
    exact Scope.isA_of_resolve found

theorem run_resolveTree (lawful : semantics.Lawful fuel session.forest)
    (conforming : session.forest.Conforming) (root : NodeId) :
    ∃ outcome after done, (semantics.resolveTree (fuel + 1) root).run.run session =
        some (outcome, after) ∧
      Ended semantics (fuel + 1) session (referencesOf session.forest root) done outcome ∧
      Processed semantics (fuel + 1) session done after.forest := by
  refine run_resolveEach lawful conforming (fun reference member => ?_)
    (processed_nil semantics (fuel + 1) session)
  exact (mem_referencesOf_iff.mp member).2

/-- Where all references are processed, there is nothing left to do. -/
theorem Processed.again {root : NodeId} (lawful : semantics.Lawful fuel session.forest)
    (conforming : session.forest.Conforming)
    (processed : Processed semantics (fuel + 1) session (referencesOf session.forest root)
      after.forest) :
    ∃ issues, (semantics.resolveTree (fuel + 1) root).run.run after =
      some (.ok (), { after with issues := issues }) := by
  have same := processed.tree
  have references : referencesOf after.forest root = referencesOf session.forest root := by
    rw [← referencesOf_untargeted, same, referencesOf_untargeted]
  obtain ⟨outcome, last, done, ran, ended, repeated⟩ := run_resolveTree (lawful.congr same)
    (Forest.conforming_of_untargeted_eq same conforming) root
  rw [references] at ended
  cases outcome with
  | error error =>
      obtain ⟨node, feature, rest, split, failed⟩ := ended.exists_of_error rfl
      have member : (node, feature) ∈ referencesOf session.forest root := by simp [split]
      obtain ⟨scope, scoping⟩ := processed.scopes _ member
      rw [lawful.scopeAt_eq same, scoping] at failed
      cases failed
  | ok finished =>
      have unchanged : last.forest = after.forest := by
        refine Forest.eq_of_untargeted_eq repeated.tree fun node feature => ?_
        rw [repeated.targets, ended.eq_of_ok rfl, processed.targets, lawful.found?_eq same]
        split
        · cases semantics.found? (fuel + 1) session node feature <;> simp
        · rfl
      refine ⟨last.issues, ran.trans ?_⟩
      rw [← unchanged]

/-- Resolving a tree settles its references one after the other, up to the first one whose
scope fails, and touches nothing else. Every forest that operations make is well linked. -/
theorem resolveTree_settles (session : Session) (lawful : semantics.Lawful fuel session.forest)
    (wellLinked : session.forest.WellLinked) (root : NodeId) :
    ∃ outcome after done, (semantics.resolveTree (fuel + 1) root).run.run session =
        some (outcome, after) ∧
      after.forest.untargeted = session.forest.untargeted ∧
      (∀ node feature, (node, feature) ∈ done →
        Resolved semantics (fuel + 1) session after.forest node feature) ∧
      (∀ node feature, (node, feature) ∉ done →
        after.forest.target? node feature = session.forest.target? node feature) ∧
      (outcome = .ok () →
        (∀ node feature, (node, feature) ∈ done ↔
          node ∈ session.forest.walk root ∧ ∃ link, session.forest.link? node feature = some link) ∧
        after.forest.unresolvedReferences root =
          (referencesOf session.forest root).filter (fun reference =>
            (after.forest.target? reference.1 reference.2).all fun target =>
              !after.forest.isAlive target) ∧
        ∃ issues, (semantics.resolveTree (fuel + 1) root).run.run after =
          some (.ok (), { after with issues := issues })) ∧
      (∀ error, outcome = .error error →
        ∃ node feature rest, referencesOf session.forest root = done ++ (node, feature) :: rest ∧
          semantics.scopeAt (fuel + 1) session node feature = some (.error error) ∧
          ∀ later ∈ (node, feature) :: rest, later ∉ done) := by
  have conforming := wellLinked.conforming
  obtain ⟨outcome, after, done, ran, ended, processed⟩ := run_resolveTree lawful conforming root
  refine ⟨outcome, after, done, ran, processed.tree, fun node feature member => ?_,
    fun node feature other => ?_, fun ok => ?_, fun error failed => ?_⟩
  · obtain ⟨_, link, set⟩ := mem_referencesOf_iff.mp (ended.subset member)
    exact processed.resolved member set
  · rw [processed.targets, if_neg other]
  · obtain rfl := ended.eq_of_ok ok
    refine ⟨fun node feature => mem_referencesOf_iff, ?_, processed.again lawful conforming⟩
    rw [unresolvedReferences_eq, ← referencesOf_untargeted, processed.tree,
      referencesOf_untargeted]
  · obtain ⟨node, feature, rest, split, unscoped⟩ := ended.exists_of_error failed
    refine ⟨node, feature, rest, split, unscoped, fun later after before => ?_⟩
    have distinct := nodup_referencesOf wellLinked.treeShaped root
    rw [split] at distinct
    exact (List.nodup_append.mp distinct).2.2 later before later after rfl

/-- The scope of the nodes beside a node. -/
def siblings (forest : Forest) (node : NodeId) : Scope :=
  (Scope.new false).defineAll forest ((forest.parent? node).elim [] forest.children)

def siblingRule : ScopeRule := fun node => do
  let forest ← RuleProgram.look
  return siblings forest node

theorem ofTree_siblingRule (services : Services) (forest : Forest) (node : NodeId) :
    OfTree forest (semantics.runRule services (siblingRule node)) := by
  have plain (forest : Forest) : siblings forest.untargeted node = siblings forest node := by
    rw [siblings, siblings, Scope.defineAll_untargeted, Forest.parent?_untargeted]
    cases forest.parent? node with
    | none => rfl
    | some parent => rw [Option.elim_some, Option.elim_some, Forest.children_untargeted]
  refine ⟨.ok (siblings forest node), fun session same => ⟨session.issues, ?_⟩⟩
  rw [← plain forest, ← same, plain]
  rfl

theorem scopeRules_of_addNodeRule {schema : Schema} {policy : DispatchPolicy} {concept : String}
    {rule : ScopeRule} (added : (new schema policy).addNodeRule concept rule = .ok semantics) :
    semantics.scopeRules = [rule] := by
  unfold addNodeRule at added
  split at added
  · next grown registered =>
      cases added
      unfold DispatchTable.register at registered
      split at registered
      · cases registered
      · split at registered
        · cases registered
        · cases registered
          rfl
  · cases added

def siblingDecls : List ConceptDecl :=
  [(((ConceptDecl.named "Box").addFeature "name" .attribute).addFeature "items"
    (.children "Box")).addFeature "link" (.reference "Box")]

/-- Three nodes side by side: the reference of the first one is wrong, that of the second one
is open, and that of the third one is set to a node that has not its name. -/
def siblingOperations : List Operation :=
  [.create "Box", .create "Box", .create "Box", .create "Box",
    .edit (.setChildren 0 "items" [1, 2, 3]),
    .edit (.setAttribute 1 "name" (some (.str "a"))),
    .edit (.setAttribute 2 "name" (some (.str "b"))),
    .edit (.setReference 1 "link" (some ⟨"b", some 3⟩)),
    .edit (.setReference 2 "link" (some ⟨"a", none⟩)),
    .edit (.setReference 3 "link" (some ⟨"c", some 0⟩))]

theorem resolveTree_settles_siblings :
    ∃ schema semantics after, Schema.build siblingDecls = .ok schema ∧
      (new schema .strict).addNodeRule "Box" siblingRule = .ok semantics ∧
      semantics.Lawful 0 (Forest.run schema siblingOperations) ∧
      (semantics.resolveTree 1 0).run.run ⟨Forest.run schema siblingOperations, []⟩ =
        some (.ok (), after) ∧
      ([1, 2, 3].map fun node => after.forest.target? node "link") = [some 2, some 1, some 0] ∧
      ∃ issues, (semantics.resolveTree 1 0).run.run after =
        some (.ok (), { after with issues := issues }) := by
  have answers : (Schema.build siblingDecls).toOption.bind (fun schema =>
      ((new schema .strict).addNodeRule "Box" siblingRule).toOption.bind fun semantics =>
        ((semantics.resolveTree 1 0).run.run ⟨Forest.run schema siblingOperations, []⟩).map
          fun ended => (ended.1.toOption,
            [1, 2, 3].map fun node => ended.2.forest.target? node "link")) =
      some (some (), [some 2, some 1, some 0]) := by
    cbv
  cases built : Schema.build siblingDecls with
  | error reason =>
      rw [built] at answers
      cases answers
  | ok schema =>
      cases added : (new schema .strict).addNodeRule "Box" siblingRule with
      | error reason => simp [built, added, Except.toOption] at answers
      | ok semantics =>
          simp only [built, added, Except.toOption, Option.bind_some] at answers
          obtain ⟨⟨outcome, after⟩, ran, shown⟩ := Option.map_eq_some_iff.mp answers
          cases outcome with
          | error reason => cases shown
          | ok finished =>
              have lawful : semantics.Lawful 0 (Forest.run schema siblingOperations) := by
                intro rule member node
                rw [scopeRules_of_addNodeRule added, List.mem_singleton] at member
                exact member ▸ ofTree_siblingRule _ _ node
              have settled (forest : Forest) (lawful : semantics.Lawful 0 forest)
                  (wellLinked : forest.WellLinked) :=
                resolveTree_settles (Session.mk forest []) lawful wellLinked 0
              obtain ⟨_, _, _, same, _, _, _, completed, _⟩ :=
                settled _ lawful (Forest.wellLinked_run built siblingOperations)
              cases ran.symm.trans same
              simp only [Prod.mk.injEq] at shown
              exact ⟨schema, semantics, after, rfl, added, lawful, ran, shown.2,
                (completed rfl).2.2⟩

end TypedTree.Semantics
