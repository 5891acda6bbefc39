import TypedTree.Proofs.Dispatch
import TypedTree.Proofs.Schema.Features
import TypedTree.Proofs.Semantics.Scoping

namespace TypedTree

/-! # Which scope rule is run

Rules for a reference feature are kept apart by the concept that declares the feature.
A feature is the same for all subtypes of a concept that has it, so the table for the
feature of a node has every rule that was accepted for the feature and the node's
supertypes. The split is never felt: rules are selected as if there were one table for
each name of a feature.
-/

open Relation

/-- A scope rule that is offered for one reference feature of a concept or for all. -/
inductive ScopeOffer where
  | forFeature (concept feature : String) (rule : ScopeRule)
  | forNode (concept : String) (rule : ScopeRule)

namespace ScopeOffer

def add (semantics : Semantics) : ScopeOffer → Except SemanticError Semantics
  | .forFeature concept feature rule => semantics.addFeatureRule concept feature rule
  | .forNode concept rule => semantics.addNodeRule concept rule

/-- The rule for the feature and the concept that an offer brings. -/
def featureRule? (feature concept : String) : ScopeOffer → Option ScopeRule
  | .forFeature offered name rule =>
      if offered = concept ∧ name = feature then some rule else none
  | .forNode _ _ => none

/-- The rule for all references of the concept that an offer brings. -/
def nodeRule? (concept : String) : ScopeOffer → Option ScopeRule
  | .forFeature _ _ _ => none
  | .forNode offered rule => if offered = concept then some rule else none

theorem featureRule?_eq_some_iff {feature concept : String} {offer : ScopeOffer}
    {rule : ScopeRule} :
    offer.featureRule? feature concept = some rule ↔ offer = .forFeature concept feature rule := by
  cases offer with
  | forFeature offered name stored =>
      by_cases same : offered = concept ∧ name = feature
      · simp [featureRule?, same]
      · simp only [featureRule?, same, if_false]
        grind
  | forNode offered stored => simp [featureRule?]

theorem nodeRule?_eq_some_iff {concept : String} {offer : ScopeOffer} {rule : ScopeRule} :
    offer.nodeRule? concept = some rule ↔ offer = .forNode concept rule := by
  cases offer with
  | forFeature offered name stored => simp [nodeRule?]
  | forNode offered stored => by_cases same : offered = concept <;> simp [nodeRule?, same]

end ScopeOffer

/-- If an offer can bring one rule only, it is in the list if its rule is found there. -/
theorem findSome?_eq_some_iff_mem {offers : List ScopeOffer} {read : ScopeOffer → Option ScopeRule}
    {offer : ScopeRule → ScopeOffer} {rule : ScopeRule}
    (reads : ∀ {other stored}, read other = some stored ↔ other = offer stored)
    (single : ∀ first second, offer first ∈ offers → offer second ∈ offers → first = second) :
    offers.findSome? read = some rule ↔ offer rule ∈ offers := by
  constructor
  · intro found
    obtain ⟨other, member, brings⟩ := List.exists_of_findSome?_eq_some found
    exact reads.mp brings ▸ member
  · intro member
    cases found : offers.findSome? read with
    | none =>
        have nothing := List.findSome?_eq_none_iff.mp found (offer rule) member
        rw [reads.mpr rfl] at nothing
        cases nothing
    | some stored =>
        obtain ⟨other, inOffers, brings⟩ := List.exists_of_findSome?_eq_some found
        rw [reads.mp brings] at inOffers
        rw [single stored rule inOffers member]

/-- The rules of a language with the offers that they come from. -/
structure Offered where
  semantics : Semantics
  accepted : List ScopeOffer

namespace Offered

/-- An offer that is refused changes nothing. -/
def take (offered : Offered) (offer : ScopeOffer) : Offered :=
  match offer.add offered.semantics with
  | .ok grown => ⟨grown, offered.accepted ++ [offer]⟩
  | .error _ => offered

def run (schema : Schema) (policy : DispatchPolicy) (offers : List ScopeOffer) : Offered :=
  offers.foldl take ⟨.new schema policy, []⟩

def featureRule (offered : Offered) (feature concept : String) : Option ScopeRule :=
  offered.accepted.findSome? (ScopeOffer.featureRule? feature concept)

def nodeRule (offered : Offered) (concept : String) : Option ScopeRule :=
  offered.accepted.findSome? (ScopeOffer.nodeRule? concept)

end Offered

/-- The answer for the concept `name` where these are the rules. -/
structure Selects {R : Type} (decls : List ConceptDecl) (rule : String → Option R) (name : String)
    (policy : DispatchPolicy) (answer : Except DispatchError (Option R)) : Prop where
  verdict : Verdict rule name (mostSpecific decls (applicable decls rule name)) policy answer
  eq_none_iff : answer = .ok none ↔ applicable decls rule name = ∅

/-- The table has these rules and no others. -/
structure DispatchTable.Keeps {R : Type} (table : DispatchTable R) (schema : Schema)
    (policy : DispatchPolicy) (kept : String → R → Prop) : Prop where
  sameSchema : table.schema = schema
  samePolicy : table.policy = policy
  rules : ∀ {name rule}, table.rules.get? name = some rule ↔ kept name rule

namespace DispatchTable.Keeps

variable {R : Type} {table grown : DispatchTable R} {schema : Schema} {policy : DispatchPolicy}
  {kept other : String → R → Prop} {name : String} {rule : R}

theorem congr (keeps : table.Keeps schema policy kept)
    (same : ∀ name rule, kept name rule ↔ other name rule) : table.Keeps schema policy other :=
  ⟨keeps.sameSchema, keeps.samePolicy, fun {name rule} => keeps.rules.trans (same name rule)⟩

theorem register (keeps : table.Keeps schema policy kept)
    (registered : table.register name rule = .ok grown) :
    grown.Keeps schema policy fun other stored =>
      kept other stored ∨ other = name ∧ stored = rule := by
  obtain ⟨_, absent, rfl⟩ := register_eq_ok registered
  refine ⟨keeps.sameSchema, keeps.samePolicy, fun {other stored} => ?_⟩
  rw [Registry.get?_insert, ← keeps.rules]
  by_cases same : other = name
  · subst same
    simpa [absent] using eq_comm
  · simp [same]

theorem selects {decls : List ConceptDecl} {known : Ancestry.Known} {concept : Concept}
    {selected : String → Option R} (keeps : table.Keeps schema policy kept)
    (built : Schema.Built decls schema known)
    (found : schema.concept? concept.name = some concept)
    (agrees : ∀ sup, ReflTransGen (Schema.Extends decls) concept.name sup →
      table.rules.get? sup = selected sup) :
    Selects decls selected concept.name policy (table.find concept) := by
  obtain ⟨rfl, rfl, _⟩ := keeps
  have verdict := verdict_find_of_agrees built found rfl agrees
  refine ⟨verdict, ?_⟩
  rw [verdict.eq_none_iff fun low member => member.1.1]
  exact mostSpecific_eq_empty_iff built found fun other member => member.2

end DispatchTable.Keeps

namespace Semantics

variable {semantics after : Semantics} {schema : Schema} {concept feature owner : String}
  {rule : ScopeRule} {declared : Feature} {declarer : String}

theorem name_of_referenceFeature (refers : referenceFeature schema concept feature = .ok declared) :
    declared.name = feature := by
  obtain ⟨known, _, found, _⟩ := referenceFeature_eq_ok_iff.mp refers
  simpa using List.find?_some found

/-- The rules for a feature that the concept `owner` declares. -/
def featureTable (semantics : Semantics) (owner feature : String) : DispatchTable ScopeRule :=
  (semantics.featureRules.get? (owner, feature)).getD (.new semantics.schema semantics.policy)

theorem scopeRule?_eq (known : Concept) (declared : Feature) :
    semantics.scopeRule? known declared =
      ((semantics.featureTable declared.owner declared.name).find known >>= fun chosen =>
        match chosen with
        | some rule => .ok (some rule)
        | none => semantics.nodeRules.find known) := by
  unfold scopeRule? featureTable
  cases semantics.featureRules.get? (declared.owner, declared.name) with
  | some table => rfl
  | none =>
      rw [Option.getD_none, DispatchTable.find_new]
      rfl

theorem addFeatureRule_eq_ok (added : semantics.addFeatureRule concept feature rule = .ok after) :
    ∃ declared grown, referenceFeature semantics.schema concept feature = .ok declared ∧
      (semantics.featureTable declared.owner feature).register concept rule = .ok grown ∧
      after = { semantics with
        featureRules := semantics.featureRules.insert (declared.owner, feature) grown } := by
  obtain ⟨declared, refers, added⟩ := Except.bind_eq_ok_iff.mp added
  refine ⟨declared, ?_⟩
  dsimp only at added
  rw [name_of_referenceFeature refers] at added
  cases registered : (semantics.featureTable declared.owner feature).register concept rule with
  | error error =>
      unfold featureTable at registered
      rw [registered] at added
      cases error <;> cases added
  | ok grown =>
      unfold featureTable at registered
      rw [registered] at added
      cases added
      exact ⟨grown, refers, rfl, rfl⟩

theorem addNodeRule_eq_ok (added : semantics.addNodeRule concept rule = .ok after) :
    ∃ grown, semantics.nodeRules.register concept rule = .ok grown ∧
      after = { semantics with nodeRules := grown } := by
  cases registered : semantics.nodeRules.register concept rule with
  | error error => simp [addNodeRule, registered] at added
  | ok grown =>
      simp only [addNodeRule, registered, Except.ok.injEq] at added
      exact ⟨grown, rfl, added.symm⟩

theorem featureTable_insert (name : String) (table : DispatchTable ScopeRule) :
    featureTable
        { semantics with featureRules := semantics.featureRules.insert (owner, feature) table }
        declarer name =
      if declarer = owner ∧ name = feature then table
      else semantics.featureTable declarer name := by
  unfold featureTable
  rw [Registry.get?_insert]
  by_cases same : declarer = owner ∧ name = feature
  · simp [same]
  · simp [same]

/-- Nodes of the concept have the feature as a reference, which `owner` declares. -/
def DeclaredBy (schema : Schema) (concept feature owner : String) : Prop :=
  ∃ declared, referenceFeature schema concept feature = .ok declared ∧ declared.owner = owner

end Semantics

namespace Offered

open Semantics

variable {offered : Offered} {schema : Schema} {policy : DispatchPolicy}
  {concept feature owner : String} {rule : ScopeRule}

/-- Every accepted offer is kept in its table, and nothing else is. -/
structure Sorted (offered : Offered) (schema : Schema) (policy : DispatchPolicy) : Prop where
  sameSchema : offered.semantics.schema = schema
  samePolicy : offered.semantics.policy = policy
  declared : ∀ {concept feature rule}, .forFeature concept feature rule ∈ offered.accepted →
    ∃ owner, DeclaredBy schema concept feature owner
  features : ∀ owner feature,
    (offered.semantics.featureTable owner feature).Keeps schema policy fun concept rule =>
      .forFeature concept feature rule ∈ offered.accepted ∧
        DeclaredBy schema concept feature owner
  nodes : offered.semantics.nodeRules.Keeps schema policy fun concept rule =>
    .forNode concept rule ∈ offered.accepted

theorem sorted_new (schema : Schema) (policy : DispatchPolicy) :
    Sorted ⟨.new schema policy, []⟩ schema policy where
  sameSchema := rfl
  samePolicy := rfl
  declared member := by simp at member
  features owner feature := ⟨rfl, rfl, fun {name rule} => by
    simp [featureTable, Semantics.new, DispatchTable.new, EmptyCollection.emptyCollection]⟩
  nodes := ⟨rfl, rfl, fun {name rule} => by
    simp [Semantics.new, DispatchTable.new, EmptyCollection.emptyCollection]⟩

section

variable (sorted : offered.Sorted schema policy) {after : Semantics}
include sorted

theorem Sorted.addFeatureRule
    (added : offered.semantics.addFeatureRule concept feature rule = .ok after) :
    Sorted ⟨after, offered.accepted ++ [.forFeature concept feature rule]⟩ schema policy := by
  obtain ⟨declared, grown, refers, registered, rfl⟩ := addFeatureRule_eq_ok added
  rw [sorted.sameSchema] at refers
  have own : DeclaredBy schema concept feature declared.owner := ⟨declared, refers, rfl⟩
  refine ⟨sorted.sameSchema, sorted.samePolicy, fun member => ?_, fun owner name => ?_, ?_⟩
  · rcases List.mem_append.mp member with old | new
    · exact sorted.declared old
    · simp only [List.mem_singleton, ScopeOffer.forFeature.injEq] at new
      obtain ⟨rfl, rfl, rfl⟩ := new
      exact ⟨declared.owner, own⟩
  · dsimp only
    rw [featureTable_insert]
    by_cases here : owner = declared.owner ∧ name = feature
    · obtain ⟨rfl, rfl⟩ := here
      rw [if_pos ⟨rfl, rfl⟩]
      refine ((sorted.features declared.owner name).register registered).congr ?_
      intro other stored
      simp only [List.mem_append, List.mem_singleton, ScopeOffer.forFeature.injEq, true_and]
      grind
    · rw [if_neg here]
      -- The new rule is not for this table: its feature has one declarer, and not `owner`.
      refine (sorted.features owner name).congr fun other stored => ?_
      have elsewhere (isNew : other = concept ∧ name = feature ∧ stored = rule) :
          ¬ DeclaredBy schema other name owner := by
        rintro ⟨found, again, isOwner⟩
        obtain ⟨rfl, rfl, _⟩ := isNew
        rw [refers, Except.ok.injEq] at again
        exact here ⟨by rw [← isOwner, again], rfl⟩
      simp only [List.mem_append, List.mem_singleton, ScopeOffer.forFeature.injEq]
      grind
  · exact sorted.nodes.congr (by simp)

theorem Sorted.addNodeRule (added : offered.semantics.addNodeRule concept rule = .ok after) :
    Sorted ⟨after, offered.accepted ++ [.forNode concept rule]⟩ schema policy := by
  obtain ⟨grown, registered, rfl⟩ := addNodeRule_eq_ok added
  refine ⟨sorted.sameSchema, sorted.samePolicy, fun member => ?_, fun owner feature => ?_, ?_⟩
  · exact sorted.declared (by simpa using member)
  · exact (sorted.features owner feature).congr (by simp)
  · exact (sorted.nodes.register registered).congr (by simp)

theorem Sorted.take (offer : ScopeOffer) : (offered.take offer).Sorted schema policy := by
  cases added : offer.add offered.semantics with
  | error error => simpa [Offered.take, added] using sorted
  | ok grown =>
      simp only [Offered.take, added]
      cases offer with
      | forFeature concept feature rule => exact sorted.addFeatureRule added
      | forNode concept rule => exact sorted.addNodeRule added

theorem Sorted.featureRule_eq_some_iff :
    offered.featureRule feature concept = some rule ↔
      .forFeature concept feature rule ∈ offered.accepted := by
  refine findSome?_eq_some_iff_mem ScopeOffer.featureRule?_eq_some_iff ?_
  intro first second one two
  obtain ⟨owner, declares⟩ := sorted.declared one
  have holdsFirst := (sorted.features owner feature).rules.mpr ⟨one, declares⟩
  have holdsSecond := (sorted.features owner feature).rules.mpr ⟨two, declares⟩
  exact Option.some.inj (holdsFirst.symm.trans holdsSecond)

theorem Sorted.nodeRule_eq_some_iff :
    offered.nodeRule concept = some rule ↔ .forNode concept rule ∈ offered.accepted := by
  refine findSome?_eq_some_iff_mem ScopeOffer.nodeRule?_eq_some_iff ?_
  intro first second one two
  exact Option.some.inj ((sorted.nodes.rules.mpr one).symm.trans (sorted.nodes.rules.mpr two))

section

variable {decls : List ConceptDecl} {known : Ancestry.Known} {declared : Feature}
  {subtype : Concept} (built : Schema.Built decls schema known)
  (found : schema.concept? concept = some subtype)
include built found

/-- The table for a feature of a concept has all rules that were accepted for the feature
and the supertypes of the concept. -/
theorem Sorted.get?_featureTable (refers : referenceFeature schema concept feature = .ok declared)
    {sup : String} (above : ReflTransGen (Schema.Extends decls) concept sup) :
    (offered.semantics.featureTable declared.owner feature).rules.get? sup =
      offered.featureRule feature sup := by
  refine Option.ext fun rule => ?_
  rw [(sorted.features declared.owner feature).rules, sorted.featureRule_eq_some_iff]
  refine and_iff_left_of_imp fun accepted => ?_
  obtain ⟨_, general, refersAbove, _⟩ := sorted.declared accepted
  obtain ⟨holder, higher, declares, _⟩ := referenceFeature_eq_ok_iff.mp refersAbove
  obtain ⟨same, isSame, inherits, _⟩ := referenceFeature_eq_ok_iff.mp refers
  cases found.symm.trans isSame
  -- The feature that the supertype has is the one inherited here, so both have one declarer.
  cases (built.feature?_of_above found above higher declares).symm.trans inherits
  exact ⟨_, refersAbove, rfl⟩

end

end

theorem sorted_run (schema : Schema) (policy : DispatchPolicy) (offers : List ScopeOffer) :
    (run schema policy offers).Sorted schema policy := by
  suffices general : ∀ offered : Offered, offered.Sorted schema policy →
      (offers.foldl take offered).Sorted schema policy by
    exact general _ (sorted_new schema policy)
  induction offers with
  | nil => exact fun _ sorted => sorted
  | cons offer rest ih => exact fun offered sorted => ih _ (sorted.take offer)

end Offered

namespace Semantics

/-- The scope of a reference where the rules for its feature say `byFeature` and those for
its node `byNode`: the second only count where the first say nothing. -/
def scopeBy (semantics : Semantics) (services : Services) (node : NodeId) :
    (byFeature byNode : Except DispatchError (Option ScopeRule)) → ResolveM Scope
  | .error error, _ => throw (.dispatch error)
  | .ok (some rule), _ => semantics.runRule services (rule node)
  | .ok none, .error error => throw (.dispatch error)
  | .ok none, .ok (some rule) => semantics.runRule services (rule node)
  | .ok none, .ok none => return .new false

theorem run_scopeFor {semantics : Semantics} {session : Session} {node : NodeId} {concept : Concept}
    {feature : String} {declared : Feature} (fuel : Nat)
    (is : session.forest.concept? node = some concept)
    (refers : referenceFeature semantics.schema concept.name feature = .ok declared) :
    (semantics.scopeFor (fuel + 1) node feature).run.run session =
      (semantics.scopeBy (semantics.services fuel) node
        ((semantics.featureTable declared.owner feature).find concept)
        (semantics.nodeRules.find concept)).run.run session := by
  have known := run_expectConcept node session
  rw [is] at known
  have checked := run_expectReference semantics concept feature session
  rw [refers] at checked
  refine (run_bind_ok known).trans ((run_bind_ok checked).trans ?_)
  rw [scopeRule?_eq, name_of_referenceFeature refers]
  cases (semantics.featureTable declared.owner feature).find concept with
  | error error => rfl
  | ok chosen =>
      cases chosen with
      | some rule => rfl
      | none =>
          cases semantics.nodeRules.find concept with
          | error error => rfl
          | ok fallback => cases fallback <;> rfl

/-- The scope of a reference comes from the most specific rule that was accepted for its
feature and a supertype of its node; without one, from the most specific rule for all
references of a supertype; without that, it is empty. -/
theorem scopeFor_selects {decls : List ConceptDecl} {schema : Schema}
    (built : Schema.build decls = .ok schema) (policy : DispatchPolicy)
    (offers : List ScopeOffer) {session : Session} {node : NodeId} {concept : Concept}
    {feature : String} {declared : Feature} (fuel : Nat)
    (is : session.forest.concept? node = some concept)
    (known : schema.concept? concept.name = some concept)
    (refers : concept.feature? feature = some declared)
    (kind : declared.type.isReference = true) :
    let offered := Offered.run schema policy offers
    (∀ sup rule, offered.featureRule feature sup = some rule ↔
      .forFeature sup feature rule ∈ offered.accepted) ∧
    (∀ sup rule, offered.nodeRule sup = some rule ↔ .forNode sup rule ∈ offered.accepted) ∧
    ∃ byFeature byNode,
      Selects decls (offered.featureRule feature) concept.name policy byFeature ∧
      Selects decls offered.nodeRule concept.name policy byNode ∧
      (offered.semantics.scopeFor (fuel + 1) node feature).run.run session =
        (offered.semantics.scopeBy (offered.semantics.services fuel) node byFeature
          byNode).run.run session := by
  intro offered
  have sorted : offered.Sorted schema policy := Offered.sorted_run schema policy offers
  obtain ⟨ancestries, parts⟩ := Schema.build_eq_ok built
  have declares : referenceFeature schema concept.name feature = .ok declared :=
    referenceFeature_eq_ok_iff.mpr ⟨concept, known, refers, kind⟩
  have byFeature := (sorted.features declared.owner feature).selects parts known fun sup =>
    sorted.get?_featureTable parts known declares
  have byNode := sorted.nodes.selects parts known fun sup _ => Option.ext fun rule =>
    sorted.nodes.rules.trans sorted.nodeRule_eq_some_iff.symm
  refine ⟨fun sup rule => sorted.featureRule_eq_some_iff,
    fun sup rule => sorted.nodeRule_eq_some_iff, _, _, byFeature, byNode, ?_⟩
  exact run_scopeFor fuel is (by rwa [sorted.sameSchema])

/-- A feature that is inherited twice over, and another one of its name. -/
def inheritedDecls : List ConceptDecl :=
  [(ConceptDecl.named "Base").addFeature "ref" (.reference "Base"),
    (ConceptDecl.named "Mid").extend "Base", (ConceptDecl.named "Leaf").extend "Mid",
    (ConceptDecl.named "Other").addFeature "ref" (.reference "Base")]

/-- Only the first rule for the middle concept does not fail. The second one and that for an
unknown feature are refused. -/
def inheritedOffers : List ScopeOffer :=
  let failing : ScopeRule := fun _ => .fail (.rule "not selected")
  [.forNode "Leaf" failing, .forFeature "Other" "ref" failing, .forFeature "Base" "ref" failing,
    .forFeature "Mid" "ref" fun _ => .done (.new true), .forFeature "Mid" "ref" failing,
    .forFeature "Leaf" "name" failing]

/-- A session with one node. -/
def loneSession (concept : Concept) : Session := ⟨((∅ : Forest).add (.blank concept)).2, []⟩

theorem scopeFor_selects_inherited :
    ∃ schema leaf offered byFeature byNode, Schema.build inheritedDecls = .ok schema ∧
      schema.concept? "Leaf" = some leaf ∧
      offered = Offered.run schema .strict inheritedOffers ∧ offered.accepted.length = 4 ∧
      Selects inheritedDecls (offered.featureRule "ref") "Leaf" .strict byFeature ∧
      byFeature ≠ .ok none ∧
      Selects inheritedDecls offered.nodeRule "Leaf" .strict byNode ∧
      ((offered.semantics.scopeBy (offered.semantics.services 0) 0 byFeature byNode).run.run
        (loneSession leaf)).map Prod.fst = some (.ok (.new true)) := by
  have answered : (Schema.build inheritedDecls).toOption.bind (fun schema =>
      (schema.concept? "Leaf").bind fun leaf => (leaf.feature? "ref").map fun declared =>
        let offered := Offered.run schema .strict inheritedOffers
        (leaf.name, declared.type.isReference, offered.accepted.length,
          (offered.featureRule "ref" "Mid").isSome,
          offered.semantics.scopeAt 1 (loneSession leaf) 0 "ref")) =
      some ("Leaf", true, 4, true, some (.ok (.new true))) := by
    cbv
  cases built : Schema.build inheritedDecls with
  | error reason =>
      rw [built] at answered
      cases answered
  | ok schema =>
      rw [built, Except.toOption, Option.bind_some] at answered
      obtain ⟨leaf, found, answered⟩ := Option.bind_eq_some_iff.mp answered
      obtain ⟨declared, refers, answered⟩ := Option.map_eq_some_iff.mp answered
      simp only [Prod.mk.injEq] at answered
      obtain ⟨named, kind, accepted, ruled, inScope⟩ := answered
      have is : (loneSession leaf).forest.concept? 0 = some leaf := rfl
      obtain ⟨_, _, byFeature, byNode, selects, selectsNode, ran⟩ :=
        scopeFor_selects built .strict inheritedOffers 0 is (named ▸ found) refers kind
      rw [named] at selects selectsNode
      rw [scopeAt, ran] at inScope
      refine ⟨schema, leaf, _, byFeature, byNode, rfl, found, rfl, accepted, selects, ?_,
        selectsNode, inScope⟩
      have direct : Schema.Extends inheritedDecls "Leaf" "Mid" := by
        simp [Schema.Extends, inheritedDecls, ConceptDecl.builtins, ConceptDecl.named,
          ConceptDecl.extend, ConceptDecl.addFeature]
      rw [Ne, selects.eq_none_iff, ← Ne, ← Set.nonempty_iff_ne_empty]
      exact ⟨"Mid", ruled, .single direct⟩

end Semantics

end TypedTree
