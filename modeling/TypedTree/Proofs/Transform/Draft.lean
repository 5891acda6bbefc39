import TypedTree.Forest.Traversal
import TypedTree.Proofs.Transform.Lookup
import TypedTree.Proofs.Transform.Reading

namespace TypedTree

/-! # Drafts

A sketch is a tree as a value, without node numbers and without a forest. A draft is the
sketch that a foreign node stands for, found by recursion over the foreign tree alone:
the factory is that of the type or of its first supertype that has one, and the features
of its concept are read one after the other. Nothing is remembered, linked or moved.
-/

/-- The concepts whose nodes stand in for what could not be transformed. -/
def placeholderNames : List String := ["GenericNode", "ErrorNode"]

theorem contains_placeholderNames (concept : Concept) :
    placeholderNames.contains concept.name = concept.isPlaceholder := by
  rw [placeholderNames, List.contains_cons, List.contains_cons, List.contains_nil, Bool.or_false]
  rfl

inductive Part (α : Type) where
  | attribute (value : Option Value)
  | reference (link : Option Reference)
  | child (content : Option α)
  | children (content : List α)

inductive Sketch where
  | node (concept : Concept) (origin : Option Origin) (range : Option Span)
      (parts : List (String × Part Sketch))

namespace Sketch

def concept : Sketch → Concept
  | .node concept _ _ _ => concept

/-- Whether a feature with this target may hold the tree. Placeholders fit everywhere. -/
def fits (target : String) (sketch : Sketch) : Bool :=
  placeholderNames.contains sketch.concept.name || sketch.concept.ancestry.contains target

theorem fits_eq (target : String) (sketch : Sketch) :
    sketch.fits target = (sketch.concept.isPlaceholder || sketch.concept.isA target) := by
  rw [fits, contains_placeholderNames]
  rfl

end Sketch

def Part.empty {α : Type} : FeatureType → Part α
  | .attribute => .attribute none
  | .child _ => .child none
  | .children _ => .children []
  | .reference _ => .reference none

def Slot.toPart (read : NodeId → Option Sketch) : Slot → Part Sketch
  | .attribute value => .attribute value
  | .reference link => .reference link
  | .child node => .child (node.bind read)
  | .children nodes => .children (nodes.filterMap read)

@[simp]
theorem Slot.toPart_empty (read : NodeId → Option Sketch) (type : FeatureType) :
    (Slot.empty type).toPart read = .empty type := by
  cases type <;> rfl

theorem Slot.toPart_congr {slot : Slot} {read other : NodeId → Option Sketch}
    (same : ∀ node ∈ slot.contained, read node = other node) :
    slot.toPart read = slot.toPart other := by
  match slot with
  | .child none | .attribute _ | .reference _ => rfl
  | .child (some node) => exact congrArg Part.child (same node List.mem_cons_self)
  | .children nodes => exact congrArg Part.children (List.filterMap_congr same)

namespace Forest

/-- The tree at a node to a depth of `depth` levels. -/
def sketchTo (forest : Forest) : (depth : Nat) → NodeId → Option Sketch
  | 0, _ => none
  | depth + 1, node =>
      (forest.cell? node).map fun cell =>
        .node cell.concept cell.origin cell.range
          (cell.slots.map fun slot => (slot.1, slot.2.toPart (forest.sketchTo depth)))

def sketch (forest : Forest) (node : NodeId) : Option Sketch :=
  forest.sketchTo forest.nextId node

end Forest

/-- What a feature of a node of `concept` is read from, if from anything. -/
def Factory.sourceFor (factory : Factory) (concept : Concept) (feature : Feature) :
    Option FeatureSource :=
  (factory.rules.source? concept feature.name).or (feature.mappedFrom.map .path)

theorem Factory.plan_eq (factory : Factory) (concept : Concept) :
    factory.plan concept = concept.features.filterMap fun feature =>
      (factory.sourceFor concept feature).map fun source => (feature, source) := by
  unfold Factory.plan
  congr 1
  funext feature
  cases found : factory.rules.source? concept feature.name <;>
    simp [Factory.sourceFor, found, Function.comp_def]

theorem Drafting.sourceOf_eq (factory : Factory) (concept : Concept) (feature : Feature) :
    sourceOf factory concept feature = factory.sourceFor concept feature := by
  rw [sourceOf, firstRule_eq, Factory.sourceFor]
  cases factory.rules.source? concept feature.name <;> rfl

theorem Factory.plan_sublist (factory : Factory) (concept : Concept) :
    ((factory.plan concept).map Prod.fst).Sublist concept.features := by
  rw [factory.plan_eq]
  induction concept.features with
  | nil => exact .slnil
  | cons feature rest ih =>
      rw [List.filterMap_cons]
      cases factory.sourceFor concept feature with
      | none => exact ih.cons feature
      | some source => exact ih.cons_cons feature

/-- A draft may fail, adds to the issues, and has no outcome if the fuel is used up. -/
abbrev Drafting := ExceptT TransformError (StateT (List Issue) Option)

namespace Drafting

variable (recur : ForeignNode → Drafting Sketch)

def outOfFuel {α : Type} : Drafting α := ExceptT.mk fun _ => none

def report (issue : Issue) : StateT (List Issue) Option Unit :=
  modify fun issues => issues ++ [issue]

def expectTarget (concept feature target : String) (content : Sketch) : Drafting Unit :=
  if content.fits target then return ()
  else throw (.edit (.rejected concept feature (.wrongType target content.concept.name)))

theorem forM_expectTarget (concept feature target : String) (contents : List Sketch) :
    contents.forM (expectTarget concept feature target) =
      match contents.find? (!·.fits target) with
      | none => pure ⟨⟩
      | some misfit => throw (.edit (.rejected concept feature
          (.wrongType target misfit.concept.name))) := by
  induction contents with
  | nil => rfl
  | cons content rest ih =>
      change (expectTarget concept feature target content >>= fun _ => rest.forM _) = _
      rw [List.find?_cons, expectTarget]
      cases fits : content.fits target with
      | true => exact ih
      | false => rfl

def elements (concept feature : String) : List ForeignValue → Drafting (List Sketch)
  | [] => return []
  | .null :: rest => elements concept feature rest
  | .node foreign :: rest => do
      let first ← recur foreign
      let others ← elements concept feature rest
      return first :: others
  | .list _ :: _ => throw (.unexpectedCollection (.insideFeature concept feature))
  | .scalar value :: _ => throw (.unexpectedValue (.ofFeature concept feature) (labelOf value))

def part (concept : String) (feature : Feature) (value : ForeignValue) :
    Drafting (Part Sketch) :=
  let place := Place.ofFeature concept feature.name
  match feature.type, value with
  | .attribute, .list _ | .reference _, .list _ | .child _, .list _ =>
      throw (.unexpectedCollection place)
  | .attribute, value => return .attribute (scalarOf value)
  | .reference _, value =>
      return .reference ((scalarOf value).map fun scalar => ⟨nameOf scalar, none⟩)
  | .child target, .node foreign => do
      let content ← recur foreign
      expectTarget concept feature.name target content
      return .child (some content)
  | .child _, .null => return .child none
  | .children target, .list items => do
      let contents ← elements recur concept feature.name items
      contents.forM (expectTarget concept feature.name target)
      return .children contents
  | .children _, .null => return .children []
  | .child _, .scalar value | .children _, .scalar value =>
      throw (.unexpectedValue place (labelOf value))
  | .children _, .node _ => throw (.edit (.rejected concept feature.name .singleNode))

/-- A feature that is read from nothing stays empty. -/
def plannedPart (factory : Factory) (concept : Concept) (foreign : ForeignNode)
    (feature : Feature) : Drafting (Part Sketch) :=
  match sourceOf factory concept feature with
  | none => return .empty feature.type
  | some source => part recur concept.name feature (read foreign source)

def parts (factory : Factory) (concept : Concept) (foreign : ForeignNode) :
    List Feature → Drafting (List (String × Part Sketch))
  | [] => return []
  | feature :: rest => do
      let first ← plannedPart recur factory concept foreign feature
      let others ← parts factory concept foreign rest
      return (feature.name, first) :: others

/-- A factory may leave its nodes empty, and placeholders are never filled. -/
def contents (factory : Factory) (concept : Concept) (foreign : ForeignNode) :
    Drafting (List (String × Part Sketch)) :=
  if !factory.skipChildren && !placeholderNames.contains concept.name then
    parts recur factory concept foreign concept.features
  else
    return concept.features.map fun feature => (feature.name, .empty feature.type)

/-- The sketch that one record stands for; parse nodes have no draft. `made` says which
concept the factory for a foreign type makes. -/
def nodeWith (engine : Engine) (made : String → String) : ForeignNode → Drafting Sketch
  | .parsed _ => outOfFuel
  | .record type supertypes fields range text =>
      let foreign := ForeignNode.record type supertypes fields range text
      let origin := some (Origin.foreign foreign)
      match firstRegistered engine.factories (type :: supertypes) with
      | none => do
          if engine.config.allowGeneric then
            report ⟨.translation, .info, "Source node not mapped: " ++ type, range⟩
            return .node ⟨"GenericNode", ["Node"], ["GenericNode", "Node"], []⟩ origin range []
          else
            throw (.unmappedType type)
      | some factory =>
          match engine.schema.concept? (made factory.sourceType) with
          | none => throw (.edit (.unknownConcept (made factory.sourceType)))
          | some concept => do
              let parts ← contents recur factory concept foreign
              return .node concept origin range parts

/-- Drafts a foreign node; foreign nodes may be nested to a depth of `fuel`. -/
def node (engine : Engine) (made : String → String) :
    (fuel : Nat) → ForeignNode → Drafting Sketch
  | 0 => fun _ => outOfFuel
  | fuel + 1 => nodeWith (node engine made fuel) engine made

end Drafting

def Engine.draft (engine : Engine) (made : String → String) (foreign : ForeignNode) :
    Drafting Sketch :=
  Drafting.node engine made foreign.depth foreign

/-- Whether what is read stands below the foreign node: a path with a segment. -/
def FeatureSource.descends : FeatureSource → Bool
  | .getter _ => false
  | .path accessors => ForeignValue.segments accessors != []

/-- Whether everything that a node of the concept comes to contain is read from below. -/
def Factory.descends (factory : Factory) (concept : Concept) : Bool :=
  concept.features.all fun feature =>
    !feature.type.isContainment || (factory.sourceFor concept feature).all (·.descends)

def Engine.Descends (engine : Engine) (made : String → String) : Prop :=
  ∀ ⦃type factory concept⦄, engine.factories.get? type = some factory →
    engine.schema.concept? (made factory.sourceType) = some concept →
    factory.descends concept = true

theorem Factory.exists_path {factory : Factory} {concept : Concept} {feature : Feature}
    {source : FeatureSource} (descends : factory.descends concept = true)
    (member : feature ∈ concept.features) (contains : feature.type.isContainment = true)
    (isSource : factory.sourceFor concept feature = some source) :
    ∃ path, source = .path path ∧ ForeignValue.segments path ≠ [] := by
  have below := List.all_eq_true.mp descends feature member
  rw [contains, isSource] at below
  match source with
  | .getter _ => cases below
  | .path path => exact ⟨path, rfl, by simpa [FeatureSource.descends] using below⟩

namespace Drafting

variable {recur other : ForeignNode → Drafting Sketch} {engine : Engine}
  {made : String → String} {supers : String → List String} {foreign : ForeignNode}

theorem elements_congr {concept feature : String} {items : List ForeignValue}
    (same : ∀ inner, .node inner ∈ items → recur inner = other inner) :
    elements recur concept feature items = elements other concept feature items := by
  induction items with
  | nil => rfl
  | cons item rest ih =>
      have later := ih fun inner member => same inner (List.mem_cons_of_mem _ member)
      match item with
      | .null => exact later
      | .node inner => rw [elements, elements, later, same inner List.mem_cons_self]
      | .list _ | .scalar _ => rfl

theorem part_congr {concept : String} {feature : Feature} {value : ForeignValue}
    (same : feature.type.isContainment = true →
      ∀ inner, value.Holds inner → recur inner = other inner) :
    part recur concept feature value = part other concept feature value := by
  unfold part
  cases kind : feature.type <;> cases value <;> try rfl
  all_goals rw [kind] at same
  case child.node target inner =>
    dsimp only
    rw [same rfl inner .here]
  case children.list target items =>
    dsimp only
    rw [elements_congr fun inner member => same rfl inner (.item member .here)]

theorem parts_congr {factory : Factory} {concept : Concept} {features : List Feature}
    (same : ∀ feature ∈ features, feature.type.isContainment = true →
      ∀ source, sourceOf factory concept feature = some source →
        ∀ inner, (read foreign source).Holds inner → recur inner = other inner) :
    parts recur factory concept foreign features =
      parts other factory concept foreign features := by
  induction features with
  | nil => rfl
  | cons feature rest ih =>
      have later := ih fun feature member => same feature (List.mem_cons_of_mem _ member)
      have here : plannedPart recur factory concept foreign feature =
          plannedPart other factory concept foreign feature := by
        unfold plannedPart
        cases found : sourceOf factory concept feature with
        | none => rfl
        | some source =>
            exact part_congr fun contains =>
              same feature List.mem_cons_self contains source found
      rw [parts, parts, later, here]

theorem nodeWith_congr (descends : engine.Descends made)
    (typed : (ForeignValue.node foreign).TypedBy supers)
    (same : ∀ inner, (ForeignValue.node foreign).Holds inner → inner.depth < foreign.depth →
      recur inner = other inner) :
    nodeWith recur engine made foreign = nodeWith other engine made foreign := by
  obtain ⟨type, fields, range, text, rfl⟩ := typed foreign .here
  unfold nodeWith
  dsimp only
  cases found : firstRegistered engine.factories (type :: supers type) with
  | none => rfl
  | some factory =>
      let foreign := ForeignNode.record type (supers type) fields range text
      obtain ⟨_, registered⟩ :=
        get?_of_findFactory ((firstRegistered_eq engine.factories foreign).symm.trans found)
      dsimp only
      cases concept : engine.schema.concept? (made factory.sourceType) with
      | none => rfl
      | some declared =>
          have filled : parts recur factory declared (.record type (supers type) fields range text)
                declared.features =
              parts other factory declared (.record type (supers type) fields range text)
                declared.features := by
            refine parts_congr fun feature member contains source isSource inner held => ?_
            rw [sourceOf_eq] at isSource
            obtain ⟨path, rfl, leaves⟩ :=
              Factory.exists_path (descends registered concept) member contains isSource
            rw [read_eq typed] at held
            have below := ForeignValue.Holds.of_navigate typed held
            exact same inner below.1 (below.2 leaves)
          dsimp only
          rw [contents, contents, filled]

/-- Only nodes below the foreign node are drafted for it, so that its depth is fuel enough. -/
theorem node_eq_draft (descends : engine.Descends made) {fuel : Nat}
    (typed : (ForeignValue.node foreign).TypedBy supers) (enough : foreign.depth ≤ fuel) :
    node engine made fuel foreign = engine.draft made foreign := by
  induction fuel using Nat.strongRecOn generalizing foreign with
  | _ fuel ih =>
      obtain ⟨type, fields, range, text, rfl⟩ := typed foreign .here
      match fuel, enough with
      | fuel + 1, enough =>
          unfold Engine.draft
          rw [ForeignNode.depth, node, node]
          rw [ForeignNode.depth] at enough
          -- Both fuels are enough for every node below.
          refine nodeWith_congr descends typed fun inner held below => ?_
          rw [ForeignNode.depth] at below
          rw [ih fuel (by omega) (typed.inside held) (by omega),
            ih _ (by omega) (typed.inside held) (by omega)]

theorem draft_eq (descends : engine.Descends made)
    (typed : (ForeignValue.node foreign).TypedBy supers) :
    engine.draft made foreign = nodeWith (engine.draft made) engine made foreign := by
  rw [← node_eq_draft descends typed (Nat.le_succ foreign.depth), node]
  refine nodeWith_congr descends typed fun inner held below => ?_
  exact node_eq_draft descends (typed.inside held) (Nat.le_of_lt below)

/-- The draft has an outcome whatever the issues are. -/
def Total {α : Type} (draft : Drafting α) : Prop :=
  ∀ issues, ∃ outcome, draft.run.run issues = some outcome

theorem total_pure {α : Type} (value : α) : Total (pure value) :=
  fun issues => ⟨(.ok value, issues), rfl⟩

theorem total_throw {α : Type} (error : TransformError) : Total (throw error : Drafting α) :=
  fun issues => ⟨(.error error, issues), rfl⟩

theorem total_bind {α β : Type} {first : Drafting α} {next : α → Drafting β}
    (here : Total first) (later : ∀ value, Total (next value)) : Total (first >>= next) := by
  intro issues
  obtain ⟨⟨result, between⟩, begun⟩ := here issues
  cases result with
  | error error =>
      exact ⟨(.error error, between), by simp [ExceptT.run_bind, begun]⟩
  | ok value =>
      obtain ⟨outcome, ended⟩ := later value between
      exact ⟨outcome, by simp [ExceptT.run_bind, begun, ended]⟩

theorem total_expectTarget (concept feature target : String) (content : Sketch) :
    Total (expectTarget concept feature target content) := by
  unfold expectTarget
  split
  · exact total_pure ()
  · exact total_throw _

theorem total_forM {α : Type} {check : α → Drafting Unit} (each : ∀ item, Total (check item))
    (items : List α) : Total (items.forM check) := by
  induction items with
  | nil => exact total_pure ()
  | cons item rest ih =>
      exact total_bind (each item) fun _ => ih

section

variable (total : ∀ inner, Total (recur inner))
include total

theorem total_elements (concept feature : String) (items : List ForeignValue) :
    Total (elements recur concept feature items) := by
  induction items with
  | nil => exact total_pure []
  | cons item rest ih =>
      match item with
      | .null => exact ih
      | .node inner =>
          refine total_bind (total inner) fun first => ?_
          exact total_bind ih fun others => total_pure _
      | .list _ | .scalar _ => exact total_throw _

theorem total_part (concept : String) (feature : Feature) (value : ForeignValue) :
    Total (part recur concept feature value) := by
  unfold part
  match feature.type, value with
  | .attribute, .list _ | .reference _, .list _ | .child _, .list _ => exact total_throw _
  | .attribute, .null | .attribute, .scalar _ | .attribute, .node _ => exact total_pure _
  | .reference _, .null | .reference _, .scalar _ | .reference _, .node _ => exact total_pure _
  | .child _, .null | .children _, .null => exact total_pure _
  | .child _, .scalar _ | .children _, .scalar _ | .children _, .node _ => exact total_throw _
  | .child target, .node inner =>
      refine total_bind (total inner) fun content => ?_
      exact total_bind (total_expectTarget _ _ _ content) fun _ => total_pure _
  | .children target, .list items =>
      refine total_bind (total_elements total _ _ items) fun contents => ?_
      exact total_bind (total_forM (total_expectTarget _ _ _) contents) fun _ => total_pure _

theorem total_parts (factory : Factory) (concept : Concept) (features : List Feature) :
    Total (parts recur factory concept foreign features) := by
  induction features with
  | nil => exact total_pure []
  | cons feature rest ih =>
      refine total_bind ?_ fun first => total_bind ih fun others => total_pure _
      unfold plannedPart
      cases sourceOf factory concept feature with
      | none => exact total_pure _
      | some source => exact total_part total _ _ _

theorem total_nodeWith (typed : (ForeignValue.node foreign).TypedBy supers) :
    Total (nodeWith recur engine made foreign) := by
  obtain ⟨type, fields, range, text, rfl⟩ := typed foreign .here
  unfold nodeWith
  dsimp only
  cases firstRegistered engine.factories (type :: supers type) with
  | none =>
      dsimp only
      split
      · exact fun issues => ⟨_, rfl⟩
      · exact total_throw _
  | some factory =>
      dsimp only
      cases engine.schema.concept? (made factory.sourceType) with
      | none => exact total_throw _
      | some concept =>
          refine total_bind ?_ fun parts => total_pure _
          unfold contents
          split
          · exact total_parts total _ _ _
          · exact total_pure _

end

theorem total_draft (descends : engine.Descends made)
    (typed : (ForeignValue.node foreign).TypedBy supers) : Total (engine.draft made foreign) := by
  induction depth : foreign.depth using Nat.strongRecOn generalizing foreign with
  | _ depth ih =>
      subst depth
      classical
      -- Nodes that are not below are not drafted, so they may be taken to fail.
      let below : ForeignNode → Drafting Sketch := fun inner =>
        if (ForeignValue.node foreign).Holds inner ∧ inner.depth < foreign.depth then
          engine.draft made inner
        else throw (.unmappedType inner.typeName)
      have same : nodeWith (engine.draft made) engine made foreign =
          nodeWith below engine made foreign := by
        refine nodeWith_congr descends typed fun inner held lower => ?_
        exact (if_pos ⟨held, lower⟩).symm
      rw [draft_eq descends typed, same]
      refine total_nodeWith (fun inner => ?_) typed
      dsimp only [below]
      split
      · next inside => exact ih _ inside.2 (typed.inside inside.1) rfl
      · exact total_throw _

end Drafting

end TypedTree
