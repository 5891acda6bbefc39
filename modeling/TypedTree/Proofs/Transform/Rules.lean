import Mathlib.Data.List.Count
import Mathlib.Data.List.Induction
import TypedTree.Proofs.Schema.Subtyping
import TypedTree.Transform.Transformer

namespace TypedTree

/-- A rule as it is given to a factory. -/
inductive WrittenRule where
  | bare (feature : String) (source : FeatureSource)
  | qualified (concept feature : String) (source : FeatureSource)

namespace WrittenRule

def key : WrittenRule → String
  | bare feature _ => feature
  | qualified concept feature _ => ExtractionRules.qualifiedKey concept feature

def source : WrittenRule → FeatureSource
  | bare _ source | qualified _ _ source => source

def addTo (rules : ExtractionRules) : WrittenRule → ExtractionRules
  | bare feature source => rules.add feature source
  | qualified concept feature source => rules.addFor concept feature source

/-- The feature that a rule is written for, on nodes of the concepts it is written for. -/
def MeantFor (concept : Concept) (feature : String) : WrittenRule → Prop
  | bare name _ => feature = name
  | qualified owner name _ => feature = name ∧ concept.isA owner = true

/-- What the rule under a key reads; of several it is the one written last. -/
def lastUnder (written : List WrittenRule) (key : String) : Option FeatureSource :=
  (written.reverse.find? fun rule => rule.key = key).map source

theorem lastUnder_of_key_ne {earlier later : List WrittenRule} {rule : WrittenRule} {key : String}
    (differs : rule.key ≠ key) :
    lastUnder (earlier ++ rule :: later) key = lastUnder (earlier ++ later) key := by
  simp [lastUnder, List.find?_append, differs]

end WrittenRule

namespace ExtractionRules

open WrittenRule

variable {written : List WrittenRule} {key : String} {concept : Concept} {feature : String}
  {schema : Schema}

def ofWritten (written : List WrittenRule) : ExtractionRules :=
  written.foldl addTo empty

theorem get?_addTo (rules : ExtractionRules) (rule : WrittenRule) (key : String) :
    (rule.addTo rules).sources.get? key =
      if key = rule.key then some rule.source else rules.sources.get? key := by
  cases rule <;> exact Registry.get?_insert _ _ _ _

/-- A later rule under a key replaces the earlier one. -/
theorem get?_ofWritten (written : List WrittenRule) (key : String) :
    (ofWritten written).sources.get? key = lastUnder written key := by
  induction written using List.reverseRecOn with
  | nil => rfl
  | append_singleton earlier rule ih =>
      rw [ofWritten, List.foldl_append, List.foldl_cons, List.foldl_nil, get?_addTo, ← ofWritten,
        ih]
      by_cases same : key = rule.key
      · simp [lastUnder, same]
      · simp [lastUnder, same, Ne.symm same]

theorem mem_keys_ofWritten_iff :
    key ∈ (ofWritten written).sources.keys ↔ ∃ rule ∈ written, rule.key = key := by
  rw [← Registry.get?_isSome_iff, get?_ofWritten, lastUnder, Option.isSome_map, List.find?_isSome]
  simp

/-- Only the rules under the keys for a feature of a concept matter for it. -/
theorem source?_congr {rules others : ExtractionRules}
    (qualified : ∀ owner ∈ concept.ancestry,
      rules.sources.get? (qualifiedKey owner feature) =
        others.sources.get? (qualifiedKey owner feature))
    (bare : rules.sources.get? feature = others.sources.get? feature) :
    rules.source? concept feature = others.source? concept feature := by
  have nearest : concept.ancestry.findSome? (fun owner =>
        rules.sources.get? (qualifiedKey owner feature)) =
      concept.ancestry.findSome? fun owner =>
        others.sources.get? (qualifiedKey owner feature) := by
    generalize concept.ancestry = line at qualified
    induction line with
    | nil => rfl
    | cons owner rest ih =>
        have here := qualified owner List.mem_cons_self
        have further := ih fun other member => qualified other (List.mem_cons_of_mem _ member)
        simp only [List.findSome?_cons, here, further]
  rw [source?, source?, nearest, bare]

theorem toList_qualifiedKey (concept feature : String) :
    (qualifiedKey concept feature).toList = concept.toList ++ '#' :: feature.toList := by
  simp [qualifiedKey]

theorem count_qualifiedKey (concept feature : String) :
    (qualifiedKey concept feature).toList.count '#' =
      concept.toList.count '#' + feature.toList.count '#' + 1 := by
  rw [toList_qualifiedKey, List.count_append, List.count_cons_self]
  omega

theorem qualified?_qualifiedKey {concept : String} (plain : '#' ∉ concept.toList)
    (feature : String) : qualified? (qualifiedKey concept feature) = some (concept, feature) :=
  Text.splitOnce?_of_eq (toList_qualifiedKey concept feature) plain

theorem qualifiedKey_ne {name : String} (plain : '#' ∉ name.toList) (concept feature : String) :
    qualifiedKey concept feature ≠ name := by
  rintro rfl
  exact plain (by simp [toList_qualifiedKey])

/-- A key with one mark can only be divided there. -/
theorem qualifiedKey_inj {owner name concept feature : String} (plain : '#' ∉ owner.toList)
    (plainName : '#' ∉ name.toList)
    (same : qualifiedKey concept feature = qualifiedKey owner name) :
    concept = owner ∧ feature = name := by
  have marks := count_qualifiedKey concept feature
  rw [same, count_qualifiedKey, List.count_eq_zero.mpr plain,
    List.count_eq_zero.mpr plainName] at marks
  have alsoPlain : '#' ∉ concept.toList := List.count_eq_zero.mp (by omega)
  have parts := qualified?_qualifiedKey alsoPlain feature
  rw [same, qualified?_qualifiedKey plain] at parts
  simpa using parts.symm

end ExtractionRules

namespace Schema

/-- The schema has the concept, and the concept has the feature. -/
def Declares (schema : Schema) (concept feature : String) : Prop :=
  ∃ known, schema.concept? concept = some known ∧ (known.feature? feature).isSome = true

/-- No name of a concept or a feature has the mark that divides keys. -/
def Plain (schema : Schema) : Prop :=
  ∀ name concept, schema.concept? name = some concept →
    '#' ∉ name.toList ∧ ∀ feature ∈ concept.features, '#' ∉ feature.name.toList

variable {schema : Schema} {concept feature : String}

theorem Plain.of_declares (plain : schema.Plain) (declares : schema.Declares concept feature) :
    '#' ∉ concept.toList ∧ '#' ∉ feature.toList := by
  obtain ⟨known, found, isFeature⟩ := declares
  obtain ⟨declared, looked⟩ := Option.isSome_iff_exists.mp isFeature
  have named : declared.name = feature := by simpa using List.find?_some looked
  obtain ⟨plainName, plainFeatures⟩ := plain concept known found
  exact ⟨plainName, named ▸ plainFeatures declared (List.mem_of_find?_eq_some looked)⟩

end Schema

namespace ExtractionRules

open WrittenRule

variable {written : List WrittenRule} {schema : Schema}

/-- What a key names, if it names anything, is not declared. -/
def Stray (schema : Schema) (key : String) : Prop :=
  ∃ concept feature, qualified? key = some (concept, feature) ∧ ¬ schema.Declares concept feature

theorem unknownKey?_isSome_iff {rules : ExtractionRules} :
    (rules.unknownKey? schema).isSome = true ↔ ∃ key ∈ rules.sources.keys, Stray schema key := by
  rw [unknownKey?, List.find?_isSome]
  refine exists_congr fun key => and_congr_right fun _ => ?_
  cases divided : qualified? key with
  | none => simp [Stray, divided]
  | some parts =>
      obtain ⟨concept, feature⟩ := parts
      cases found : schema.concept? concept <;> simp [Stray, divided, Schema.Declares, found]

theorem stray_qualifiedKey_iff (plain : schema.Plain) {concept feature : String} :
    Stray schema (qualifiedKey concept feature) ↔ ¬ schema.Declares concept feature := by
  by_cases plainConcept : '#' ∈ concept.toList
  · -- The key is divided too early, and what then stands for the feature has a mark.
    have divisible : '#' ∈ (qualifiedKey concept feature).toList := by simp [toList_qualifiedKey]
    obtain ⟨before, after, divided, parts, early⟩ := Text.exists_splitOnce? divisible
    have marks := count_qualifiedKey concept feature
    rw [parts, List.count_append, List.count_cons_self, List.count_eq_zero.mpr early] at marks
    have marked : '#' ∈ after.toList := by
      have := List.count_pos_iff.mpr plainConcept
      exact List.count_pos_iff.mp (by omega)
    refine iff_of_true ⟨before, after, divided, fun declares => ?_⟩ fun declares => ?_
    · exact (plain.of_declares declares).2 marked
    · exact (plain.of_declares declares).1 plainConcept
  · simp [Stray, qualified?_qualifiedKey plainConcept]

theorem not_stray_of_plain {key : String} (plain : '#' ∉ key.toList) : ¬ Stray schema key := by
  rintro ⟨concept, feature, divided, _⟩
  rw [qualified?, Text.splitOnce?_of_not_mem plain] at divided
  cases divided

/-- With plain names, the rules name something unknown if one of those for concepts does. -/
theorem unknownKey?_ofWritten_isSome_iff (plain : schema.Plain)
    (plainBare : ∀ feature source, .bare feature source ∈ written → '#' ∉ feature.toList) :
    ((ofWritten written).unknownKey? schema).isSome = true ↔
      ∃ concept feature source, .qualified concept feature source ∈ written ∧
        ¬ schema.Declares concept feature := by
  rw [unknownKey?_isSome_iff]
  simp only [mem_keys_ofWritten_iff]
  constructor
  · rintro ⟨_, ⟨rule, member, rfl⟩, stray⟩
    cases rule with
    | bare feature source =>
        exact absurd stray (not_stray_of_plain (plainBare feature source member))
    | qualified concept feature source =>
        exact ⟨concept, feature, source, member, (stray_qualifiedKey_iff plain).mp stray⟩
  · rintro ⟨concept, feature, source, member, undeclared⟩
    exact ⟨_, ⟨_, member, rfl⟩, (stray_qualifiedKey_iff plain).mpr undeclared⟩

/-- With plain names, a rule that is not meant for a feature might as well not be there. -/
theorem source?_ofWritten_of_not_meantFor {decls : List ConceptDecl} {known : Ancestry.Known}
    (built : Schema.Built decls schema known) (plain : schema.Plain) {name : String}
    {concept : Concept} (found : schema.concept? name = some concept) {feature : Feature}
    (member : feature ∈ concept.features) {earlier later : List WrittenRule} {rule : WrittenRule}
    (plainBare : ∀ feature source, rule = .bare feature source → '#' ∉ feature.toList)
    (unmeant : ¬ rule.MeantFor concept feature.name) :
    (ofWritten (earlier ++ rule :: later)).source? concept feature.name =
      (ofWritten (earlier ++ later)).source? concept feature.name := by
  have plainFeature := (plain name concept found).2 feature member
  have plainOwner : ∀ owner ∈ concept.ancestry, '#' ∉ owner.toList := by
    intro owner above
    have reached := (built.mem_ancestry_iff found).mp above
    obtain ⟨general, declared⟩ := Schema.contains_iff_exists.mp
      (built.contains_of_reached (Schema.contains_iff_exists.mpr ⟨concept, found⟩) reached)
    exact (plain owner general declared).1
  refine source?_congr (fun owner above => ?_) ?_
  · rw [get?_ofWritten, get?_ofWritten]
    refine lastUnder_of_key_ne fun same => ?_
    cases rule with
    | bare other source => exact qualifiedKey_ne (plainBare other source rfl) _ _ same.symm
    | qualified other otherFeature source =>
        obtain ⟨rfl, rfl⟩ := qualifiedKey_inj (plainOwner owner above) plainFeature same
        exact unmeant ⟨rfl, List.contains_iff_mem.mpr above⟩
  · rw [get?_ofWritten, get?_ofWritten]
    refine lastUnder_of_key_ne fun same => ?_
    cases rule with
    | bare other source => exact unmeant same.symm
    | qualified other otherFeature source => exact qualifiedKey_ne plainFeature _ _ same

end ExtractionRules

namespace Transformer

variable {transformer : Transformer} {factory : Factory}

theorem register_of_new (new : transformer.engine.factories.contains factory.sourceType = false) :
    transformer.register factory =
      match factory.rules.unknownKey? transformer.engine.schema with
      | some key => .error (.unknownChildRule factory.sourceType key)
      | none =>
          .ok { transformer with
            engine :=
              { transformer.engine with
                factories := transformer.engine.factories.insert factory.sourceType factory }
            memo := .empty } := by
  have unregistered : ¬ transformer.engine.factories.contains factory.sourceType = true := by
    simp [new]
  exact if_neg unregistered

/-- A factory for a new type is refused exactly if its rules name something unknown. -/
theorem exists_register_of_new
    (new : transformer.engine.factories.contains factory.sourceType = false) :
    ((∃ key, transformer.register factory =
        .error (.unknownChildRule factory.sourceType key)) ↔
      (factory.rules.unknownKey? transformer.engine.schema).isSome = true) ∧
    ((∃ after, transformer.register factory = .ok after) ↔
      ¬ (factory.rules.unknownKey? transformer.engine.schema).isSome = true) := by
  rw [register_of_new new]
  cases factory.rules.unknownKey? transformer.engine.schema <;> simp

/-- With plain names, a factory for a new type is refused exactly if one of its rules for
concepts names a concept or feature that is not declared. Each of its rules counts only for
the features it is meant for: for all others it might as well not be there. -/
theorem register_refuses_iff_undeclared {decls : List ConceptDecl}
    (built : Schema.build decls = .ok transformer.engine.schema)
    (plain : transformer.engine.schema.Plain) {written : List WrittenRule}
    (plainBare : ∀ feature source, .bare feature source ∈ written → '#' ∉ feature.toList)
    (rules : factory.rules = .ofWritten written)
    (new : transformer.engine.factories.contains factory.sourceType = false) :
    ((∃ key, transformer.register factory =
        .error (.unknownChildRule factory.sourceType key)) ↔
      ∃ concept feature source, .qualified concept feature source ∈ written ∧
        ¬ transformer.engine.schema.Declares concept feature) ∧
    ((∃ after, transformer.register factory = .ok after) ↔
      ∀ concept feature source, .qualified concept feature source ∈ written →
        transformer.engine.schema.Declares concept feature) ∧
    ∀ earlier rule later, written = earlier ++ rule :: later →
      ∀ name concept, transformer.engine.schema.concept? name = some concept →
        ∀ feature ∈ concept.features, ¬ rule.MeantFor concept feature.name →
          factory.rules.source? concept feature.name =
            (ExtractionRules.ofWritten (earlier ++ later)).source? concept feature.name := by
  obtain ⟨refused, accepted⟩ := exists_register_of_new new
  have stray := ExtractionRules.unknownKey?_ofWritten_isSome_iff plain plainBare
  rw [← rules] at stray
  refine ⟨refused.trans stray, accepted.trans ?_, ?_⟩
  · simp only [stray, not_exists, not_and, not_not]
  · intro earlier rule later parts name concept found feature member unmeant
    obtain ⟨known, build⟩ := Schema.build_eq_ok built
    rw [rules, parts]
    refine ExtractionRules.source?_ofWritten_of_not_meantFor build plain found member ?_ unmeant
    rintro other source rfl
    exact plainBare other source (parts ▸ by simp)

def namedDecls : List ConceptDecl :=
  [(ConceptDecl.named "X").addFeature "name" .attribute, (ConceptDecl.named "B").extend "X"]

/-- The last rule is for a feature that there is not, the one before it for another concept. -/
def namedFactory : Factory :=
  { Factory.ofConcept "Input" "X" with
    rules := .ofWritten [.bare "name" (.path "plain"), .qualified "B" "name" (.path "special"),
      .qualified "X" "nope" (.path "special")] }

theorem register_refuses_iff_undeclared_named :
    ∃ schema, Schema.build namedDecls = .ok schema ∧ schema.Plain ∧
      (∃ key, (new schema .lenient none).register namedFactory =
        .error (.unknownChildRule "Input" key)) ∧
      ∃ concept, schema.concept? "X" = some concept ∧
        namedFactory.rules.source? concept "name" =
          (ExtractionRules.ofWritten [.bare "name" (.path "plain"),
            .qualified "X" "nope" (.path "special")]).source? concept "name" := by
  let feature : Feature := ⟨"name", .attribute, none, "X"⟩
  have evaluated : (Schema.build namedDecls).toOption.map (fun schema =>
      (schema.concept? "X", schema.concepts.entries.all fun entry =>
        !entry.1.toList.contains '#' &&
          entry.2.features.all fun feature => !feature.name.toList.contains '#')) =
      some (some ⟨"X", ["Node"], ["X", "Node"], [feature]⟩, true) := by
    decide +kernel
  cases built : Schema.build namedDecls with
  | error reason =>
      rw [built] at evaluated
      cases evaluated
  | ok schema =>
      simp only [built, Except.toOption, Option.map_some, Option.some.injEq, Prod.mk.injEq,
        List.all_eq_true] at evaluated
      obtain ⟨found, unmarked⟩ := evaluated
      have plain : schema.Plain := by
        intro name concept isConcept
        simpa using unmarked _ (Registry.mem_entries_iff.mpr isConcept)
      have undeclared : ¬ schema.Declares "X" "nope" := by
        simp [Schema.Declares, found, feature, Concept.feature?]
      obtain ⟨refused, _, apart⟩ := @register_refuses_iff_undeclared (new schema .lenient none)
        namedFactory namedDecls built plain _ (by simp) rfl rfl
      have isRefused := refused.mpr ⟨"X", "nope", .path "special", by simp, undeclared⟩
      refine ⟨schema, rfl, plain, isRefused, _, found, ?_⟩
      exact apart [_] _ [_] rfl "X" _ found feature List.mem_cons_self
        (by simp [WrittenRule.MeantFor, Concept.isA])

/-- A feature whose name is divided like a key, and a concept whose name is the beginning of
such a key. -/
def markedDecls : List ConceptDecl :=
  [(ConceptDecl.named "A").addFeature "B#f" .attribute,
    (ConceptDecl.named "A#B").addFeature "f" .attribute]

def markedFactory (written : List WrittenRule) : Factory :=
  { Factory.ofConcept "X" "A" with rules := .ofWritten written }

/-- A rule for a feature name is refused, though it is for no concept; and a rule that is for
one concept is accepted, and then read for a feature of another concept. -/
theorem register_mistakes_marked_names :
    ∃ schema, Schema.build markedDecls = .ok schema ∧
      (new schema .lenient none).register (markedFactory [.bare "B#f" (.path "x")]) =
        .error (.unknownChildRule "X" "B#f") ∧
      (∃ after, (new schema .lenient none).register
        (markedFactory [.qualified "A#B" "f" (.path "x")]) = .ok after) ∧
      ∃ concept, schema.concept? "A" = some concept ∧ concept.isA "A#B" = false ∧
        (markedFactory [.qualified "A#B" "f" (.path "x")]).rules.source? concept "B#f" =
          some (.path "x") := by
  have concepts : (Schema.build markedDecls).toOption.map (fun schema =>
      (schema.concept? "A", schema.concept? "B")) =
      some (some ⟨"A", ["Node"], ["A", "Node"], [⟨"B#f", .attribute, none, "A"⟩]⟩, none) := by
    decide +kernel
  have early : ExtractionRules.qualified? "B#f" = some ("B", "f") := by decide +kernel
  have late : ExtractionRules.qualified? "A#B#f" = some ("A", "B#f") := by decide +kernel
  have bareKeys : (markedFactory [.bare "B#f" (.path "x")]).rules.sources.keys = ["B#f"] := rfl
  have qualifiedKeys : (markedFactory [.qualified "A#B" "f" (.path "x")]).rules.sources.keys =
      ["A#B#f"] := by
    decide +kernel
  cases built : Schema.build markedDecls with
  | error reason =>
      rw [built] at concepts
      cases concepts
  | ok schema =>
      simp only [built, Except.toOption, Option.map_some, Option.some.injEq, Prod.mk.injEq]
        at concepts
      obtain ⟨found, unknown⟩ := concepts
      have strays : (markedFactory [.bare "B#f" (.path "x")]).rules.unknownKey? schema =
          some "B#f" := by
        simp [ExtractionRules.unknownKey?, bareKeys, early, unknown]
      have fits : (markedFactory [.qualified "A#B" "f" (.path "x")]).rules.unknownKey? schema =
          none := by
        simp [ExtractionRules.unknownKey?, qualifiedKeys, late, found, Concept.feature?]
      refine ⟨schema, rfl, ?_, ?_, _, found, by decide +kernel, rfl⟩
      · rw [register_of_new rfl]
        exact strays ▸ rfl
      · rw [register_of_new rfl]
        exact fits ▸ ⟨_, rfl⟩

end Transformer

end TypedTree
