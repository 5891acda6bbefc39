import TypedTree.Proofs.Schema.Features

namespace TypedTree.Schema

open Relation

variable {decls : List ConceptDecl} {schema : Schema} {known : Ancestry.Known}
  {name feature : String} {decl : ConceptDecl} {error : SchemaError}

/-- Some concept, built-in or not, has this name. -/
def Declared (decls : List ConceptDecl) (name : String) : Prop :=
  ∃ decl ∈ ConceptDecl.builtins ++ decls, decl.name = name

/-- The declarations of `name` and of its supertypes declare `feature` twice. -/
inductive DeclaredTwice (decls : List ConceptDecl) (name feature : String) : Prop where
  | within (decl : ConceptDecl) (member : decl ∈ ConceptDecl.builtins ++ decls)
      (above : ReflTransGen (Extends decls) name decl.name)
      (twice : (decl.features.map (·.name)).Duplicate feature)
  | across (first second : ConceptDecl) (inFirst : first ∈ ConceptDecl.builtins ++ decls)
      (inSecond : second ∈ ConceptDecl.builtins ++ decls)
      (aboveFirst : ReflTransGen (Extends decls) name first.name)
      (aboveSecond : ReflTransGen (Extends decls) name second.name)
      (differ : first.name ≠ second.name)
      (one : feature ∈ first.features.map (·.name))
      (other : feature ∈ second.features.map (·.name))

structure Coherent (decls : List ConceptDecl) : Prop where
  distinct : ((ConceptDecl.builtins ++ decls).map (·.name)).Nodup
  named : ∀ decl ∈ ConceptDecl.builtins ++ decls, ∀ feature ∈ decl.features, feature.name ≠ ""
  supertypes : ∀ decl ∈ ConceptDecl.builtins ++ decls, ∀ sup ∈ decl.supertypes,
    Declared decls sup
  targets : ∀ decl ∈ ConceptDecl.builtins ++ decls, ∀ feature ∈ decl.features, ∀ target,
    feature.type.target? = some target → Declared decls target
  acyclic : ∀ name, ¬ TransGen (Extends decls) name name
  features : ∀ name, Declared decls name → ∀ feature, ¬ DeclaredTwice decls name feature

/-- The declarations have the fault that the error names. -/
inductive Fault (decls : List ConceptDecl) : SchemaError → Prop where
  | duplicateConcept (concept : String)
      (twice : ((ConceptDecl.builtins ++ decls).map (·.name)).Duplicate concept) :
      Fault decls (.duplicateConcept concept)
  | danglingMapping (decl : ConceptDecl) (member : decl ∈ ConceptDecl.builtins ++ decls)
      (feature : FeatureDecl) (listed : feature ∈ decl.features) (unnamed : feature.name = "") :
      Fault decls (.danglingMapping decl.name)
  | unknownSupertype (decl : ConceptDecl) (member : decl ∈ ConceptDecl.builtins ++ decls)
      (sup : String) (listed : sup ∈ decl.supertypes) (absent : ¬ Declared decls sup) :
      Fault decls (.unknownSupertype decl.name sup)
  | unknownTarget (decl : ConceptDecl) (member : decl ∈ ConceptDecl.builtins ++ decls)
      (feature : FeatureDecl) (listed : feature ∈ decl.features) (target : String)
      (targets : feature.type.target? = some target) (absent : ¬ Declared decls target) :
      Fault decls (.unknownTarget decl.name feature.name target)
  | inheritanceCycle (concept : String) (around : TransGen (Extends decls) concept concept) :
      Fault decls (.inheritanceCycle concept)
  | duplicateFeature (concept feature : String) (declared : Declared decls concept)
      (twice : DeclaredTwice decls concept feature) :
      Fault decls (.duplicateFeature concept feature)

theorem Fault.not_coherent (fault : Fault decls error) : ¬ Coherent decls := by
  intro coherent
  cases fault with
  | duplicateConcept concept twice => exact twice.not_nodup coherent.distinct
  | danglingMapping decl member feature listed unnamed =>
      exact coherent.named decl member feature listed unnamed
  | unknownSupertype decl member sup listed absent =>
      exact absent (coherent.supertypes decl member sup listed)
  | unknownTarget decl member feature listed target targets absent =>
      exact absent (coherent.targets decl member feature listed target targets)
  | inheritanceCycle concept around => exact coherent.acyclic concept around
  | duplicateFeature concept feature declared twice =>
      exact coherent.features concept declared feature twice

section

variable (distinct : ((completed decls).map (·.name)).Nodup)
include distinct

theorem mem_keys_declare_iff : name ∈ (declare decls).keys ↔ Declared decls name := by
  rw [Registry.keys, entries_declare distinct, completed, List.map_map, List.map_map,
    List.mem_map]
  simp only [Function.comp_apply, withBase_name, Declared]

theorem contains_declare_iff : (declare decls).contains name = true ↔ Declared decls name := by
  rw [Registry.contains_iff, mem_keys_declare_iff distinct]

theorem checkTarget_declare_iff {declared : FeatureDecl} :
    checkTarget (declare decls) decl declared = .ok () ↔
      ∀ target, declared.type.target? = some target → Declared decls target := by
  cases found : declared.type.target? with
  | none => simp [checkTarget, found]
  | some target =>
      rw [checkTarget, found]
      by_cases known : (declare decls).contains target = true
      · simpa [known] using (contains_declare_iff distinct).mp known
      · simpa [known] using fun present => known ((contains_declare_iff distinct).mpr present)

end

theorem declared_base : Declared decls Concept.base.name :=
  ⟨.named Concept.base.name, by simp [ConceptDecl.builtins], rfl⟩

theorem checkNamed_eq_ok_iff :
    checkNamed decl = .ok () ↔ ∀ feature ∈ decl.features, feature.name ≠ "" := by
  simp [checkNamed]

theorem fault_of_checkNamed (member : decl ∈ ConceptDecl.builtins ++ decls)
    (failed : checkNamed decl = .error error) : Fault decls error := by
  by_cases dangling : decl.features.any fun feature => feature.name == ""
  · simp only [checkNamed, dangling, if_true, Except.error.injEq] at failed
    obtain ⟨unnamed, listed, empty⟩ := List.any_eq_true.mp dangling
    subst failed
    exact .danglingMapping decl member unnamed listed (by simpa using empty)
  · simp [checkNamed, dangling] at failed

theorem fault_of_checkNames (distinct : ((completed decls).map (·.name)).Nodup)
    (member : decl ∈ ConceptDecl.builtins ++ decls)
    (failed : checkNames (declare decls) decl.withBase = .error error) : Fault decls error := by
  rcases Except.bind_eq_error failed with inSupertypes | ⟨_, _, inTargets⟩
  · obtain ⟨sup, listed, refused⟩ := Except.forM_eq_error inSupertypes
    by_cases known : (declare decls).contains sup = true
    · simp [checkSupertype, known] at refused
    · simp only [checkSupertype, known, withBase_name] at refused
      cases refused
      have absent := known ∘ (contains_declare_iff distinct).mpr
      rcases mem_supertypes_withBase.mp listed with written | ⟨_, _, rfl⟩
      · exact .unknownSupertype decl member sup written absent
      · exact absurd declared_base absent
  · obtain ⟨unmet, listed, refused⟩ := Except.forM_eq_error inTargets
    rw [withBase_features] at listed
    cases found : unmet.type.target? with
    | none => simp [checkTarget, found] at refused
    | some target =>
        by_cases known : (declare decls).contains target = true
        · simp [checkTarget, found, known] at refused
        · simp only [checkTarget, found, known, withBase_name] at refused
          cases refused
          have absent := known ∘ (contains_declare_iff distinct).mpr
          exact .unknownTarget decl member unmet listed target found absent

section

variable (distinct : ((completed decls).map (·.name)).Nodup)
include distinct

theorem ownNames_of_mem (member : decl ∈ ConceptDecl.builtins ++ decls) :
    (ownFeaturesOf (declare decls) decl.name).map (·.name) = decl.features.map (·.name) := by
  simp [ownFeaturesOf_of_mem distinct member, ConceptDecl.ownFeatures, FeatureDecl.ownedBy,
    Function.comp_def]

theorem declared_of_mem_ownNames
    (listed : feature ∈ (ownFeaturesOf (declare decls) name).map (·.name)) :
    Declared decls name := by
  obtain ⟨own, inOwn, _⟩ := List.mem_map.mp listed
  exact exists_decl_of_mem_ownFeaturesOf distinct inOwn

theorem duplicate_inheritedFeatures_iff {ancestry : List String} (once : ancestry.Nodup)
    (reached : ∀ other, other ∈ ancestry ↔ ReflTransGen (Extends decls) name other) :
    ((inheritedFeatures (declare decls) ancestry).map (·.name)).Duplicate feature ↔
      DeclaredTwice decls name feature := by
  rw [inheritedFeatures_eq, List.map_flatMap, duplicate_flatMap_iff (List.nodup_reverse.mpr once)]
  simp only [List.mem_reverse, reached]
  constructor
  · rintro (⟨_, above, twice⟩ | ⟨_, aboveFirst, _, aboveSecond, differ, one, other⟩)
    · obtain ⟨decl, member, rfl⟩ := declared_of_mem_ownNames distinct twice.mem
      exact .within decl member above (ownNames_of_mem distinct member ▸ twice)
    · obtain ⟨first, inFirst, rfl⟩ := declared_of_mem_ownNames distinct one
      obtain ⟨second, inSecond, rfl⟩ := declared_of_mem_ownNames distinct other
      rw [ownNames_of_mem distinct inFirst] at one
      rw [ownNames_of_mem distinct inSecond] at other
      exact .across first second inFirst inSecond aboveFirst aboveSecond differ one other
  · rintro (⟨decl, member, above, twice⟩ |
      ⟨first, second, inFirst, inSecond, aboveFirst, aboveSecond, differ, one, other⟩)
    · exact Or.inl ⟨decl.name, above, by rwa [ownNames_of_mem distinct member]⟩
    · refine Or.inr ⟨first.name, aboveFirst, second.name, aboveSecond, differ, ?_, ?_⟩
      · rwa [ownNames_of_mem distinct inFirst]
      · rwa [ownNames_of_mem distinct inSecond]

/-- Once the ancestries are found, the features of a concept repeat a name exactly if it is
declared twice. -/
theorem duplicate_assemble_iff (searched : Ancestry.all (declare decls) = .ok known)
    (member : decl ∈ completed decls) :
    ((assemble (declare decls) known decl).features.map (·.name)).Duplicate feature ↔
      DeclaredTwice decls decl.name feature := by
  obtain ⟨sound, complete⟩ := Ancestry.sound_all searched
  have declared : decl.name ∈ (declare decls).keys := by
    simpa [Registry.keys, entries_declare distinct] using ⟨decl, member, rfl⟩
  obtain ⟨ancestry, found⟩ := complete decl.name declared
  simp only [assemble, found, Option.getD_some]
  refine duplicate_inheritedFeatures_iff distinct (sound.nodup found) fun other => ?_
  rw [sound.mem_iff found, extends_declare distinct]

theorem fault_of_completeConcept (searched : Ancestry.all (declare decls) = .ok known)
    (member : decl ∈ completed decls)
    (failed : completeConcept (declare decls) known decl = .error error) :
    Fault decls error := by
  unfold completeConcept at failed
  dsimp only at failed
  cases repeated : firstRepeat? []
      ((inheritedFeatures (declare decls) ((known.get? decl.name).getD [])).map (·.name)) with
  | none => simp [repeated] at failed
  | some clash =>
      rw [repeated] at failed
      cases failed
      have twice := (duplicate_of_firstRepeat? repeated).resolve_left (by simp)
      have declared : Declared decls decl.name := by
        obtain ⟨original, inDecls, rfl⟩ := List.mem_map.mp member
        exact ⟨original, inDecls, (withBase_name original).symm⟩
      exact .duplicateFeature decl.name clash declared
        ((duplicate_assemble_iff distinct searched member).mp twice)

end

theorem Built.coherent (built : Built decls schema known) : Coherent decls where
  distinct := by simpa [completed, Function.comp_def] using built.distinct
  named decl member := checkNamed_eq_ok_iff.mp (built.named decl member)
  supertypes decl member sup listed := by
    have direct : Extends decls decl.name sup := ⟨decl, member, rfl, Or.inl listed⟩
    exact built.contains_iff.mp (built.contains_of_extends direct)
  targets decl member feature listed := by
    have checked := built.namesKnown decl.withBase (List.mem_map_of_mem member)
    obtain ⟨_, _, targets⟩ := Except.bind_eq_ok_iff.mp checked
    have accepted := Except.forM_eq_ok_iff.mp targets feature (by simpa using listed)
    exact (checkTarget_declare_iff built.distinct).mp accepted
  acyclic name around := by
    obtain ⟨sup, ⟨decl, member, named, _⟩, _⟩ := TransGen.head'_iff.mp around
    have declared := (mem_keys_declare_iff built.distinct).mpr ⟨decl, member, named⟩
    obtain ⟨ancestry, found⟩ := (Ancestry.sound_all built.ancestries).2 name declared
    rw [← extends_declare built.distinct] at around
    exact built.sound.acyclic found around
  features := by
    rintro _ ⟨decl, member, rfl⟩ feature twice
    have inCompleted : decl.withBase ∈ completed decls := List.mem_map_of_mem member
    rw [← withBase_name, ← duplicate_assemble_iff built.distinct built.ancestries inCompleted]
      at twice
    exact twice.not_nodup (built.featuresDistinct decl.withBase inCompleted)

theorem fault_of_build (failed : build decls = .error error) : Fault decls error := by
  unfold build at failed
  dsimp only at failed
  cases repeated : firstRepeat? [] ((ConceptDecl.builtins ++ decls).map (·.name)) with
  | some concept =>
      rw [repeated] at failed
      cases failed
      have twice := (duplicate_of_firstRepeat? repeated).resolve_left (by simp)
      exact .duplicateConcept concept twice
  | none =>
      have distinct : ((completed decls).map (·.name)).Nodup := by
        simpa [completed, Function.comp_def] using (firstRepeat?_eq_none_iff.mp repeated).1
      simp only [repeated, values_declare distinct] at failed
      rcases Except.bind_eq_error failed with unnamed | ⟨_, _, failed⟩
      · obtain ⟨decl, member, refused⟩ := Except.forM_eq_error unnamed
        exact fault_of_checkNamed member refused
      rcases Except.bind_eq_error failed with unknown | ⟨_, namesKnown, failed⟩
      · obtain ⟨_, member, refused⟩ := Except.forM_eq_error unknown
        obtain ⟨decl, inDecls, rfl⟩ := List.mem_map.mp member
        exact fault_of_checkNames distinct inDecls refused
      -- From here on every supertype is declared: only a cycle can stop the search.
      rcases Except.bind_eq_error failed with endless | ⟨known, searched, failed⟩
      · have checked := Except.forM_eq_ok_iff.mp namesKnown
        have closed (sub sup : String) (direct : Ancestry.Extends (declare decls) sub sup) :
            sup ∈ (declare decls).keys := mem_keys_of_extends distinct checked direct
        obtain ⟨concept, rfl, around⟩ := Ancestry.cycle_of_all_eq_error closed endless
        rw [extends_declare distinct] at around
        exact .inheritanceCycle concept around
      rcases Except.bind_eq_error failed with clashing | ⟨_, _, result⟩
      · obtain ⟨decl, member, refused⟩ := Except.mapM_eq_error clashing
        exact fault_of_completeConcept distinct searched member refused
      · cases result

/-- Exactly the coherent declarations can be built, and the error that building others
gives names one of their faults. -/
theorem build_ok_iff_coherent (decls : List ConceptDecl) :
    ((∃ schema, build decls = .ok schema) ↔ Coherent decls) ∧
      ∀ error, build decls = .error error → Fault decls error := by
  refine ⟨⟨fun ⟨schema, built⟩ => ?_, fun coherent => ?_⟩, fun error => fault_of_build⟩
  · obtain ⟨known, built⟩ := build_eq_ok built
    exact built.coherent
  · cases built : build decls with
    | ok schema => exact ⟨schema, rfl⟩
    | error reason => exact absurd coherent (fault_of_build built).not_coherent

/-- Two concepts without a common supertype but the base, with a feature of one name, and
a subtype of both. -/
def clashingDecls : List ConceptDecl :=
  [(ConceptDecl.named "Named").addFeature "label" .attribute,
    (ConceptDecl.named "Marked").addFeature "label" .attribute,
    ((ConceptDecl.named "Entry").extend "Named").extend "Marked"]

/-- One feature, inherited by two ways. -/
def diamondDecls : List ConceptDecl :=
  [(ConceptDecl.named "Top").addFeature "label" .attribute,
    (ConceptDecl.named "Named").extend "Top", (ConceptDecl.named "Marked").extend "Top",
    ((ConceptDecl.named "Entry").extend "Named").extend "Marked"]

theorem build_ok_iff_coherent_diamond :
    Fault clashingDecls (.duplicateFeature "Entry" "label") ∧ ¬ Coherent clashingDecls ∧
      Coherent diamondDecls := by
  have clashing : (build clashingDecls).map (fun _ => ()) =
      .error (.duplicateFeature "Entry" "label") := by
    decide +kernel
  have sharing : (build diamondDecls).isOk = true := by
    decide +kernel
  have clashes := build_ok_iff_coherent clashingDecls
  have shares := build_ok_iff_coherent diamondDecls
  cases refused : build clashingDecls with
  | ok schema => simp [refused, Except.map] at clashing
  | error reason =>
      cases built : build diamondDecls with
      | error reason => simp [built, Except.isOk, Except.toBool] at sharing
      | ok schema =>
          simp only [refused, Except.map, Except.error.injEq] at clashing
          subst clashing
          refine ⟨clashes.2 _ refused, fun coherent => ?_, shares.1.mp ⟨schema, built⟩⟩
          obtain ⟨_, accepted⟩ := clashes.1.mpr coherent
          simp [refused] at accepted

end TypedTree.Schema
