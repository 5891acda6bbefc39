import TypedTree.Proofs.Schema.Features

namespace TypedTree.Schema

open Relation

variable {decls : List ConceptDecl} {schema : Schema} {known : Ancestry.Known} {name : String}
  {concept : Concept}

/-- The features of a concept, compared with the declarations of the concepts it extends. -/
structure Inherits (decls : List ConceptDecl) (schema : Schema) (concept : Concept) : Prop where
  /-- They are what the concepts of the ancestry declare, each owned by the one that does. -/
  declared : ∀ feature, feature ∈ concept.features ↔
    ∃ decl ∈ ConceptDecl.builtins ++ decls, decl.name ∈ concept.ancestry ∧
      ∃ own ∈ decl.features, feature = own.ownedBy decl.name
  distinct : (concept.features.map (·.name)).Nodup
  /-- What one concept declares stands together, in the order of its declaration. -/
  together : ∀ decl ∈ ConceptDecl.builtins ++ decls, decl.name ∈ concept.ancestry →
    ∃ before after,
      concept.features = before ++ decl.features.map (·.ownedBy decl.name) ++ after ∧
      ∀ feature ∈ before ++ after, feature.owner ≠ decl.name
  /-- No feature comes before one that a strict supertype of its owner declares. -/
  generalFirst : concept.features.Pairwise fun earlier later =>
    schema.isSubtype earlier.owner later.owner = true → earlier.owner = later.owner
  /-- What a supertype says about a feature, the concept says too. -/
  passedDown : ∀ sup general, schema.isSubtype concept.name sup = true →
    schema.concept? sup = some general →
    ∀ feature ∈ general.features, concept.feature? feature.name = some feature

theorem owner_of_mem_ownFeatures {decl : ConceptDecl} {feature : Feature}
    (listed : feature ∈ decl.ownFeatures) : feature.owner = decl.name := by
  obtain ⟨own, _, rfl⟩ := List.mem_map.mp listed
  rfl

section

variable (distinct : ((completed decls).map (·.name)).Nodup)
include distinct

theorem owner_of_mem_ownFeaturesOf {own : Feature}
    (listed : own ∈ ownFeaturesOf (declare decls) name) : own.owner = name := by
  obtain ⟨decl, _, rfl, declares⟩ := (mem_ownFeaturesOf_iff distinct).mp listed
  exact owner_of_mem_ownFeatures declares

theorem owner_mem_of_mem_flatMap {names : List String} {own : Feature}
    (listed : own ∈ names.flatMap (ownFeaturesOf (declare decls))) : own.owner ∈ names := by
  obtain ⟨name, member, declares⟩ := List.mem_flatMap.mp listed
  rwa [owner_of_mem_ownFeaturesOf distinct declares]

end

namespace Built

variable (built : Built decls schema known) (found : schema.concept? name = some concept)
include built found

theorem together_of_mem_ancestry {decl : ConceptDecl}
    (member : decl ∈ ConceptDecl.builtins ++ decls) (above : decl.name ∈ concept.ancestry) :
    ∃ before after, concept.features = before ++ decl.ownFeatures ++ after ∧
      ∀ feature ∈ before ++ after, feature.owner ≠ decl.name := by
  obtain ⟨nearer, further, line⟩ := List.append_of_mem above
  have once := built.ancestry_nodup found
  rw [line, List.nodup_middle, List.nodup_cons] at once
  refine ⟨further.reverse.flatMap (ownFeaturesOf (declare decls)),
    nearer.reverse.flatMap (ownFeaturesOf (declare decls)), ?_, fun feature listed same => ?_⟩
  · rw [built.features_eq found, inheritedFeatures_eq, line]
    simp [ownFeaturesOf_of_mem built.distinct member]
  · -- An owner of the features around would be listed a second time.
    rw [← List.flatMap_append] at listed
    have again := owner_mem_of_mem_flatMap built.distinct listed
    rw [same, List.mem_append, List.mem_reverse, List.mem_reverse] at again
    exact once.1 (List.mem_append.mpr again.symm)

theorem features_general_first :
    concept.features.Pairwise fun earlier later =>
      schema.isSubtype earlier.owner later.owner = true → earlier.owner = later.owner := by
  rw [built.features_eq found, inheritedFeatures_eq, List.pairwise_flatMap]
  constructor
  · intro owner _
    refine List.pairwise_of_forall_mem_list fun earlier first later second _ => ?_
    rw [owner_of_mem_ownFeaturesOf built.distinct first,
      owner_of_mem_ownFeaturesOf built.distinct second]
  · rw [List.pairwise_reverse]
    refine (built.ancestry_ordered found).imp fun apart earlier first later second under => ?_
    rw [owner_of_mem_ownFeaturesOf built.distinct first,
      owner_of_mem_ownFeaturesOf built.distinct second] at under
    exact absurd (built.isSubtype_iff.mp under).2 apart

end Built

/-- Over every schema, the features of a concept are the declarations of its ancestry, block
by block and the most general first, and every subtype has them as they are. -/
theorem features_inherited (built : build decls = .ok schema)
    (found : schema.concept? name = some concept) : Inherits decls schema concept := by
  obtain ⟨known, parts⟩ := build_eq_ok built
  have named := name_of_concept? built found
  refine ⟨fun feature => ?_, parts.features_nodup found, fun decl member above => ?_,
    parts.features_general_first found, fun sup general under higher feature listed => ?_⟩
  · simp only [parts.mem_features_iff found, parts.mem_ancestry_iff found,
      ConceptDecl.ownFeatures, List.mem_map, eq_comm]
  · exact parts.together_of_mem_ancestry found member above
  · have reached := (parts.isSubtype_iff.mp under).2
    rw [named] at reached
    exact parts.feature?_of_above found reached higher
      (Concept.feature?_of_mem (parts.features_nodup higher) listed)

/-- Two ways up to one supertype, with features on every level. -/
def layeredDecls : List ConceptDecl :=
  [(ConceptDecl.named "A").addFeature "id" .attribute,
    ((ConceptDecl.named "B").extend "A").addFeature "left" (.child "A"),
    (((((ConceptDecl.named "C").extend "A").addFeature "note" .attribute).addFeature
      "items" (.children "B")).mapLastFrom "parts"),
    (((ConceptDecl.named "D").extend "B").extend "C").addFeature "own" (.reference "D")]

theorem features_inherited_layered :
    ∃ schema concept, build layeredDecls = .ok schema ∧ schema.concept? "D" = some concept ∧
      concept.features.map (fun feature => (feature.name, feature.owner)) =
        [("id", "A"), ("note", "C"), ("items", "C"), ("left", "B"), ("own", "D")] ∧
      Inherits layeredDecls schema concept ∧
      concept.feature? "items" = some ⟨"items", .children "B", some "parts", "C"⟩ := by
  have evaluated : (build layeredDecls).toOption.map (fun schema =>
      ((schema.concept? "D").map (·.features), (schema.concept? "C").map (·.features),
        schema.isSubtype "D" "C")) =
      some (some [⟨"id", .attribute, none, "A"⟩, ⟨"note", .attribute, none, "C"⟩,
        ⟨"items", .children "B", some "parts", "C"⟩, ⟨"left", .child "A", none, "B"⟩,
        ⟨"own", .reference "D", none, "D"⟩],
        some [⟨"id", .attribute, none, "A"⟩, ⟨"note", .attribute, none, "C"⟩,
          ⟨"items", .children "B", some "parts", "C"⟩], true) := by
    decide +kernel
  cases built : build layeredDecls with
  | error reason =>
      rw [built] at evaluated
      cases evaluated
  | ok schema =>
      simp only [built, Except.toOption, Option.map_some, Option.some.injEq, Prod.mk.injEq,
        Option.map_eq_some_iff] at evaluated
      obtain ⟨⟨concept, found, listed⟩, ⟨general, higher, declares⟩, under⟩ := evaluated
      have inherits := features_inherited built found
      refine ⟨schema, concept, rfl, found, by rw [listed]; rfl, inherits, ?_⟩
      rw [← name_of_concept? built found] at under
      have member : ⟨"items", .children "B", some "parts", "C"⟩ ∈ general.features := by
        simp [declares]
      exact inherits.passedDown "C" general under higher _ member

end TypedTree.Schema
