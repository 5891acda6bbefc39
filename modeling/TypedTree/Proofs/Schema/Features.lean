import Mathlib.Data.List.Nodup
import TypedTree.Proofs.Schema.Subtyping

namespace TypedTree.Schema

open Relation

variable {decls : List ConceptDecl} {schema : Schema} {known : Ancestry.Known}
  {name feature : String} {concept : Concept}

@[simp]
theorem withBase_features (decl : ConceptDecl) : decl.withBase.features = decl.features := by
  unfold ConceptDecl.withBase
  split <;> rfl

@[simp]
theorem ownFeatures_withBase (decl : ConceptDecl) :
    decl.withBase.ownFeatures = decl.ownFeatures := by
  simp [ConceptDecl.ownFeatures]

/-- The features that the concept `name` declares itself. -/
def ownFeaturesOf (declared : Registry String ConceptDecl) (name : String) : List Feature :=
  ((declared.get? name).map (·.ownFeatures)).getD []

theorem inheritedFeatures_eq (declared : Registry String ConceptDecl) (ancestry : List String) :
    inheritedFeatures declared ancestry = ancestry.reverse.flatMap (ownFeaturesOf declared) := rfl

section

variable (distinct : ((completed decls).map (·.name)).Nodup)
include distinct

theorem ownFeaturesOf_of_mem {decl : ConceptDecl}
    (member : decl ∈ ConceptDecl.builtins ++ decls) :
    ownFeaturesOf (declare decls) decl.name = decl.ownFeatures := by
  have stored : (declare decls).get? decl.name = some decl.withBase :=
    (get?_declare_iff distinct).mpr ⟨List.mem_map_of_mem member, by simp⟩
  simp [ownFeaturesOf, stored]

theorem exists_decl_of_mem_ownFeaturesOf {own : Feature}
    (listed : own ∈ ownFeaturesOf (declare decls) name) :
    ∃ decl ∈ ConceptDecl.builtins ++ decls, decl.name = name := by
  cases found : (declare decls).get? name with
  | none => simp [ownFeaturesOf, found] at listed
  | some completedDecl =>
      obtain ⟨member, named⟩ := (get?_declare_iff distinct).mp found
      obtain ⟨decl, inDecls, rfl⟩ := List.mem_map.mp member
      exact ⟨decl, inDecls, by simpa using named⟩

theorem mem_ownFeaturesOf_iff {own : Feature} :
    own ∈ ownFeaturesOf (declare decls) name ↔
      ∃ decl ∈ ConceptDecl.builtins ++ decls, decl.name = name ∧ own ∈ decl.ownFeatures := by
  constructor
  · intro listed
    obtain ⟨decl, member, rfl⟩ := exists_decl_of_mem_ownFeaturesOf distinct listed
    exact ⟨decl, member, rfl, ownFeaturesOf_of_mem distinct member ▸ listed⟩
  · rintro ⟨decl, member, rfl, listed⟩
    rwa [ownFeaturesOf_of_mem distinct member]

end

namespace Built

variable (built : Built decls schema known) (found : schema.concept? name = some concept)
include built found

theorem features_eq :
    concept.features = inheritedFeatures (declare decls) concept.ancestry := by
  obtain ⟨decl, _, rfl, rfl⟩ := built.mem_completed found
  rfl

theorem mem_features_iff {inherited : Feature} :
    inherited ∈ concept.features ↔
      ∃ decl ∈ ConceptDecl.builtins ++ decls, ReflTransGen (Extends decls) name decl.name ∧
        inherited ∈ decl.ownFeatures := by
  simp only [built.features_eq found, inheritedFeatures_eq, List.mem_flatMap, List.mem_reverse,
    mem_ownFeaturesOf_iff built.distinct, built.mem_ancestry_iff found]
  constructor
  · rintro ⟨_, above, decl, member, rfl, listed⟩
    exact ⟨decl, member, above, listed⟩
  · rintro ⟨decl, member, above, listed⟩
    exact ⟨decl.name, above, decl, member, rfl, listed⟩

/-- A feature of a concept is the feature of that name of every subtype. -/
theorem feature?_of_above {general : Concept} {above : String} {inherited : Feature}
    (reached : ReflTransGen (Extends decls) name above)
    (higher : schema.concept? above = some general)
    (declares : general.feature? feature = some inherited) :
    concept.feature? feature = some inherited := by
  have named : inherited.name = feature := by simpa using List.find?_some declares
  obtain ⟨decl, member, further, listed⟩ :=
    (built.mem_features_iff higher).mp (List.mem_of_find?_eq_some declares)
  have inherits : inherited ∈ concept.features :=
    (built.mem_features_iff found).mpr ⟨decl, member, reached.trans further, listed⟩
  rw [← named]
  exact Concept.feature?_of_mem (built.features_nodup found) inherits

end Built

section

variable (distinct : ((completed decls).map (·.name)).Nodup)
include distinct

theorem eq_builtin_of_name {decl builtin : ConceptDecl}
    (member : decl ∈ ConceptDecl.builtins ++ decls) (isBuiltin : builtin ∈ ConceptDecl.builtins)
    (same : decl.name = builtin.name) : decl = builtin := by
  have names : ((ConceptDecl.builtins ++ decls).map (·.name)).Nodup := by
    simpa [completed, Function.comp_def] using distinct
  exact List.inj_on_of_nodup_map names member (List.mem_append_left _ isBuiltin) same

/-- Above a built-in concept there are only built-in ones. -/
theorem exists_builtin_of_above {builtin : ConceptDecl}
    (isBuiltin : builtin ∈ ConceptDecl.builtins) {above : String}
    (reached : ReflTransGen (Extends decls) builtin.name above) :
    ∃ other ∈ ConceptDecl.builtins, other.name = above := by
  have bare : ∀ decl ∈ ConceptDecl.builtins, decl.supertypes = [] := by decide
  induction reached with
  | refl => exact ⟨builtin, isBuiltin, rfl⟩
  | tail _ direct ih =>
      obtain ⟨lower, isLower, rfl⟩ := ih
      obtain ⟨decl, member, same, extended⟩ := direct
      cases eq_builtin_of_name distinct member isLower same
      rw [bare lower isLower] at extended
      rcases extended with listed | ⟨_, _, isBase⟩
      · cases listed
      · exact ⟨.named Concept.base.name, List.mem_cons_self, isBase.symm⟩

end

/-- Placeholders have nothing to contain other nodes in. -/
theorem not_isContainment_of_isPlaceholder (built : build decls = .ok schema)
    (found : schema.concept? name = some concept) (placeholder : concept.isPlaceholder = true)
    {feature : Feature} (member : feature ∈ concept.features) :
    feature.type.isContainment = false := by
  have named := name_of_concept? built found
  obtain ⟨known, built⟩ := build_eq_ok built
  obtain ⟨decl, listed, reached, own⟩ := (built.mem_features_iff found).mp member
  obtain ⟨builtin, isBuiltin, rfl⟩ : ∃ builtin ∈ ConceptDecl.builtins, builtin.name = name := by
    rw [← named]
    rcases Bool.or_eq_true_iff.mp placeholder with generic | error
    · exact ⟨.named Concept.generic.name, by decide, (beq_iff_eq.mp generic).symm⟩
    · exact ⟨(ConceptDecl.named Concept.error.name).addFeature Concept.messageFeature.name
        .attribute, by decide, (beq_iff_eq.mp error).symm⟩
  obtain ⟨other, isOther, same⟩ := exists_builtin_of_above built.distinct isBuiltin reached
  cases eq_builtin_of_name built.distinct listed isOther same.symm
  have plain : ∀ decl ∈ ConceptDecl.builtins, ∀ feature ∈ decl.ownFeatures,
      feature.type.isContainment = false := by decide
  exact plain decl isOther feature own

end TypedTree.Schema
