import TypedTree.Proofs.Except
import TypedTree.Schema.Build

namespace TypedTree

theorem Concept.feature?_of_mem {concept : Concept} {feature : Feature}
    (distinct : (concept.features.map (·.name)).Nodup) (member : feature ∈ concept.features) :
    concept.feature? feature.name = some feature := by
  rw [Concept.feature?]
  generalize concept.features = features at distinct member
  induction features with
  | nil => simp at member
  | cons first rest ih =>
      simp only [List.map_cons, List.nodup_cons] at distinct
      rcases List.mem_cons.mp member with rfl | later
      · simp
      · have differs : first.name ≠ feature.name :=
          fun same => distinct.1 (same ▸ List.mem_map_of_mem later)
        simp [differs, ih distinct.2 later]

namespace Schema

variable {decls : List ConceptDecl} {schema : Schema}

/-- All declarations of a schema, the built-in ones first and completed by the base
concept. -/
def completed (decls : List ConceptDecl) : List ConceptDecl :=
  (ConceptDecl.builtins ++ decls).map ConceptDecl.withBase

@[simp]
theorem withBase_name (decl : ConceptDecl) : decl.withBase.name = decl.name := by
  unfold ConceptDecl.withBase
  split <;> rfl

/-- The concept that a declaration becomes when the ancestries are known. -/
def assemble (declared : Registry String ConceptDecl) (known : Ancestry.Known)
    (decl : ConceptDecl) : Concept :=
  let ancestry := (known.get? decl.name).getD []
  ⟨decl.name, decl.supertypes, ancestry, inheritedFeatures declared ancestry⟩

theorem completeConcept_eq_ok_iff {declared : Registry String ConceptDecl}
    {known : Ancestry.Known} {decl : ConceptDecl} {entry : String × Concept} :
    completeConcept declared known decl = .ok entry ↔
      entry = (decl.name, assemble declared known decl) ∧
        ((assemble declared known decl).features.map (·.name)).Nodup := by
  unfold completeConcept
  dsimp only
  cases repeated : firstRepeat? []
      ((inheritedFeatures declared ((known.get? decl.name).getD [])).map (·.name)) with
  | none =>
      have distinct := (firstRepeat?_eq_none_iff.mp repeated).1
      simp only [Except.ok.injEq]
      exact ⟨fun same => ⟨same.symm, distinct⟩, fun both => both.1.symm⟩
  | some feature =>
      constructor
      · intro failed
        cases failed
      · intro both
        have none := firstRepeat?_eq_none_iff.mpr ⟨both.2, fun _ _ => List.not_mem_nil⟩
        rw [assemble] at none
        rw [none] at repeated
        cases repeated

structure Built (decls : List ConceptDecl) (schema : Schema) (known : Ancestry.Known) :
    Prop where
  distinct : ((completed decls).map (·.name)).Nodup
  named : ∀ decl ∈ ConceptDecl.builtins ++ decls, checkNamed decl = .ok ()
  namesKnown : ∀ decl ∈ completed decls, checkNames (declare decls) decl = .ok ()
  ancestries : Ancestry.all (declare decls) = .ok known
  featuresDistinct : ∀ decl ∈ completed decls,
    ((assemble (declare decls) known decl).features.map (·.name)).Nodup
  entries : schema.concepts.entries =
    (completed decls).map fun decl => (decl.name, assemble (declare decls) known decl)

theorem entries_declare (distinct : ((completed decls).map (·.name)).Nodup) :
    (declare decls).entries = (completed decls).map fun decl => (decl.name, decl) := by
  have pairs : (ConceptDecl.builtins ++ decls).map (fun decl => (decl.name, decl.withBase)) =
      (completed decls).map fun decl => (decl.name, decl) := by
    simp [completed, Function.comp_def]
  rw [declare, pairs]
  exact Registry.entries_ofEntries (by simpa [Function.comp_def] using distinct)

theorem values_declare (distinct : ((completed decls).map (·.name)).Nodup) :
    (declare decls).values = completed decls := by
  simp [Registry.values, entries_declare distinct, Function.comp_def]

theorem build_eq_ok (built : build decls = .ok schema) : ∃ known, Built decls schema known := by
  unfold build at built
  dsimp only at built
  cases repeated : firstRepeat? [] ((ConceptDecl.builtins ++ decls).map (·.name)) with
  | some concept => rw [repeated] at built; cases built
  | none =>
      have distinct : ((completed decls).map (·.name)).Nodup := by
        simpa [completed, Function.comp_def] using (firstRepeat?_eq_none_iff.mp repeated).1
      simp only [repeated, Except.bind_eq_ok_iff, Except.forM_eq_ok_iff,
        values_declare distinct] at built
      obtain ⟨_, named, _, namesKnown, known, ancestries, concepts, mapped, result⟩ := built
      cases result
      obtain ⟨rfl, each⟩ := Except.mapM_eq_ok
        (fun decl => (decl.name, assemble (declare decls) known decl))
        (fun decl entry step => (completeConcept_eq_ok_iff.mp step).1) mapped
      refine ⟨known, distinct, named, namesKnown, ancestries, ?_, ?_⟩
      · exact fun decl member => (completeConcept_eq_ok_iff.mp (each decl member)).2
      · exact Registry.entries_ofEntries (by simpa [Function.comp_def] using distinct)

theorem Built.mem_completed {known : Ancestry.Known} {name : String} {concept : Concept}
    (built : Built decls schema known) (found : schema.concept? name = some concept) :
    ∃ decl ∈ completed decls, decl.name = name ∧
      concept = assemble (declare decls) known decl := by
  have entry := Registry.mem_entries_iff.mpr found
  rw [built.entries] at entry
  obtain ⟨decl, member, same⟩ := List.mem_map.mp entry
  cases same
  exact ⟨decl, member, rfl, rfl⟩

theorem name_of_concept? (built : build decls = .ok schema) {name : String} {concept : Concept}
    (found : schema.concept? name = some concept) : concept.name = name := by
  obtain ⟨known, built⟩ := build_eq_ok built
  obtain ⟨decl, _, rfl, rfl⟩ := built.mem_completed found
  rfl

theorem Built.features_nodup {known : Ancestry.Known} {name : String} {concept : Concept}
    (built : Built decls schema known) (found : schema.concept? name = some concept) :
    (concept.features.map (·.name)).Nodup := by
  obtain ⟨decl, member, _, rfl⟩ := built.mem_completed found
  exact built.featuresDistinct decl member

theorem features_nodup (built : build decls = .ok schema) {name : String} {concept : Concept}
    (found : schema.concept? name = some concept) : (concept.features.map (·.name)).Nodup := by
  obtain ⟨known, built⟩ := build_eq_ok built
  exact built.features_nodup found

end Schema

end TypedTree
