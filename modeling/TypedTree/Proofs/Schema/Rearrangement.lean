import TypedTree.Proofs.Schema.Faults

namespace TypedTree

/-! # Declarations in another order

The search for ancestries fills one table for all concepts, and the order of the
declarations decides what is in it when a concept's turn comes. That shows in no ancestry:
each is what merging the ancestries of the supertypes gives with the finished table, and
only one table is of that kind. So a schema depends on the set of its declarations alone.
-/

namespace Ancestry

open Relation

variable {declared others : Registry String ConceptDecl} {known table : Known} {name : String}
  {ancestry listed : List String} {parents : List (List String)}

theorem supertypesOf_congr (same : declared.get? = others.get?) :
    supertypesOf declared = supertypesOf others := by
  funext name
  simp only [supertypesOf, same]

theorem extends_congr (same : declared.get? = others.get?) :
    Extends declared = Extends others := by
  funext sub sup
  simp only [Extends, supertypesOf_congr same]

theorem listed_of_kept {names : List String}
    (kept : ∀ name ancestry, known.get? name = some ancestry → table.get? name = some ancestry)
    (listed : names.map known.get? = parents.map some) :
    names.map table.get? = parents.map some := by
  induction names generalizing parents with
  | nil => exact listed
  | cons name rest ih =>
      cases parents with
      | nil => cases listed
      | cons parent parents =>
          simp only [List.map_cons, List.cons.injEq] at listed ⊢
          exact ⟨kept name parent listed.1, ih listed.2⟩

/-- Merging ancestries gives one list with every table that holds all of them. -/
theorem Sound.merge_congr (sound : Sound declared known) (other : Sound others table)
    (same : declared.get? = others.get?)
    (first : (supertypesOf declared name).map known.get? = parents.map some)
    (second : (supertypesOf others name).map table.get? = parents.map some) :
    merge known name parents = merge table name parents := by
  rw [merge_eq, merge_eq]
  refine congrArg (name :: ·) (linearize_congr fun low member high => ?_)
  rw [mem_firstOccurrences] at member
  obtain ⟨_, inKnown⟩ := sound.found_of_above first ((sound.mem_levels_iff first).mp member)
  obtain ⟨_, inTable⟩ := other.found_of_above second ((other.mem_levels_iff second).mp member)
  rw [Bool.eq_iff_iff, sound.below_iff inKnown, other.below_iff inTable, extends_congr same]

/-- Every ancestry found so far merges those of the supertypes, as the whole table has
them. -/
def Settled (declared : Registry String ConceptDecl) (known : Known) : Prop :=
  ∀ name ancestry, known.get? name = some ancestry →
    ∃ parents, (supertypesOf declared name).map known.get? = parents.map some ∧
      ancestry = merge known name parents

theorem Settled.insert (settled : Settled declared known) (sound : Sound declared known)
    (unknown : known.get? name = none)
    (listed : (supertypesOf declared name).map known.get? = parents.map some) :
    Settled declared (known.insert name (merge known name parents)) := by
  have larger := sound.insert unknown listed
  have kept (other : String) (ancestry : List String) (found : known.get? other = some ancestry) :
      (known.insert name (merge known name parents)).get? other = some ancestry := by
    have differs : other ≠ name := by
      rintro rfl
      rw [unknown] at found
      cases found
    rw [Registry.get?_insert, if_neg differs, found]
  intro other ancestry found
  rw [Registry.get?_insert] at found
  split at found
  case isTrue same =>
    cases found
    subst same
    have again := listed_of_kept kept listed
    exact ⟨parents, again, sound.merge_congr larger rfl listed again⟩
  case isFalse =>
    obtain ⟨earlier, before, rfl⟩ := settled other ancestry found
    have again := listed_of_kept kept before
    exact ⟨earlier, again, sound.merge_congr larger rfl before again⟩

/-- Every successful visit leaves a settled table settled. -/
def Settles (declared : Registry String ConceptDecl)
    (visit : String → Known → Except SchemaError (List String × Known)) : Prop :=
  ∀ name before ancestry after, Sound declared before → Settled declared before →
    visit name before = .ok (ancestry, after) → Settled declared after

theorem Settles.visitAll {path : List String}
    {visit : String → Known → Except SchemaError (List String × Known)}
    (settles : Settles declared visit) (finds : Finds declared path visit) {names : List String}
    {before after : Known} {ancestries : List (List String)} (sound : Sound declared before)
    (settled : Settled declared before)
    (visited : visitAll visit names before = .ok (ancestries, after)) :
    Settled declared after := by
  induction names generalizing before ancestries with
  | nil =>
      cases visited
      exact settled
  | cons name rest ih =>
      rw [Ancestry.visitAll, Except.bind_eq_ok_iff] at visited
      obtain ⟨⟨ancestry, middle⟩, first, remaining⟩ := visited
      rw [Except.bind_eq_ok_iff] at remaining
      obtain ⟨⟨others, last⟩, later, result⟩ := remaining
      cases result
      obtain ⟨soundMiddle, _, _⟩ := finds name before ancestry middle sound first
      exact ih soundMiddle (settles name before ancestry middle sound settled first) later

theorem settles_visit (depth : Nat) (path : List String) :
    Settles declared (visit declared depth path) := by
  induction depth using Nat.strongRecOn generalizing path with
  | ind depth ih =>
      intro name before ancestry after sound settled visited
      obtain ⟨found, rfl⟩ | ⟨unknown, fresh, depth', parents, middle, rfl, above, rfl, rfl⟩ :=
        visit_eq_ok visited
      · exact settled
      · have finds : Finds declared (name :: path) (visit declared depth' (name :: path)) :=
          finds_visit depth' (name :: path)
        obtain ⟨soundMiddle, extended, listed⟩ := finds.visitAll sound above
        have settledMiddle :=
          (ih depth' (Nat.lt_succ_self depth') (name :: path)).visitAll finds sound settled above
        have stillUnknown := extended.apart name List.mem_cons_self unknown
        exact settledMiddle.insert soundMiddle stillUnknown listed

theorem settled_all (searched : all declared = .ok known) : Settled declared known := by
  unfold all at searched
  cases visited : visitAll (visit declared declared.size []) declared.keys ∅ with
  | error reason =>
      rw [visited] at searched
      cases searched
  | ok result =>
      rw [visited] at searched
      cases searched
      exact (settles_visit declared.size []).visitAll (finds_visit declared.size []) sound_empty
        nofun visited

theorem Sound.length_lt (sound : Sound declared known) (found : known.get? name = some ancestry)
    {sup : String} (direct : Extends declared name sup) (above : known.get? sup = some listed) :
    listed.length < ancestry.length := by
  obtain ⟨strict, rfl, linear⟩ := sound.linearizes name ancestry found
  have within : listed ⊆ strict := by
    intro other member
    have reached := (sound.mem_iff above).mp member
    exact (linear.reached other).mpr (TransGen.head' direct reached)
  have shorter := (List.subperm_of_subset (sound.nodup above) within).length_le
  rw [List.length_cons]
  omega

/-- Two searches over declarations that read alike find the same ancestries, in whatever
order they go. -/
theorem Settled.unique (first : Settled declared known) (second : Settled others table)
    (sound : Sound declared known) (other : Sound others table)
    (same : declared.get? = others.get?) (found : known.get? name = some ancestry)
    (also : table.get? name = some listed) : ancestry = listed := by
  -- the ancestries of the supertypes are shorter, and the rest is merging them
  induction length : ancestry.length using Nat.strongRecOn generalizing name ancestry listed with
  | ind bound ih =>
      obtain ⟨parents, inKnown, rfl⟩ := first name ancestry found
      obtain ⟨again, inTable, rfl⟩ := second name listed also
      have agree : ∀ sup ∈ supertypesOf declared name, known.get? sup = table.get? sup := by
        intro sup direct
        obtain ⟨parent, _, above⟩ := exists_parent inKnown direct
        rw [supertypesOf_congr same] at direct
        obtain ⟨beside, _, below⟩ := exists_parent inTable direct
        have shorter := sound.length_lt found (extends_congr same ▸ direct) above
        rw [above, below, ih _ (length ▸ shorter) above below rfl]
      have parentsEq : parents = again := by
        refine List.map_injective_iff.mpr (fun _ _ => Option.some.inj) ?_
        rw [← inKnown, ← inTable, ← supertypesOf_congr same]
        exact List.map_congr_left agree
      subst parentsEq
      exact sound.merge_congr other same inKnown inTable

end Ancestry

namespace Schema

open Relation

variable {decls others : List ConceptDecl} {schema first second : Schema}
  {known table : Ancestry.Known} {name feature : String}

section

variable (rearranged : decls.Perm others)
include rearranged

theorem mem_builtins_append_perm (decl : ConceptDecl) :
    decl ∈ ConceptDecl.builtins ++ decls ↔ decl ∈ ConceptDecl.builtins ++ others :=
  (rearranged.append_left ConceptDecl.builtins).mem_iff

theorem extends_perm : Extends decls = Extends others := by
  funext sub sup
  simp only [Extends, mem_builtins_append_perm rearranged]

theorem declared_perm : Declared decls = Declared others := by
  funext name
  simp only [Declared, mem_builtins_append_perm rearranged]

theorem DeclaredTwice.perm (twice : DeclaredTwice decls name feature) :
    DeclaredTwice others name feature := by
  have members (decl : ConceptDecl) := (mem_builtins_append_perm rearranged decl).mp
  cases twice with
  | within decl member above twice =>
      exact .within decl (members decl member) (extends_perm rearranged ▸ above) twice
  | across first second inFirst inSecond aboveFirst aboveSecond differ one other =>
      rw [extends_perm rearranged] at aboveFirst aboveSecond
      exact .across first second (members first inFirst) (members second inSecond) aboveFirst
        aboveSecond differ one other

theorem Coherent.perm (coherent : Coherent decls) : Coherent others := by
  have members (decl : ConceptDecl) := (mem_builtins_append_perm rearranged decl).mpr
  have names := declared_perm rearranged
  constructor
  case distinct => exact ((rearranged.append_left _).map _).nodup_iff.mp coherent.distinct
  case named => exact fun decl member => coherent.named decl (members decl member)
  case supertypes => exact names ▸ fun decl member => coherent.supertypes decl (members decl member)
  case targets => exact names ▸ fun decl member => coherent.targets decl (members decl member)
  case acyclic => exact extends_perm rearranged ▸ coherent.acyclic
  case features =>
    intro name isDeclared feature twice
    exact coherent.features name (names ▸ isDeclared) feature (twice.perm rearranged.symm)

theorem exists_build_of_perm (built : build decls = .ok schema) :
    ∃ schema, build others = .ok schema := by
  obtain ⟨known, parts⟩ := build_eq_ok built
  cases again : build others with
  | ok schema => exact ⟨schema, rfl⟩
  | error reason =>
      exact absurd (parts.coherent.perm rearranged) (fault_of_build again).not_coherent

theorem completed_perm : (completed decls).Perm (completed others) :=
  (rearranged.append_left _).map _

theorem get?_declare_perm (distinct : ((completed decls).map (·.name)).Nodup)
    (also : ((completed others).map (·.name)).Nodup) :
    (declare decls).get? = (declare others).get? := by
  funext name
  ext decl
  rw [get?_declare_iff distinct, get?_declare_iff also, (completed_perm rearranged).mem_iff]

end

theorem Built.concept?_of_mem (built : Built decls schema known) {decl : ConceptDecl}
    (member : decl ∈ completed decls) :
    schema.concept? decl.name = some (assemble (declare decls) known decl) := by
  refine Registry.mem_entries_iff.mp ?_
  rw [built.entries]
  exact List.mem_map.mpr ⟨decl, member, rfl⟩

theorem Built.get?_known_of_mem (built : Built decls schema known) {decl : ConceptDecl}
    (member : decl ∈ completed decls) :
    known.get? decl.name = some (assemble (declare decls) known decl).ancestry :=
  built.get?_known (built.concept?_of_mem member)

section

variable (rearranged : decls.Perm others) (built : Built decls first known)
  (again : Built others second table)
include rearranged built again

theorem Built.assemble_perm {decl : ConceptDecl} (member : decl ∈ completed decls) :
    assemble (declare decls) known decl = assemble (declare others) table decl := by
  have same := get?_declare_perm rearranged built.distinct again.distinct
  have ancestry := (Ancestry.settled_all built.ancestries).unique
    (Ancestry.settled_all again.ancestries) built.sound again.sound same
    (built.get?_known_of_mem member)
    (again.get?_known_of_mem ((completed_perm rearranged).mem_iff.mp member))
  have features (listed : List String) :
      inheritedFeatures (declare decls) listed = inheritedFeatures (declare others) listed := by
    simp only [inheritedFeatures, same]
  simp only [assemble] at ancestry ⊢
  rw [ancestry, features]

theorem Built.concept?_perm {concept : Concept} (found : first.concept? name = some concept) :
    second.concept? name = some concept := by
  obtain ⟨decl, member, rfl, rfl⟩ := built.mem_completed found
  rw [built.assemble_perm rearranged again member]
  exact again.concept?_of_mem ((completed_perm rearranged).mem_iff.mp member)

end

/-- Declarations in another order can be built as well, and give every concept the same
supertypes, ancestry and features. -/
theorem build_perm (rearranged : decls.Perm others) :
    ((∃ schema, build decls = .ok schema) ↔ ∃ schema, build others = .ok schema) ∧
      ∀ first second, build decls = .ok first → build others = .ok second →
        ∀ name, first.concept? name = second.concept? name := by
  refine ⟨⟨fun ⟨_, built⟩ => exists_build_of_perm rearranged built,
    fun ⟨_, built⟩ => exists_build_of_perm rearranged.symm built⟩, ?_⟩
  intro first second built again name
  obtain ⟨known, parts⟩ := build_eq_ok built
  obtain ⟨table, others⟩ := build_eq_ok again
  ext concept
  exact ⟨parts.concept?_perm rearranged others, others.concept?_perm rearranged.symm parts⟩

/-- Every concept before its supertypes instead of after them: the registries differ in
their order, the concepts in nothing. -/
theorem build_perm_uneven :
    ∃ first second, build unevenDecls = .ok first ∧ build unevenDecls.reverse = .ok second ∧
      first.concepts.keys ≠ second.concepts.keys ∧
      (second.concept? "D").map (·.ancestry) = some ["D", "B", "C", "Y", "A", "Node"] ∧
      ∀ name, first.concept? name = second.concept? name := by
  have rearranged : unevenDecls.Perm unevenDecls.reverse := (List.reverse_perm _).symm
  have answers : (build unevenDecls).toOption.map (fun schema =>
      (schema.concepts.keys, (schema.concept? "D").map (·.ancestry))) =
      some (["Node", "GenericNode", "ErrorNode", "A", "B", "Y", "C", "D"],
        some ["D", "B", "C", "Y", "A", "Node"]) := by
    decide +kernel
  have reversed : (build unevenDecls.reverse).toOption.map (·.concepts.keys) =
      some ["Node", "GenericNode", "ErrorNode", "D", "C", "Y", "B", "A"] := by
    decide +kernel
  obtain ⟨accepted, same⟩ := build_perm rearranged
  cases built : build unevenDecls with
  | error reason =>
      rw [built] at answers
      cases answers
  | ok first =>
      obtain ⟨second, again⟩ := accepted.mp ⟨first, built⟩
      simp only [built, Except.toOption, Option.map_some, Option.some.injEq, Prod.mk.injEq]
        at answers
      simp only [again, Except.toOption, Option.map_some, Option.some.injEq] at reversed
      refine ⟨first, second, rfl, again, ?_, ?_, same first second built again⟩
      · rw [answers.1, reversed]
        decide
      · rw [← same first second built again]
        exact answers.2

end Schema

end TypedTree
