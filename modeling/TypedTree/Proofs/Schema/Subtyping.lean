import TypedTree.Proofs.Schema.Ancestry
import TypedTree.Proofs.Schema.Building

namespace TypedTree

open Relation

namespace Schema

variable {decls : List ConceptDecl} {schema : Schema} {name : String}

/-- `sub` declares `sup` as a supertype, or declares none and so extends the base
concept. -/
def Extends (decls : List ConceptDecl) (sub sup : String) : Prop :=
  ∃ decl ∈ ConceptDecl.builtins ++ decls, decl.name = sub ∧
    (sup ∈ decl.supertypes ∨
      decl.supertypes = [] ∧ sub ≠ Concept.base.name ∧ sup = Concept.base.name)

theorem mem_supertypes_withBase {decl : ConceptDecl} {sup : String} :
    sup ∈ decl.withBase.supertypes ↔ sup ∈ decl.supertypes ∨
      decl.supertypes = [] ∧ decl.name ≠ Concept.base.name ∧ sup = Concept.base.name := by
  unfold ConceptDecl.withBase
  cases supertypes : decl.supertypes with
  | nil =>
      by_cases isBase : decl.name = Concept.base.name
      · simp [supertypes, isBase]
      · simp [isBase]
  | cons first rest => simp [supertypes]

theorem get?_declare_iff (distinct : ((completed decls).map (·.name)).Nodup)
    {decl : ConceptDecl} :
    (declare decls).get? name = some decl ↔ decl ∈ completed decls ∧ decl.name = name := by
  rw [← Registry.mem_entries_iff, entries_declare distinct, List.mem_map]
  constructor
  · intro ⟨other, member, same⟩
    cases same
    exact ⟨member, rfl⟩
  · intro ⟨member, named⟩
    exact ⟨decl, member, by rw [named]⟩

theorem extends_declare (distinct : ((completed decls).map (·.name)).Nodup) :
    Ancestry.Extends (declare decls) = Extends decls := by
  funext sub sup
  rw [Ancestry.extends_iff, Extends, eq_iff_iff]
  constructor
  · intro ⟨completedDecl, found, direct⟩
    obtain ⟨member, named⟩ := (get?_declare_iff distinct).mp found
    obtain ⟨decl, inDecls, rfl⟩ := List.mem_map.mp member
    rw [withBase_name] at named
    exact ⟨decl, inDecls, named, named ▸ mem_supertypes_withBase.mp direct⟩
  · intro ⟨decl, inDecls, named, direct⟩
    have found : (declare decls).get? sub = some decl.withBase :=
      (get?_declare_iff distinct).mpr
        ⟨List.mem_map_of_mem inDecls, (withBase_name decl).trans named⟩
    exact ⟨decl.withBase, found, mem_supertypes_withBase.mpr (named ▸ direct)⟩

theorem checkSupertype_eq_ok_iff {declared : Registry String ConceptDecl} {decl : ConceptDecl}
    {sup : String} :
    checkSupertype declared decl sup = .ok () ↔ declared.contains sup = true := by
  unfold checkSupertype
  split <;> simp_all

theorem mem_keys_of_extends (distinct : ((completed decls).map (·.name)).Nodup)
    (namesKnown : ∀ decl ∈ completed decls, checkNames (declare decls) decl = .ok ())
    {sub sup : String} (direct : Ancestry.Extends (declare decls) sub sup) :
    sup ∈ (declare decls).keys := by
  obtain ⟨decl, found, listed⟩ := Ancestry.extends_iff.mp direct
  have checked := namesKnown decl ((get?_declare_iff distinct).mp found).1
  obtain ⟨_, supertypes, _⟩ := Except.bind_eq_ok_iff.mp checked
  have accepted := Except.forM_eq_ok_iff.mp supertypes sup listed
  simpa using checkSupertype_eq_ok_iff.mp accepted

theorem contains_iff_exists :
    schema.contains name = true ↔ ∃ concept, schema.concept? name = some concept := by
  rw [contains, Registry.contains_iff, ← Registry.get?_isSome_iff, Option.isSome_iff_exists]
  rfl

namespace Built

variable {known : Ancestry.Known} {concept : Concept}

theorem sound (built : Built decls schema known) : Ancestry.Sound (declare decls) known :=
  (Ancestry.sound_all built.ancestries).1

theorem keys_eq (built : Built decls schema known) :
    schema.concepts.keys = (declare decls).keys := by
  rw [Registry.keys, Registry.keys, built.entries, entries_declare built.distinct]
  simp [Function.comp_def]

theorem contains_iff (built : Built decls schema known) :
    schema.contains name = true ↔ ∃ decl ∈ ConceptDecl.builtins ++ decls, decl.name = name := by
  rw [contains, Registry.contains_iff, Registry.keys, built.entries, completed, List.map_map,
    List.map_map, List.mem_map]
  simp only [Function.comp_apply, withBase_name]

theorem get?_known (built : Built decls schema known)
    (found : schema.concept? name = some concept) :
    known.get? name = some concept.ancestry := by
  obtain ⟨decl, member, rfl, rfl⟩ := built.mem_completed found
  have declared : decl.name ∈ (declare decls).keys := by
    rw [← built.keys_eq, ← Registry.contains_iff]
    exact contains_iff_exists.mpr ⟨_, found⟩
  obtain ⟨ancestry, listed⟩ := (Ancestry.sound_all built.ancestries).2 decl.name declared
  rw [assemble, listed]
  rfl

theorem mem_ancestry_iff (built : Built decls schema known)
    (found : schema.concept? name = some concept) {other : String} :
    other ∈ concept.ancestry ↔ ReflTransGen (Extends decls) name other := by
  rw [built.sound.mem_iff (built.get?_known found), extends_declare built.distinct]

theorem ancestry_ordered (built : Built decls schema known)
    (found : schema.concept? name = some concept) :
    concept.ancestry.Pairwise fun earlier later =>
      ¬ ReflTransGen (Extends decls) later earlier := by
  rw [← extends_declare built.distinct]
  exact built.sound.ordered (built.get?_known found)

theorem ancestry_nodup (built : Built decls schema known)
    (found : schema.concept? name = some concept) : concept.ancestry.Nodup :=
  built.sound.nodup (built.get?_known found)

theorem contains_of_extends (built : Built decls schema known) {sub sup : String}
    (direct : Extends decls sub sup) : schema.contains sup = true := by
  rw [← extends_declare built.distinct] at direct
  rw [contains, Registry.contains_iff, built.keys_eq]
  exact mem_keys_of_extends built.distinct built.namesKnown direct

theorem contains_of_reached (built : Built decls schema known) {other : String}
    (registered : schema.contains name = true) (reached : ReflTransGen (Extends decls) name other) :
    schema.contains other = true := by
  cases reached with
  | refl => exact registered
  | tail _ direct => exact built.contains_of_extends direct

/-- Only the base concept extends nothing. -/
theorem exists_extends (built : Built decls schema known) (registered : schema.contains name = true)
    (differs : name ≠ Concept.base.name) : ∃ sup, Extends decls name sup := by
  obtain ⟨decl, member, named⟩ := built.contains_iff.mp registered
  cases supertypes : decl.supertypes with
  | nil => exact ⟨_, decl, member, named, Or.inr ⟨supertypes, differs, rfl⟩⟩
  | cons first rest =>
      exact ⟨first, decl, member, named, Or.inl (supertypes ▸ List.mem_cons_self)⟩

theorem ancestry_last (built : Built decls schema known)
    (found : schema.concept? name = some concept) :
    concept.ancestry.getLast? = some Concept.base.name := by
  have listed := built.get?_known found
  cases List.eq_nil_or_concat concept.ancestry with
  | inl empty =>
      have first := built.sound.head listed
      rw [empty] at first
      cases first
  | inr nonempty =>
      obtain ⟨front, last, parts⟩ := nonempty
      rw [List.concat_eq_append] at parts
      rw [parts] at listed
      have reached : ReflTransGen (Extends decls) name last :=
        (built.mem_ancestry_iff found).mp (by simp [parts])
      have registered := contains_iff_exists.mpr ⟨concept, found⟩
      have isBase : last = Concept.base.name := by
        by_contra differs
        obtain ⟨sup, direct⟩ :=
          built.exists_extends (built.contains_of_reached registered reached) differs
        rw [← extends_declare built.distinct] at direct
        exact built.sound.not_extends_last listed sup direct
      rw [parts, List.getLast?_concat, isBase]

theorem isSubtype_iff (built : Built decls schema known) {sub sup : String} :
    schema.isSubtype sub sup = true ↔
      schema.contains sub = true ∧ ReflTransGen (Extends decls) sub sup := by
  unfold isSubtype
  cases found : schema.concept? sub with
  | none => simp [contains_iff_exists, found]
  | some concept =>
      have registered := contains_iff_exists.mpr ⟨concept, found⟩
      rw [Option.any_some, Concept.isA, List.contains_iff_mem, built.mem_ancestry_iff found]
      exact (and_iff_right registered).symm

theorem isSubtype_refl (built : Built decls schema known)
    (registered : schema.contains name = true) : schema.isSubtype name name = true :=
  built.isSubtype_iff.mpr ⟨registered, .refl⟩

theorem isSubtype_trans (built : Built decls schema known)
    {low middle high : String} (under : schema.isSubtype low middle = true)
    (upward : schema.isSubtype middle high = true) : schema.isSubtype low high = true := by
  obtain ⟨registered, below⟩ := built.isSubtype_iff.mp under
  exact built.isSubtype_iff.mpr ⟨registered, below.trans (built.isSubtype_iff.mp upward).2⟩

theorem isSubtype_antisymm (built : Built decls schema known)
    {first second : String} (up : schema.isSubtype first second = true)
    (down : schema.isSubtype second first = true) : first = second := by
  obtain ⟨registered, above⟩ := built.isSubtype_iff.mp up
  obtain ⟨concept, found⟩ := contains_iff_exists.mp registered
  have below := (built.isSubtype_iff.mp down).2
  rw [← extends_declare built.distinct] at above below
  exact built.sound.antisymm (built.get?_known found) above below

end Built

/-- The declarations of a schema and the ancestries of its concepts agree: every ancestry
is a linear extension of the order that the declared supertypes generate. -/
theorem ancestry_linear_extension (built : build decls = .ok schema) :
    (∀ name, schema.contains name = true ↔
      ∃ decl ∈ ConceptDecl.builtins ++ decls, decl.name = name) ∧
    (∀ name concept, schema.concept? name = some concept →
      concept.name = name ∧
      concept.ancestry.head? = some name ∧
      concept.ancestry.getLast? = some "Node" ∧
      concept.ancestry.Nodup ∧
      (∀ other, other ∈ concept.ancestry ↔ ReflTransGen (Extends decls) name other) ∧
      concept.ancestry.Pairwise fun earlier later =>
        ¬ ReflTransGen (Extends decls) later earlier) ∧
    (∀ sub sup, schema.isSubtype sub sup = true ↔
      schema.contains sub = true ∧ ReflTransGen (Extends decls) sub sup) ∧
    (∀ name, schema.contains name = true → schema.isSubtype name name = true) ∧
    (∀ low middle high, schema.isSubtype low middle = true →
      schema.isSubtype middle high = true → schema.isSubtype low high = true) ∧
    (∀ first second, schema.isSubtype first second = true →
      schema.isSubtype second first = true → first = second) := by
  obtain ⟨known, parts⟩ := build_eq_ok built
  refine ⟨fun name => parts.contains_iff, fun name concept found => ?_,
    fun sub sup => parts.isSubtype_iff, fun name => parts.isSubtype_refl,
    fun low middle high => parts.isSubtype_trans, fun first second => parts.isSubtype_antisymm⟩
  exact ⟨name_of_concept? built found, parts.sound.head (parts.get?_known found),
    parts.ancestry_last found, parts.ancestry_nodup found,
    fun other => parts.mem_ancestry_iff found, parts.ancestry_ordered found⟩

/-- Two supertypes at different distances from the one they share. -/
def unevenDecls : List ConceptDecl :=
  [.named "A", (ConceptDecl.named "B").extend "A", (ConceptDecl.named "Y").extend "A",
    (ConceptDecl.named "C").extend "Y", ((ConceptDecl.named "D").extend "B").extend "C"]

theorem ancestry_linear_extension_uneven :
    ∃ schema, build unevenDecls = .ok schema ∧
      (∀ other, other ∈ ["D", "B", "C", "Y", "A", "Node"] ↔
        ReflTransGen (Extends unevenDecls) "D" other) ∧
      ¬ ReflTransGen (Extends unevenDecls) "A" "Y" := by
  have ancestry : ((build unevenDecls).toOption.bind (·.concept? "D")).map (·.ancestry) =
      some ["D", "B", "C", "Y", "A", "Node"] := by
    decide +kernel
  cases built : build unevenDecls with
  | error reason =>
      rw [built] at ancestry
      cases ancestry
  | ok schema =>
      rw [built] at ancestry
      obtain ⟨concept, found, listed⟩ := Option.map_eq_some_iff.mp ancestry
      have extension := (ancestry_linear_extension built).2.1 "D" concept found
      rw [listed] at extension
      obtain ⟨_, _, _, _, members, ordered⟩ := extension
      refine ⟨schema, rfl, members, ?_⟩
      simp only [List.pairwise_cons] at ordered
      exact ordered.2.2.2.1 "A" List.mem_cons_self

end Schema

end TypedTree
