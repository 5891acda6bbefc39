import Mathlib
import TypedTree.Dispatch
import TypedTree.Proofs.Order
import TypedTree.Proofs.Schema.Subtyping

namespace TypedTree

/-! # Selection of rules

Which rule a dispatch table gives for a concept is said here without the table: by the
concepts that have rules and by the declared supertypes. Registering and asking may
alternate in any way; the memory of earlier selections never shows.
-/

open Relation

variable {R : Type} {decls : List ConceptDecl} {schema : Schema} {name : String}
  {concept : Concept} {policy : DispatchPolicy}

theorem sortNames_perm (names : List String) : (DispatchTable.sortNames names).Perm names :=
  List.mergeSort_perm _ _

theorem sortNames_increasing {names : List String} (distinct : names.Nodup) :
    (DispatchTable.sortNames names).Pairwise (· < ·) := by
  have sorted : (DispatchTable.sortNames names).Pairwise (· ≤ ·) := List.pairwise_mergeSort' _ _
  have apart : (DispatchTable.sortNames names).Nodup := (sortNames_perm names).nodup_iff.mpr distinct
  exact (sorted.and apart).imp fun both => lt_of_le_of_ne both.1 both.2

theorem isLeast_of_increasing {first : String} {rest : List String}
    (increasing : (first :: rest).Pairwise (· < ·)) :
    IsLeast {other | other ∈ first :: rest} first := by
  refine ⟨List.mem_cons_self, fun other member => ?_⟩
  rcases List.mem_cons.mp member with same | later
  · exact same.ge
  · exact (List.rel_of_pairwise_cons increasing later).le

theorem diff_of_increasing {first : String} {rest : List String}
    (increasing : (first :: rest).Pairwise (· < ·)) :
    {other | other ∈ first :: rest} \ {first} = {other | other ∈ rest} := by
  ext other
  simp only [Set.mem_sdiff, Set.mem_ofPred_eq, List.mem_cons, Set.mem_singleton_iff]
  constructor
  · exact fun both => both.1.resolve_left both.2
  · intro later
    exact ⟨Or.inr later, (List.rel_of_pairwise_cons increasing later).ne'⟩

/-- The concepts with a rule that are the concept `name` or one of its supertypes. -/
def applicable (decls : List ConceptDecl) (rule : String → Option R) (name : String) :
    Set String :=
  {other | (rule other).isSome = true ∧ ReflTransGen (Schema.Extends decls) name other}

/-- Those of `names` that have no strict subtype among `names`. -/
def mostSpecific (decls : List ConceptDecl) (names : Set String) : Set String :=
  {low | low ∈ names ∧ ∀ other ∈ names, ReflTransGen (Schema.Extends decls) other low →
    other = low}

theorem isSubtype_iff_of_reached {known : Ancestry.Known} (built : Schema.Built decls schema known)
    (found : schema.concept? name = some concept) {low other : String}
    (above : ReflTransGen (Schema.Extends decls) name other) :
    schema.isSubtype other low = true ↔ ReflTransGen (Schema.Extends decls) other low := by
  rw [built.isSubtype_iff]
  exact and_iff_right
    (built.contains_of_reached (Schema.contains_iff_exists.mpr ⟨concept, found⟩) above)

/-- Among supertypes of one concept there are most specific ones. -/
theorem mostSpecific_eq_empty_iff {known : Ancestry.Known}
    (built : Schema.Built decls schema known) (found : schema.concept? name = some concept)
    {names : Set String}
    (above : ∀ other ∈ names, ReflTransGen (Schema.Extends decls) name other) :
    mostSpecific decls names = ∅ ↔ names = ∅ := by
  classical
  constructor
  · intro empty
    by_contra nonempty
    have listed (other : String) : other ∈ concept.ancestry.filter (· ∈ names) ↔ other ∈ names := by
      rw [List.mem_filter, built.mem_ancestry_iff found, decide_eq_true_eq]
      exact and_iff_right_of_imp (above other)
    have ordered : OrderedOn schema.isSubtype (concept.ancestry.filter (· ∈ names)) :=
      ⟨fun _ _ _ _ _ _ => built.isSubtype_trans, fun _ _ _ _ => built.isSubtype_antisymm⟩
    obtain ⟨some, member⟩ := Set.nonempty_iff_ne_empty.mpr nonempty
    obtain ⟨low, isMinimal⟩ :=
      exists_mem_minimal ordered (List.ne_nil_of_mem ((listed some).mpr member))
    obtain ⟨inNames, lowest⟩ := mem_minimal_iff.mp isMinimal
    have best : low ∈ mostSpecific decls names := by
      refine ⟨(listed low).mp inNames, fun other inOther under => ?_⟩
      exact lowest other ((listed other).mpr inOther)
        ((isSubtype_iff_of_reached built found (above other inOther)).mpr under)
    rw [empty] at best
    exact best
  · rintro rfl
    exact Set.eq_empty_of_forall_notMem fun low member => member.1

/-- What a table has to answer for the concept `name`, where `best` are the most specific
concepts whose rules apply. -/
inductive Verdict (rule : String → Option R) (name : String) (best : Set String) :
    DispatchPolicy → Except DispatchError (Option R) → Prop where
  | nothing {policy : DispatchPolicy} (absent : best = ∅) :
      Verdict rule name best policy (.ok none)
  | smallest {first : String} (least : IsLeast best first) :
      Verdict rule name best .nameOrder (.ok (rule first))
  | only {single : String} (alone : best = {single}) :
      Verdict rule name best .strict (.ok (rule single))
  | ambiguous {first second : String} (least : IsLeast best first)
      (next : IsLeast (best \ {first}) second) :
      Verdict rule name best .strict (.error (.ambiguous name first second))

/-- Of two rules for one concept only those of `best` matter. -/
theorem Verdict.congr {rule other : String → Option R} {best : Set String}
    {answer : Except DispatchError (Option R)} (verdict : Verdict rule name best policy answer)
    (same : ∀ low ∈ best, rule low = other low) : Verdict other name best policy answer := by
  cases verdict with
  | nothing absent => exact .nothing absent
  | smallest least =>
      rw [same _ least.1]
      exact .smallest least
  | only alone =>
      rw [same _ (alone ▸ Set.mem_singleton _)]
      exact .only alone
  | ambiguous least next => exact .ambiguous least next

theorem Verdict.unique {rule : String → Option R} {best : Set String}
    {answer other : Except DispatchError (Option R)} (verdict : Verdict rule name best policy answer)
    (again : Verdict rule name best policy other) : answer = other := by
  cases verdict with
  | nothing absent =>
      subst absent
      cases again with
      | nothing => rfl
      | smallest least => exact least.1.elim
      | only alone => exact absurd alone.symm (Set.singleton_ne_empty _)
      | ambiguous least => exact least.1.elim
  | smallest least =>
      cases again with
      | nothing absent => exact absurd (absent ▸ least.1) (Set.notMem_empty _)
      | smallest alsoLeast => rw [least.unique alsoLeast]
  | only alone =>
      cases again with
      | nothing absent => exact absurd (absent ▸ alone).symm (Set.singleton_ne_empty _)
      | only alsoAlone => rw [Set.singleton_injective (alone.symm.trans alsoAlone)]
      | ambiguous least next =>
          subst alone
          exact absurd (next.1.1.trans least.1.symm) next.1.2
  | ambiguous least next =>
      cases again with
      | nothing absent => exact absurd (absent ▸ least.1) (Set.notMem_empty _)
      | only alone =>
          subst alone
          exact absurd (next.1.1.trans least.1.symm) next.1.2
      | ambiguous alsoLeast alsoNext =>
          obtain rfl := least.unique alsoLeast
          obtain rfl := next.unique alsoNext
          rfl

/-- Only where no rule applies is there nothing to answer. -/
theorem Verdict.eq_none_iff {rule : String → Option R} {best : Set String}
    {answer : Except DispatchError (Option R)} (verdict : Verdict rule name best policy answer)
    (ruled : ∀ low ∈ best, (rule low).isSome = true) : answer = .ok none ↔ best = ∅ := by
  have some_of_mem {low : String} (member : low ∈ best) :
      (Except.ok (rule low) : Except DispatchError (Option R)) = .ok none ↔ best = ∅ := by
    refine iff_of_false (fun same => ?_) (Set.nonempty_iff_ne_empty.mp ⟨low, member⟩)
    have isNone : rule low = none := Except.ok.inj same
    simpa [isNone] using ruled low member
  cases verdict with
  | nothing absent => exact iff_of_true rfl absent
  | smallest least => exact some_of_mem least.1
  | only alone => exact some_of_mem (alone ▸ Set.mem_singleton _)
  | ambiguous least =>
      exact iff_of_false nofun (Set.nonempty_iff_ne_empty.mp ⟨_, least.1⟩)

namespace DispatchTable

variable {table : DispatchTable R}

/-- The names that `select` chooses among, in order. -/
def candidates (table : DispatchTable R) (concept : Concept) : List String :=
  sortNames (minimal table.schema.isSubtype (table.rules.keys.filter concept.isA))

theorem candidates_increasing (table : DispatchTable R) (concept : Concept) :
    (table.candidates concept).Pairwise (· < ·) :=
  sortNames_increasing ((table.rules.keys_nodup.filter _).filter _)

section

variable {known : Ancestry.Known} (built : Schema.Built decls table.schema known)
  (found : table.schema.concept? name = some concept)
include built found

theorem mem_applicable_iff {other : String} :
    other ∈ applicable decls table.rules.get? name ↔
      other ∈ table.rules.keys.filter concept.isA := by
  rw [List.mem_filter, ← Registry.get?_isSome_iff, Concept.isA, List.contains_iff_mem,
    built.mem_ancestry_iff found]
  rfl

theorem mem_candidates_iff {low : String} :
    low ∈ table.candidates concept ↔
      low ∈ mostSpecific decls (applicable decls table.rules.get? name) := by
  rw [candidates, (sortNames_perm _).mem_iff, mem_minimal_iff, mostSpecific, Set.mem_ofPred_eq,
    mem_applicable_iff built found]
  refine and_congr_right fun _ => forall_congr' fun other => ?_
  rw [← mem_applicable_iff built found]
  exact forall_congr' fun member => by rw [isSubtype_iff_of_reached built found member.2]

/-- The rule that is found without the memory is the one that has to be answered. -/
theorem verdict_find (named : concept.name = name) :
    Verdict table.rules.get? name
      (mostSpecific decls (applicable decls table.rules.get? name)) table.policy
      (table.find concept) := by
  have best : mostSpecific decls (applicable decls table.rules.get? name) =
      {low | low ∈ table.candidates concept} :=
    Set.ext fun low => (mem_candidates_iff built found).symm
  have increasing := table.candidates_increasing concept
  rw [best, find, select]
  unfold candidates at increasing ⊢
  generalize sortNames (minimal table.schema.isSubtype (table.rules.keys.filter concept.isA)) =
    names at increasing ⊢
  cases names with
  | nil => exact .nothing (by simp)
  | cons first rest =>
      cases table.policy with
      | nameOrder => cases rest <;> exact .smallest (isLeast_of_increasing increasing)
      | strict =>
          cases rest with
          | nil => exact .only (by simp)
          | cons second rest =>
              rw [named]
              refine .ambiguous (isLeast_of_increasing increasing) ?_
              rw [diff_of_increasing increasing]
              exact isLeast_of_increasing (List.Pairwise.of_cons increasing)

/-- Rules for concepts that are no supertypes do not matter. -/
theorem verdict_find_of_agrees (named : concept.name = name) {rule : String → Option R}
    (agrees : ∀ sup, ReflTransGen (Schema.Extends decls) name sup →
      table.rules.get? sup = rule sup) :
    Verdict rule name (mostSpecific decls (applicable decls rule name)) table.policy
      (table.find concept) := by
  have same : applicable decls table.rules.get? name = applicable decls rule name := by
    ext sup
    exact and_congr_left fun above => by rw [agrees sup above]
  have verdict := verdict_find built found named
  rw [same] at verdict
  exact verdict.congr fun low member => agrees low member.1.2

end

theorem find_new (schema : Schema) (policy : DispatchPolicy) (concept : Concept) :
    (new schema policy : DispatchTable R).find concept = .ok none := by
  have empty : (new schema policy : DispatchTable R).rules.keys = [] := rfl
  simp [find, select, empty, minimal, sortNames, Except.map]

theorem register_eq_ok {grown : DispatchTable R} {rule : R}
    (registered : table.register name rule = .ok grown) :
    table.schema.contains name = true ∧ table.rules.get? name = none ∧
      grown = { table with
        rules := table.rules.insert name rule
        selected := ∅
        order := none } := by
  by_cases known : table.schema.contains name = true
  · by_cases taken : name ∈ table.rules.keys
    · simp [register, known, taken] at registered
    · simp only [register, known, Bool.not_true, Bool.false_eq_true, Registry.contains_iff, taken,
        if_false, Except.ok.injEq] at registered
      exact ⟨known, Registry.get?_eq_none_iff.mpr taken, registered.symm⟩
  · simp [register, known] at registered

end DispatchTable

/-- What can be done with a dispatch table. -/
inductive DispatchCall (R : Type) where
  | register (concept : String) (rule : R)
  | lookup (concept : Concept)
  | orderedConcepts

namespace DispatchCall

/-- The rule for the concept `name` that a call brings. -/
def rule? (schema : Schema) (name : String) : DispatchCall R → Option R
  | .register concept rule =>
      if concept = name ∧ schema.contains name = true then some rule else none
  | .lookup _ | .orderedConcepts => none

/-- The rule for the concept `name`: the first that was offered, since later ones are
refused. -/
def registered (schema : Schema) (calls : List (DispatchCall R)) (name : String) : Option R :=
  calls.findSome? (rule? schema name)

end DispatchCall

namespace DispatchTable

/-- The table after a call; a rule that is refused leaves it as it is. -/
def perform (table : DispatchTable R) : DispatchCall R → DispatchTable R
  | .register concept rule =>
      match table.register concept rule with
      | .ok grown => grown
      | .error _ => table
  | .lookup concept => (table.lookup concept).2
  | .orderedConcepts => table.orderedConcepts.2

/-- The table that a history of calls makes out of a new one. -/
def run (schema : Schema) (policy : DispatchPolicy) (calls : List (DispatchCall R)) :
    DispatchTable R :=
  calls.foldl perform (new schema policy)

/-- A table after `calls`: it has the rules that were offered first, and what it remembers
is what it would select again. -/
structure Reflects (table : DispatchTable R) (schema : Schema) (policy : DispatchPolicy)
    (calls : List (DispatchCall R)) : Prop where
  sameSchema : table.schema = schema
  samePolicy : table.policy = policy
  rules : ∀ name, table.rules.get? name = DispatchCall.registered schema calls name
  selected : ∀ name selection, table.selected.get? name = some selection →
    ∃ concept, .lookup concept ∈ calls ∧ concept.name = name ∧ selection = table.select concept

theorem reflects_new : (new schema policy : DispatchTable R).Reflects schema policy [] where
  sameSchema := rfl
  samePolicy := rfl
  rules _ := rfl
  selected _ _ remembered := by cases remembered

section

variable {table : DispatchTable R} {calls : List (DispatchCall R)}
  (reflects : table.Reflects schema policy calls)
include reflects

/-- A call that brings no rule may only add to what is remembered. -/
theorem Reflects.keep {after : DispatchTable R} {call : DispatchCall R}
    (ruleless : ∀ name, call.rule? schema name = none ∨
      (DispatchCall.registered schema calls name).isSome = true)
    (schemas : after.schema = table.schema) (policies : after.policy = table.policy)
    (rules : after.rules = table.rules)
    (selected : ∀ name selection, after.selected.get? name = some selection →
      table.selected.get? name = some selection ∨
        ∃ concept, call = .lookup concept ∧ concept.name = name ∧
          selection = table.select concept) :
    after.Reflects schema policy (calls ++ [call]) where
  sameSchema := schemas.trans reflects.sameSchema
  samePolicy := policies.trans reflects.samePolicy
  rules name := by
    rw [rules, reflects.rules, DispatchCall.registered, DispatchCall.registered,
      List.findSome?_append]
    rcases ruleless name with nothing | offered
    · simp [nothing]
    · obtain ⟨rule, first⟩ := Option.isSome_iff_exists.mp offered
      rw [DispatchCall.registered] at first
      simp [first]
  selected name selection remembered := by
    have same (concept : Concept) : after.select concept = table.select concept := by
      simp only [select, schemas, policies, rules]
    rcases selected name selection remembered with old | new
    · obtain ⟨concept, asked, named, isSelection⟩ := reflects.selected name selection old
      exact ⟨concept, List.mem_append_left _ asked, named, isSelection.trans (same concept).symm⟩
    · obtain ⟨concept, rfl, named, isSelection⟩ := new
      exact ⟨concept, by simp, named, isSelection.trans (same concept).symm⟩

theorem Reflects.register {name : String} {rule : R} :
    (table.perform (.register name rule)).Reflects schema policy
      (calls ++ [.register name rule]) := by
  by_cases unknown : schema.contains name = false
  · have refused : table.perform (.register name rule) = table := by
      simp [perform, DispatchTable.register, reflects.sameSchema, unknown]
    rw [refused]
    refine reflects.keep (fun other => Or.inl ?_) rfl rfl rfl fun _ _ old => Or.inl old
    simp only [DispatchCall.rule?, ite_eq_right_iff, and_imp]
    rintro rfl isKnown
    rw [unknown] at isKnown
    cases isKnown
  · rw [Bool.not_eq_false] at unknown
    by_cases taken : name ∈ table.rules.keys
    · have refused : table.perform (.register name rule) = table := by
        simp [perform, DispatchTable.register, reflects.sameSchema, unknown, taken]
      rw [refused]
      refine reflects.keep (fun other => ?_) rfl rfl rfl fun _ _ old => Or.inl old
      by_cases same : name = other
      · subst same
        rw [← reflects.rules]
        exact Or.inr (Registry.get?_isSome_iff.mpr taken)
      · exact Or.inl (by simp [DispatchCall.rule?, same])
    · have grown : table.perform (.register name rule) =
          { table with rules := table.rules.insert name rule, selected := ∅, order := none } := by
        simp [perform, DispatchTable.register, reflects.sameSchema, unknown, taken]
      rw [grown]
      refine ⟨reflects.sameSchema, reflects.samePolicy, fun other => ?_, fun _ _ remembered => by cases remembered⟩
      have absent := Registry.get?_eq_none_iff.mpr taken
      rw [reflects.rules] at absent
      rw [Registry.get?_insert, reflects.rules, DispatchCall.registered, DispatchCall.registered,
        List.findSome?_append]
      by_cases same : other = name
      · subst same
        rw [DispatchCall.registered] at absent
        simp [absent, DispatchCall.rule?, unknown]
      · simp [same, Ne.symm same, DispatchCall.rule?]

theorem Reflects.lookup (concept : Concept) :
    (table.perform (.lookup concept)).Reflects schema policy (calls ++ [.lookup concept]) := by
  cases remembered : table.selected.get? concept.name with
  | some selection =>
      have same : table.perform (.lookup concept) = table := by
        simp only [perform, DispatchTable.lookup, remembered]
      rw [same]
      exact reflects.keep (fun _ => Or.inl rfl) rfl rfl rfl fun _ _ old => Or.inl old
  | none =>
      simp only [perform, DispatchTable.lookup, remembered]
      refine reflects.keep (fun _ => Or.inl rfl) rfl rfl rfl fun other selection stored => ?_
      rw [Registry.get?_insert] at stored
      split at stored
      case isTrue same =>
        cases stored
        exact Or.inr ⟨concept, rfl, same.symm, rfl⟩
      case isFalse => exact Or.inl stored

theorem Reflects.perform (call : DispatchCall R) :
    (table.perform call).Reflects schema policy (calls ++ [call]) := by
  cases call with
  | register name rule => exact reflects.register
  | lookup concept => exact reflects.lookup concept
  | orderedConcepts =>
      simp only [DispatchTable.perform, orderedConcepts]
      split <;>
        exact reflects.keep (fun _ => Or.inl rfl) rfl rfl rfl fun _ _ old => Or.inl old

/-- Where every earlier question under this name was about this concept, the answer is
the one that is found without the memory. -/
theorem Reflects.lookup_eq_find
    (own : ∀ other, .lookup other ∈ calls → other.name = concept.name → other = concept) :
    (table.lookup concept).1 = table.find concept := by
  cases remembered : table.selected.get? concept.name with
  | none => simp only [DispatchTable.lookup, remembered, find]
  | some selection =>
      obtain ⟨other, asked, named, rfl⟩ := reflects.selected _ _ remembered
      cases own other asked named
      simp only [DispatchTable.lookup, remembered, find]

end

theorem reflects_run (calls : List (DispatchCall R)) :
    (run schema policy calls).Reflects schema policy calls := by
  induction calls using List.reverseRecOn with
  | nil => exact reflects_new
  | append_singleton calls call ih =>
      rw [run, List.foldl_append]
      exact ih.perform call

theorem verdict_run (policy : DispatchPolicy) (built : Schema.build decls = .ok schema)
    (found : schema.concept? name = some concept) {calls : List (DispatchCall R)}
    (own : ∀ other, .lookup other ∈ calls → other.name = name →
      schema.concept? other.name = some other) :
    Verdict (DispatchCall.registered schema calls) name
      (mostSpecific decls (applicable decls (DispatchCall.registered schema calls) name)) policy
      ((run schema policy calls).lookup concept).1 := by
  have named := Schema.name_of_concept? built found
  have same (other : Concept) (asked : .lookup other ∈ calls) (isName : other.name = concept.name) :
      other = concept := by
    have declared := own other asked (isName.trans named)
    rw [isName, named, found] at declared
    exact (Option.some.inj declared).symm
  have reflects : (run schema policy calls).Reflects schema policy calls := reflects_run calls
  obtain ⟨known, parts⟩ := Schema.build_eq_ok built
  have rules : (run schema policy calls).rules.get? = DispatchCall.registered schema calls :=
    funext reflects.rules
  rw [← reflects.sameSchema] at parts found
  have verdict := verdict_find parts found named
  rw [rules, reflects.samePolicy] at verdict
  rwa [reflects.lookup_eq_find same]

/-- The answer for a concept of the schema is determined by the rules that were offered
for the concept and its supertypes, whatever else was registered or asked before, as long as
what is asked about are the schema's own concepts. -/
theorem lookup_run_determined (policy : DispatchPolicy)
    (built : Schema.build decls = .ok schema) (found : schema.concept? name = some concept)
    {calls : List (DispatchCall R)}
    (own : ∀ other, .lookup other ∈ calls → other.name = name →
      schema.concept? other.name = some other) :
    Verdict (DispatchCall.registered schema calls) name
      (mostSpecific decls (applicable decls (DispatchCall.registered schema calls) name)) policy
      ((run schema policy calls).lookup concept).1 ∧
    (((run schema policy calls).lookup concept).1 = .ok none ↔
      applicable decls (DispatchCall.registered schema calls) name = ∅) ∧
    ∀ others : List (DispatchCall R),
      (∀ other, .lookup other ∈ others → other.name = name →
        schema.concept? other.name = some other) →
      (∀ sup, ReflTransGen (Schema.Extends decls) name sup →
        DispatchCall.registered schema others sup = DispatchCall.registered schema calls sup) →
      ((run schema policy others).lookup concept).1 =
        ((run schema policy calls).lookup concept).1 := by
  have verdict := verdict_run policy built found own
  refine ⟨verdict, ?_, fun others ownOthers agree => ?_⟩
  · obtain ⟨known, parts⟩ := Schema.build_eq_ok built
    rw [verdict.eq_none_iff fun low member => member.1.1]
    exact mostSpecific_eq_empty_iff parts found fun other member => member.2
  · have sameApplicable : applicable decls (DispatchCall.registered schema others) name =
        applicable decls (DispatchCall.registered schema calls) name := by
      ext sup
      exact and_congr_left fun above => by rw [agree sup above]
    have other := verdict_run policy built found ownOthers
    rw [sameApplicable] at other
    refine (other.congr fun low member => ?_).unique verdict
    exact agree low member.1.2

def diamondDecls : List ConceptDecl :=
  [.named "A", (ConceptDecl.named "B").extend "A", (ConceptDecl.named "C").extend "A",
    ((ConceptDecl.named "D").extend "B").extend "C"]

/-- Asked about the lowest concept before and after each rule; the second rule for one
concept and the rule for an unknown one are refused. -/
def diamondCalls (lowest : Concept) : List (DispatchCall String) :=
  [.register "A" "a", .lookup lowest, .register "C" "c", .lookup lowest, .register "C" "late",
    .register "Z" "z", .orderedConcepts, .register "B" "b"]

theorem lookup_run_determined_diamond :
    ∃ schema lowest, Schema.build diamondDecls = .ok schema ∧
      schema.concept? "D" = some lowest ∧
      Verdict (DispatchCall.registered schema (diamondCalls lowest)) "D"
        (mostSpecific diamondDecls
          (applicable diamondDecls (DispatchCall.registered schema (diamondCalls lowest)) "D"))
        .strict (.error (.ambiguous "D" "B" "C")) := by
  have answered : (Schema.build diamondDecls).toOption.bind (fun schema =>
      (schema.concept? "D").map fun lowest =>
        ((run schema .strict (diamondCalls lowest)).lookup lowest).1) =
      some (.error (.ambiguous "D" "B" "C")) := by
    cbv
  cases built : Schema.build diamondDecls with
  | error reason =>
      rw [built] at answered
      cases answered
  | ok schema =>
      rw [built] at answered
      obtain ⟨lowest, found, answer⟩ := Option.map_eq_some_iff.mp answered
      have own : ∀ other, .lookup other ∈ diamondCalls lowest → other.name = "D" →
          schema.concept? other.name = some other := by
        intro other asked isName
        obtain rfl : other = lowest := by simpa [diamondCalls] using asked
        rw [isName, found]
      have verdict := (lookup_run_determined .strict built found own).1
      rw [answer] at verdict
      exact ⟨schema, lowest, rfl, found, verdict⟩

end DispatchTable

end TypedTree
