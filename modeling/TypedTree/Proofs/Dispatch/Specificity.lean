import TypedTree.Proofs.Dispatch

namespace TypedTree

open Relation

variable {R : Type} {decls : List ConceptDecl} {schema : Schema} {name : String}
  {concept : Concept} {policy : DispatchPolicy}

theorem sortNames_eq_of_perm {first second : List String} (same : first.Perm second) :
    DispatchTable.sortNames first = DispatchTable.sortNames second := by
  refine List.Perm.eq_of_pairwise (fun _ _ _ _ => le_antisymm)
    (List.pairwise_mergeSort' (· ≤ ·) first) (List.pairwise_mergeSort' (· ≤ ·) second) ?_
  exact (sortNames_perm first).trans (same.trans (sortNames_perm second).symm)

theorem mem_of_head?_sortNames {names : List String} {next : String}
    (picked : (DispatchTable.sortNames names).head? = some next) : next ∈ names :=
  (sortNames_perm names).mem_iff.mp (List.mem_of_mem_head? picked)

theorem exists_head?_sortNames {names : List String} (nonempty : names ≠ []) :
    ∃ next, (DispatchTable.sortNames names).head? = some next := by
  rw [← Option.isSome_iff_exists, List.isSome_head?]
  exact fun empty => nonempty (List.perm_nil.mp (empty ▸ (sortNames_perm names).symm))

theorem Schema.Built.orderedOn {known : Ancestry.Known} (built : Schema.Built decls schema known)
    (names : List String) : OrderedOn schema.isSubtype names where
  trans _ _ _ _ _ _ := built.isSubtype_trans
  antisymm _ _ _ _ := built.isSubtype_antisymm

/-- Below every one of `names` there is a most specific one. -/
theorem exists_mostSpecific_below {known : Ancestry.Known}
    (built : Schema.Built decls schema known) (found : schema.concept? name = some concept)
    {names : Set String} (above : ∀ other ∈ names, ReflTransGen (Schema.Extends decls) name other)
    {high : String} (member : high ∈ names) :
    ∃ low ∈ mostSpecific decls names, ReflTransGen (Schema.Extends decls) low high := by
  let under : Set String := {other | other ∈ names ∧ ReflTransGen (Schema.Extends decls) other high}
  have nonempty : mostSpecific decls under ≠ ∅ := by
    rw [Ne, mostSpecific_eq_empty_iff built found fun other isUnder => above other isUnder.1]
    exact Set.nonempty_iff_ne_empty.mp ⟨high, member, .refl⟩
  obtain ⟨low, ⟨inNames, below⟩, lowest⟩ := Set.nonempty_iff_ne_empty.mpr nonempty
  refine ⟨low, ⟨inNames, fun other inOther lower => ?_⟩, below⟩
  exact lowest other ⟨inOther, lower.trans below⟩ lower

section

variable {rule : String → Option R} {best : Set String} {single : String}
  {answer : Except DispatchError (Option R)}

/-- Both policies select the only candidate. -/
theorem Verdict.eq_of_alone (verdict : Verdict rule name best policy answer)
    (alone : best = {single}) : answer = .ok (rule single) := by
  cases policy with
  | nameOrder => exact verdict.unique (.smallest (alone ▸ isLeast_singleton))
  | strict => exact verdict.unique (.only alone)

theorem Verdict.exists_alone {selected : R}
    (verdict : Verdict rule name best .strict (.ok (some selected))) :
    ∃ single, best = {single} := by
  generalize isAnswer : (.ok (some selected) : Except DispatchError (Option R)) = answer at verdict
  cases verdict with
  | nothing => cases isAnswer
  | only alone => exact ⟨_, alone⟩
  | ambiguous => cases isAnswer

end

namespace DispatchTable

variable {table other : DispatchTable R}

theorem specificityOrder_perm (table : DispatchTable R) :
    table.specificityOrder.Perm table.rules.keys :=
  linearize_perm fun _ _ => mem_of_head?_sortNames

theorem specificityOrder_nodup (table : DispatchTable R) : table.specificityOrder.Nodup :=
  table.specificityOrder_perm.nodup_iff.mpr table.rules.keys_nodup

section

variable {known : Ancestry.Known} (built : Schema.Built decls table.schema known)
include built

/-- No concept comes before one of its subtypes. -/
theorem specificityOrder_pairwise :
    table.specificityOrder.Pairwise fun earlier later =>
      table.schema.isSubtype later earlier = false :=
  linearize_pairwise (built.orderedOn _) table.rules.keys_nodup
    (fun _ _ => mem_of_head?_sortNames) fun _ => exists_head?_sortNames

theorem specificityOrder_eq_of_perm (schemas : other.schema = table.schema)
    (keys : table.rules.keys.Perm other.rules.keys) :
    other.specificityOrder = table.specificityOrder := by
  rw [specificityOrder, schemas]
  refine (linearize_eq_of_perm (built.orderedOn _) (fun _ => exists_head?_sortNames)
    (fun first second same => ?_) keys).symm
  rw [sortNames_eq_of_perm same]

/-- Where one rule is the most specific, it is the first of the order that applies. -/
theorem find?_specificityOrder (found : table.schema.concept? name = some concept)
    {single : String}
    (alone : mostSpecific decls (applicable decls table.rules.get? name) = {single}) :
    table.specificityOrder.find? concept.isA = some single := by
  have best : single ∈ mostSpecific decls (applicable decls table.rules.get? name) :=
    alone ▸ Set.mem_singleton single
  obtain ⟨listed, isA⟩ := List.mem_filter.mp ((mem_applicable_iff built found).mp best.1)
  have inOrder := table.specificityOrder_perm.mem_iff.mpr listed
  cases search : table.specificityOrder.find? concept.isA with
  | none => exact absurd isA (List.find?_eq_none.mp search single inOrder)
  | some first =>
      obtain ⟨firstIsA, before, after, parts, misses⟩ := List.find?_eq_some_iff_append.mp search
      have firstListed : first ∈ table.rules.keys :=
        table.specificityOrder_perm.mem_iff.mp (parts ▸ by simp)
      have applies := (mem_applicable_iff built found).mpr
        (List.mem_filter.mpr ⟨firstListed, firstIsA⟩)
      obtain ⟨low, isBest, below⟩ :=
        exists_mostSpecific_below built found (fun _ member => member.2) applies
      rw [alone, Set.mem_singleton_iff] at isBest
      subst isBest
      have lower := (isSubtype_iff_of_reached built found best.1.2).mpr below
      have ordered := table.specificityOrder_pairwise built
      rw [parts] at inOrder ordered
      -- The rule cannot come later, for then its concept would be listed after a supertype.
      rcases List.mem_append.mp inOrder with earlier | here
      · simpa [isA] using misses low earlier
      · rcases List.mem_cons.mp here with same | later
        · rw [same]
        · have apart := List.rel_of_pairwise_cons (List.pairwise_append.mp ordered).2.1 later
          rw [lower] at apart
          cases apart

end

/-- The order that a table remembers is the one it would find. -/
def RemembersOrder (table : DispatchTable R) : Prop :=
  ∀ order, table.order = some order → order = table.specificityOrder

theorem RemembersOrder.orderedConcepts_eq (remembers : table.RemembersOrder) :
    table.orderedConcepts.1 = table.specificityOrder := by
  cases remembered : table.order with
  | none => simp only [orderedConcepts, remembered]
  | some order =>
      simp only [orderedConcepts, remembered]
      exact remembers order remembered

theorem RemembersOrder.perform (remembers : table.RemembersOrder) (call : DispatchCall R) :
    (table.perform call).RemembersOrder := by
  cases call with
  | register name rule =>
      cases registered : table.register name rule with
      | error reason => simpa only [DispatchTable.perform, registered] using remembers
      | ok grown =>
          obtain ⟨_, _, rfl⟩ := register_eq_ok registered
          simp only [DispatchTable.perform, registered]
          intro order stored
          cases stored
  | lookup concept =>
      cases remembered : table.selected.get? concept.name with
      | none =>
          simp only [DispatchTable.perform, lookup, remembered]
          exact remembers
      | some selection => simpa only [DispatchTable.perform, lookup, remembered] using remembers
  | orderedConcepts =>
      cases remembered : table.order with
      | some order =>
          simpa only [DispatchTable.perform, orderedConcepts, remembered] using remembers
      | none =>
          simp only [DispatchTable.perform, orderedConcepts, remembered]
          exact fun order stored => (Option.some.inj stored).symm

theorem remembersOrder_run (schema : Schema) (policy : DispatchPolicy)
    (calls : List (DispatchCall R)) : (run schema policy calls).RemembersOrder := by
  induction calls using List.reverseRecOn with
  | nil =>
      intro order stored
      cases stored
  | append_singleton calls call ih =>
      rw [run, List.foldl_append]
      exact ih.perform call

theorem orderedConcepts_run (schema : Schema) (policy : DispatchPolicy)
    (calls : List (DispatchCall R)) :
    (run schema policy calls).orderedConcepts.1 = (run schema policy calls).specificityOrder :=
  (remembersOrder_run schema policy calls).orderedConcepts_eq

theorem registered_isSome_iff {calls : List (DispatchCall R)} :
    (DispatchCall.registered schema calls name).isSome = true ↔
      schema.contains name = true ∧ ∃ rule, .register name rule ∈ calls := by
  rw [DispatchCall.registered, List.findSome?_isSome_iff]
  constructor
  · rintro ⟨call, member, brings⟩
    cases call with
    | register other rule =>
        obtain ⟨rfl, isKnown⟩ := Option.isSome_ite.mp brings
        exact ⟨isKnown, rule, member⟩
    | lookup _ | orderedConcepts => cases brings
  · rintro ⟨isKnown, rule, member⟩
    exact ⟨_, member, by simp [DispatchCall.rule?, isKnown]⟩

theorem mem_keys_run_iff {calls : List (DispatchCall R)} :
    name ∈ (run schema policy calls).rules.keys ↔
      (DispatchCall.registered schema calls name).isSome = true := by
  rw [← (reflects_run calls : (run schema policy calls).Reflects schema policy calls).rules,
    Registry.get?_isSome_iff]

/-- After any history of calls the order lists the concepts that have rules, each once and
never before one of its subtypes. Any other history that leaves rules for the same concepts
gives the same list. -/
theorem orderedConcepts_run_canonical (built : Schema.build decls = .ok schema)
    (policy : DispatchPolicy) (calls : List (DispatchCall R)) :
    (run schema policy calls).orderedConcepts.1.Nodup ∧
    (∀ name, name ∈ (run schema policy calls).orderedConcepts.1 ↔
      (DispatchCall.registered schema calls name).isSome = true) ∧
    (run schema policy calls).orderedConcepts.1.Pairwise (fun earlier later =>
      ¬ ReflTransGen (Schema.Extends decls) later earlier) ∧
    ∀ (other : DispatchPolicy) (others : List (DispatchCall R)),
      (∀ name, (DispatchCall.registered schema others name).isSome =
        (DispatchCall.registered schema calls name).isSome) →
      (run schema other others).orderedConcepts.1 =
        (run schema policy calls).orderedConcepts.1 := by
  obtain ⟨known, parts⟩ := Schema.build_eq_ok built
  have schemas (policy : DispatchPolicy) (calls : List (DispatchCall R)) :
      (run schema policy calls).schema = schema := (reflects_run calls).sameSchema
  have here : Schema.Built decls (run schema policy calls).schema known :=
    (schemas policy calls).symm ▸ parts
  simp only [orderedConcepts_run]
  have listed (name : String) : name ∈ (run schema policy calls).specificityOrder ↔
      (DispatchCall.registered schema calls name).isSome = true := by
    rw [(specificityOrder_perm _).mem_iff, mem_keys_run_iff]
  refine ⟨specificityOrder_nodup _, listed, ?_, fun other others same => ?_⟩
  · refine (specificityOrder_pairwise here).imp_of_mem fun _ inLater apart below => ?_
    rw [schemas, Bool.eq_false_iff] at apart
    have isKnown := (registered_isSome_iff.mp ((listed _).mp inLater)).1
    exact apart (parts.isSubtype_iff.mpr ⟨isKnown, below⟩)
  · refine specificityOrder_eq_of_perm here ?_ ?_
    · rw [schemas, schemas]
    · refine (List.perm_ext_iff_of_nodup (Registry.keys_nodup _) (Registry.keys_nodup _)).mpr
        fun name => ?_
      rw [mem_keys_run_iff, mem_keys_run_iff, same]

/-- The diamond's rules from the top to the bottom; between them the table is asked for its
order and for the lowest concept. -/
def descendingCalls (lowest : Concept) : List (DispatchCall String) :=
  [.register "A" "a", .orderedConcepts, .register "C" "c", .lookup lowest, .register "B" "b",
    .orderedConcepts, .register "D" "d"]

/-- In the opposite order the rules come from the bottom to the top. -/
theorem orderedConcepts_run_canonical_diamond :
    ∃ schema lowest, Schema.build diamondDecls = .ok schema ∧
      schema.concept? "D" = some lowest ∧
      (run schema .strict (descendingCalls lowest)).orderedConcepts.1 = ["D", "B", "C", "A"] ∧
      (run schema .nameOrder (descendingCalls lowest).reverse).orderedConcepts.1 =
        ["D", "B", "C", "A"] ∧
      ¬ ReflTransGen (Schema.Extends diamondDecls) "A" "C" := by
  have listed : (Schema.build diamondDecls).toOption.bind (fun schema =>
      (schema.concept? "D").map fun lowest =>
        (run schema .strict (descendingCalls lowest)).orderedConcepts.1) =
      some ["D", "B", "C", "A"] := by
    cbv
  cases built : Schema.build diamondDecls with
  | error reason =>
      rw [built] at listed
      cases listed
  | ok schema =>
      rw [built] at listed
      obtain ⟨lowest, found, order⟩ := Option.map_eq_some_iff.mp listed
      obtain ⟨_, members, ordered, canonical⟩ :=
        orderedConcepts_run_canonical built .strict (descendingCalls lowest)
      rw [order] at members ordered canonical
      refine ⟨schema, lowest, rfl, found, order, canonical .nameOrder _ fun name => ?_, ?_⟩
      · rw [Bool.eq_iff_iff, registered_isSome_iff, registered_isSome_iff]
        simp only [List.mem_reverse]
      · simp only [List.pairwise_cons] at ordered
        exact ordered.2.2.1 "A" List.mem_cons_self

/-- If one applicable rule is the most specific, both policies give the rule of the first
concept in the order that applies. With the strict policy a rule is given in no other case.
What is asked about are the schema's own concepts. -/
theorem lookup_run_eq_first_ordered (built : Schema.build decls = .ok schema)
    (found : schema.concept? name = some concept) {calls : List (DispatchCall R)}
    (own : ∀ other, .lookup other ∈ calls → other.name = name →
      schema.concept? other.name = some other) :
    ((∃ rule, ((run schema .strict calls).lookup concept).1 = .ok (some rule)) ↔
      ∃ single, mostSpecific decls (applicable decls (DispatchCall.registered schema calls) name) =
        {single}) ∧
    ∀ single,
      mostSpecific decls (applicable decls (DispatchCall.registered schema calls) name) =
        {single} →
      ∀ policy, (run schema policy calls).orderedConcepts.1.find? concept.isA = some single ∧
        ∃ rule, DispatchCall.registered schema calls single = some rule ∧
          ((run schema policy calls).lookup concept).1 = .ok (some rule) := by
  have verdict (policy : DispatchPolicy) := verdict_run policy built found own
  have answered (single : String) (alone : mostSpecific decls
      (applicable decls (DispatchCall.registered schema calls) name) = {single})
      (policy : DispatchPolicy) :
      ∃ rule, DispatchCall.registered schema calls single = some rule ∧
        ((run schema policy calls).lookup concept).1 = .ok (some rule) := by
    have best := Set.eq_singleton_iff_unique_mem.mp alone
    obtain ⟨rule, registered⟩ := Option.isSome_iff_exists.mp best.1.1.1
    exact ⟨rule, registered, registered ▸ (verdict policy).eq_of_alone alone⟩
  refine ⟨⟨fun ⟨rule, given⟩ => (given ▸ verdict .strict).exists_alone, ?_⟩, ?_⟩
  · rintro ⟨single, alone⟩
    obtain ⟨rule, _, given⟩ := answered single alone .strict
    exact ⟨rule, given⟩
  · intro single alone policy
    obtain ⟨known, parts⟩ := Schema.build_eq_ok built
    have reflects : (run schema policy calls).Reflects schema policy calls := reflects_run calls
    have rules : (run schema policy calls).rules.get? = DispatchCall.registered schema calls :=
      funext reflects.rules
    rw [← reflects.sameSchema] at parts found
    rw [orderedConcepts_run]
    exact ⟨find?_specificityOrder parts found (rules ▸ alone), answered single alone policy⟩

/-- The first rule of the order is for the other side of the diamond. -/
def asideCalls (side : Concept) : List (DispatchCall String) :=
  [.register "A" "a", .lookup side, .orderedConcepts, .register "C" "c"]

theorem lookup_run_eq_first_ordered_aside :
    ∃ schema side, Schema.build diamondDecls = .ok schema ∧ schema.concept? "B" = some side ∧
      (run schema .strict (asideCalls side)).orderedConcepts.1 = ["C", "A"] ∧
      mostSpecific diamondDecls
        (applicable diamondDecls (DispatchCall.registered schema (asideCalls side)) "B") = {"A"} ∧
      ∀ policy, (run schema policy (asideCalls side)).orderedConcepts.1.find? side.isA = some "A" ∧
        ((run schema policy (asideCalls side)).lookup side).1 = .ok (some "a") := by
  have evaluated : (Schema.build diamondDecls).toOption.bind (fun schema =>
      (schema.concept? "B").map fun side =>
        let table := run schema .strict (asideCalls side)
        (table.orderedConcepts.1, table.orderedConcepts.1.find? side.isA,
          (table.lookup side).1)) =
      some (["C", "A"], some "A", .ok (some "a")) := by
    cbv
  cases built : Schema.build diamondDecls with
  | error reason =>
      rw [built] at evaluated
      cases evaluated
  | ok schema =>
      rw [built] at evaluated
      obtain ⟨side, found, answers⟩ := Option.map_eq_some_iff.mp evaluated
      simp only [Prod.mk.injEq] at answers
      obtain ⟨order, first, given⟩ := answers
      have own : ∀ other, .lookup other ∈ asideCalls side → other.name = "B" →
          schema.concept? other.name = some other := by
        intro other asked isName
        obtain rfl : other = side := by simpa [asideCalls] using asked
        rw [isName, found]
      obtain ⟨strictly, agrees⟩ := lookup_run_eq_first_ordered built found own
      obtain ⟨single, alone⟩ := strictly.mp ⟨"a", given⟩
      obtain ⟨alsoFirst, rule, registered, answered⟩ := agrees single alone .strict
      cases first.symm.trans alsoFirst
      cases given.symm.trans answered
      refine ⟨schema, side, rfl, found, order, alone, fun policy => ?_⟩
      obtain ⟨isFirst, other, alsoRegistered, isGiven⟩ := agrees "A" alone policy
      cases registered.symm.trans alsoRegistered
      exact ⟨isFirst, isGiven⟩

end DispatchTable

end TypedTree
