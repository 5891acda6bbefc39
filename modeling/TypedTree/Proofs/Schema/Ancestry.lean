import TypedTree.Proofs.Except
import TypedTree.Proofs.Order
import TypedTree.Schema.Ancestry
import Mathlib.Data.List.Perm.Subperm
import Mathlib.Logic.Relation

namespace TypedTree.Ancestry

/-! # The search for ancestries

Everything in an ancestry that the search has found was found before it. A concept
whose supertypes are being visited is not found yet, so it is in none of their
ancestries, and subtyping among the concepts found so far is an order. The merged
ancestries can therefore be put into an order that respects it.
-/

open Relation

variable {declared : Registry String ConceptDecl} {known : Known} {name : String}

def supertypesOf (declared : Registry String ConceptDecl) (name : String) : List String :=
  ((declared.get? name).map (·.supertypes)).getD []

/-- `sup` is declared as a supertype of `sub`. -/
def Extends (declared : Registry String ConceptDecl) (sub sup : String) : Prop :=
  sup ∈ supertypesOf declared sub

theorem extends_iff {sub sup : String} :
    Extends declared sub sup ↔ ∃ decl, declared.get? sub = some decl ∧ sup ∈ decl.supertypes := by
  unfold Extends supertypesOf
  cases declared.get? sub with
  | none => simp
  | some decl => simp

/-- `above` lists the strict supertypes of `name`, each after its own subtypes. -/
structure Linearizes (declared : Registry String ConceptDecl) (name : String)
    (above : List String) : Prop where
  reached : ∀ other, other ∈ above ↔ TransGen (Extends declared) name other
  ordered : (name :: above).Pairwise fun earlier later =>
    ¬ ReflTransGen (Extends declared) later earlier

/-- Every ancestry found so far is right, and all that it lists has been found. -/
structure Sound (declared : Registry String ConceptDecl) (known : Known) : Prop where
  linearizes : ∀ name ancestry, known.get? name = some ancestry →
    ∃ above, ancestry = name :: above ∧ Linearizes declared name above
  closed : ∀ name ancestry, known.get? name = some ancestry →
    ∀ other ∈ ancestry, ∃ found, known.get? other = some found

theorem sound_empty : Sound declared Registry.empty where
  linearizes _ _ found := nomatch found
  closed _ _ found := nomatch found

namespace Sound

variable {ancestry : List String}

theorem mem_iff (sound : Sound declared known) (found : known.get? name = some ancestry)
    {other : String} : other ∈ ancestry ↔ ReflTransGen (Extends declared) name other := by
  obtain ⟨above, rfl, linear⟩ := sound.linearizes name ancestry found
  rw [List.mem_cons, linear.reached, reflTransGen_iff_eq_or_transGen]

theorem found_of_reached (sound : Sound declared known) (found : known.get? name = some ancestry)
    {other : String} (reached : ReflTransGen (Extends declared) name other) :
    ∃ above, known.get? other = some above :=
  sound.closed name ancestry found other ((sound.mem_iff found).mpr reached)

theorem acyclic (sound : Sound declared known) (found : known.get? name = some ancestry) :
    ¬ TransGen (Extends declared) name name := by
  obtain ⟨above, _, linear⟩ := sound.linearizes name ancestry found
  intro around
  exact (List.pairwise_cons.mp linear.ordered).1 name ((linear.reached name).mpr around) .refl

theorem antisymm (sound : Sound declared known) (found : known.get? name = some ancestry)
    {other : String} (up : ReflTransGen (Extends declared) name other)
    (down : ReflTransGen (Extends declared) other name) : name = other := by
  rcases reflTransGen_iff_eq_or_transGen.mp up with same | strictly
  · exact same.symm
  · exact absurd (strictly.trans_left down) (sound.acyclic found)

theorem head (sound : Sound declared known) (found : known.get? name = some ancestry) :
    ancestry.head? = some name := by
  obtain ⟨above, rfl, _⟩ := sound.linearizes name ancestry found
  rfl

theorem ordered (sound : Sound declared known) (found : known.get? name = some ancestry) :
    ancestry.Pairwise fun earlier later => ¬ ReflTransGen (Extends declared) later earlier := by
  obtain ⟨above, rfl, linear⟩ := sound.linearizes name ancestry found
  exact linear.ordered

theorem nodup (sound : Sound declared known) (found : known.get? name = some ancestry) :
    ancestry.Nodup := by
  refine (sound.ordered found).imp fun {earlier later} apart same => apart ?_
  rw [same]

theorem not_extends_last (sound : Sound declared known) {front : List String} {last : String}
    (found : known.get? name = some (front ++ [last])) (sup : String) :
    ¬ Extends declared last sup := by
  intro direct
  have reached := (sound.mem_iff found).mp (List.mem_append_right front List.mem_cons_self)
  have member := (sound.mem_iff found).mpr (reached.tail direct)
  rcases List.mem_append.mp member with earlier | same
  · have before := (List.pairwise_append.mp (sound.ordered found)).2.2
    exact before sup earlier last List.mem_cons_self (.single direct)
  · cases List.mem_singleton.mp same
    obtain ⟨_, foundLast⟩ := sound.found_of_reached found reached
    exact sound.acyclic foundLast (.single direct)

end Sound

def below (known : Known) (sub sup : String) : Bool := ((known.get? sub).getD []).contains sup

theorem merge_eq (known : Known) (name : String) (parents : List (List String)) :
    merge known name parents =
      name :: linearize (below known) List.head? (firstOccurrences (levels parents)) := rfl

theorem Sound.below_iff (sound : Sound declared known) {sub sup : String} {ancestry : List String}
    (found : known.get? sub = some ancestry) :
    below known sub sup = true ↔ ReflTransGen (Extends declared) sub sup := by
  rw [below, found, Option.getD_some, List.contains_iff_mem, sound.mem_iff found]

theorem Sound.orderedOn (sound : Sound declared known) {names : List String}
    (all : ∀ name ∈ names, ∃ ancestry, known.get? name = some ancestry) :
    OrderedOn (below known) names where
  trans low inLow middle inMiddle _ _ under upward := by
    obtain ⟨_, lowFound⟩ := all low inLow
    obtain ⟨_, middleFound⟩ := all middle inMiddle
    rw [sound.below_iff lowFound] at under ⊢
    exact under.trans ((sound.below_iff middleFound).mp upward)
  antisymm first inFirst second inSecond up down := by
    obtain ⟨_, firstFound⟩ := all first inFirst
    obtain ⟨_, secondFound⟩ := all second inSecond
    exact sound.antisymm firstFound ((sound.below_iff firstFound).mp up)
      ((sound.below_iff secondFound).mp down)

section

variable {parents : List (List String)}

theorem exists_parent (listed : (supertypesOf declared name).map known.get? = parents.map some)
    {sup : String} (direct : Extends declared name sup) :
    ∃ parent ∈ parents, known.get? sup = some parent := by
  have inMap : known.get? sup ∈ parents.map some := listed ▸ List.mem_map_of_mem direct
  obtain ⟨parent, inParents, found⟩ := List.mem_map.mp inMap
  exact ⟨parent, inParents, found.symm⟩

theorem Sound.found_of_above (sound : Sound declared known)
    (listed : (supertypesOf declared name).map known.get? = parents.map some) {other : String}
    (reached : TransGen (Extends declared) name other) :
    ∃ ancestry, known.get? other = some ancestry := by
  obtain ⟨sup, direct, rest⟩ := TransGen.head'_iff.mp reached
  obtain ⟨parent, _, found⟩ := exists_parent listed direct
  exact sound.found_of_reached found rest

theorem Sound.mem_levels_iff (sound : Sound declared known)
    (listed : (supertypesOf declared name).map known.get? = parents.map some) {other : String} :
    other ∈ levels parents ↔ TransGen (Extends declared) name other := by
  rw [mem_levels, TransGen.head'_iff]
  constructor
  · intro ⟨parent, inParents, member⟩
    have inMap : some parent ∈ (supertypesOf declared name).map known.get? :=
      listed ▸ List.mem_map_of_mem inParents
    obtain ⟨sup, direct, found⟩ := List.mem_map.mp inMap
    exact ⟨sup, direct, (sound.mem_iff found).mp member⟩
  · intro ⟨sup, direct, reached⟩
    obtain ⟨parent, inParents, found⟩ := exists_parent listed direct
    exact ⟨parent, inParents, (sound.mem_iff found).mpr reached⟩

/-- Once all supertypes of a new concept are found, merging their ancestries gives its own. -/
theorem Sound.linearizes_merge (sound : Sound declared known) (unknown : known.get? name = none)
    (listed : (supertypesOf declared name).map known.get? = parents.map some) :
    Linearizes declared name
      (linearize (below known) List.head? (firstOccurrences (levels parents))) := by
  have picked (candidates : List String) (next : String) (first : candidates.head? = some next) :
      next ∈ candidates := List.mem_of_head? first
  have reached (other : String) :
      other ∈ linearize (below known) List.head? (firstOccurrences (levels parents)) ↔
        TransGen (Extends declared) name other := by
    rw [(linearize_perm picked).mem_iff, mem_firstOccurrences, sound.mem_levels_iff listed]
  have ordered : OrderedOn (below known) (firstOccurrences (levels parents)) := by
    refine sound.orderedOn fun other member => ?_
    rw [mem_firstOccurrences, sound.mem_levels_iff listed] at member
    exact sound.found_of_above listed member
  have sorted := linearize_pairwise ordered (nodup_firstOccurrences _) picked
    fun candidates nonempty => ⟨candidates.head nonempty, List.head?_eq_some_head nonempty⟩
  refine ⟨reached, List.pairwise_cons.mpr ⟨fun other member under => ?_, ?_⟩⟩
  · -- `name` would be in the ancestry of one of its supertypes, and so found already.
    obtain ⟨_, found⟩ := sound.found_of_above listed ((reached other).mp member)
    obtain ⟨_, again⟩ := sound.found_of_reached found under
    rw [unknown] at again
    cases again
  · refine sorted.imp_of_mem fun {earlier later} _ member unordered => ?_
    obtain ⟨_, found⟩ := sound.found_of_above listed ((reached later).mp member)
    rw [← sound.below_iff found, unordered]
    exact Bool.false_ne_true

theorem Sound.insert (sound : Sound declared known) (unknown : known.get? name = none)
    (listed : (supertypesOf declared name).map known.get? = parents.map some) :
    Sound declared (known.insert name (merge known name parents)) := by
  have linear := sound.linearizes_merge unknown listed
  constructor
  · intro other ancestry found
    rw [Registry.get?_insert] at found
    split at found
    case isTrue same =>
      cases found
      subst same
      exact ⟨_, merge_eq known other parents, linear⟩
    case isFalse => exact sound.linearizes other ancestry found
  · intro other ancestry found above member
    rw [Registry.get?_insert]
    split
    case isTrue => exact ⟨_, rfl⟩
    case isFalse differs =>
      rw [Registry.get?_insert] at found
      split at found
      case isTrue =>
        cases found
        have strictly := (List.mem_cons.mp member).resolve_left differs
        exact sound.found_of_above listed ((linear.reached above).mp strictly)
      case isFalse => exact sound.closed other ancestry found above member

end

/-- A visit keeps what was found before it and finds nothing on the way to it. -/
structure Extended (path : List String) (before after : Known) : Prop where
  kept : ∀ name ancestry, before.get? name = some ancestry → after.get? name = some ancestry
  apart : ∀ name ∈ path, before.get? name = none → after.get? name = none

theorem Extended.refl (path : List String) (known : Known) : Extended path known known where
  kept _ _ found := found
  apart _ _ unknown := unknown

theorem Extended.trans {path : List String} {first second third : Known}
    (early : Extended path first second) (late : Extended path second third) :
    Extended path first third where
  kept name ancestry found := late.kept name ancestry (early.kept name ancestry found)
  apart name member unknown := late.apart name member (early.apart name member unknown)

/-- Every successful visit finds the ancestry it was asked for. -/
def Finds (declared : Registry String ConceptDecl) (path : List String)
    (visit : String → Known → Except SchemaError (List String × Known)) : Prop :=
  ∀ name before ancestry after, Sound declared before →
    visit name before = .ok (ancestry, after) →
      Sound declared after ∧ Extended path before after ∧ after.get? name = some ancestry

theorem Finds.visitAll {path : List String}
    {visit : String → Known → Except SchemaError (List String × Known)}
    (finds : Finds declared path visit) {names : List String} {before after : Known}
    {ancestries : List (List String)} (sound : Sound declared before)
    (visited : visitAll visit names before = .ok (ancestries, after)) :
    Sound declared after ∧ Extended path before after ∧
      names.map after.get? = ancestries.map some := by
  induction names generalizing before ancestries with
  | nil =>
      cases visited
      exact ⟨sound, Extended.refl path _, rfl⟩
  | cons name rest ih =>
      rw [Ancestry.visitAll, Except.bind_eq_ok_iff] at visited
      obtain ⟨⟨ancestry, middle⟩, first, remaining⟩ := visited
      rw [Except.bind_eq_ok_iff] at remaining
      obtain ⟨⟨others, last⟩, later, result⟩ := remaining
      cases result
      obtain ⟨soundMiddle, early, found⟩ := finds name before ancestry middle sound first
      obtain ⟨soundAfter, late, listed⟩ := ih soundMiddle later
      refine ⟨soundAfter, early.trans late, ?_⟩
      rw [List.map_cons, List.map_cons, late.kept name ancestry found, listed]

theorem visit_eq_ok {depth : Nat} {path ancestry : List String} {before after : Known}
    (visited : visit declared depth path name before = .ok (ancestry, after)) :
    before.get? name = some ancestry ∧ after = before ∨
      before.get? name = none ∧ name ∉ path ∧ ∃ depth' parents middle, depth = depth' + 1 ∧
        visitAll (visit declared depth' (name :: path)) (supertypesOf declared name) before =
          .ok (parents, middle) ∧
        ancestry = merge middle name parents ∧ after = middle.insert name ancestry := by
  unfold visit at visited
  cases found : before.get? name with
  | some listed =>
      simp only [found, Except.ok.injEq, Prod.mk.injEq] at visited
      obtain ⟨rfl, rfl⟩ := visited
      exact Or.inl ⟨rfl, rfl⟩
  | none =>
      simp only [found] at visited
      by_cases again : name ∈ path
      · rw [if_pos again] at visited
        cases visited
      · rw [if_neg again] at visited
        cases depth with
        | zero => cases visited
        | succ depth' =>
            obtain ⟨⟨parents, middle⟩, above, result⟩ := Except.bind_eq_ok_iff.mp visited
            cases result
            exact Or.inr ⟨rfl, again, depth', parents, middle, rfl, above, rfl, rfl⟩

theorem finds_visit (depth : Nat) (path : List String) :
    Finds declared path (visit declared depth path) := by
  induction depth using Nat.strongRecOn generalizing path with
  | ind depth ih =>
      intro name before ancestry after sound visited
      obtain ⟨found, rfl⟩ | ⟨unknown, fresh, depth', parents, middle, rfl, above, rfl, rfl⟩ :=
        visit_eq_ok visited
      · exact ⟨sound, Extended.refl path after, found⟩
      · obtain ⟨soundMiddle, extended, listed⟩ :=
          (ih depth' (Nat.lt_succ_self depth') (name :: path)).visitAll sound above
        have stillUnknown := extended.apart name List.mem_cons_self unknown
        refine ⟨soundMiddle.insert stillUnknown listed, ⟨?_, ?_⟩, by simp [Registry.get?_insert]⟩
        · intro other known earlier
          have differs : other ≠ name := fun same => by
            rw [same, unknown] at earlier
            cases earlier
          rw [Registry.get?_insert, if_neg differs]
          exact extended.kept other known earlier
        · intro other member absent
          have differs : other ≠ name := fun same => fresh (same ▸ member)
          rw [Registry.get?_insert, if_neg differs]
          exact extended.apart other (List.mem_cons_of_mem name member) absent

/-- A search that succeeds finds the ancestry of every declared concept. -/
theorem sound_all (searched : all declared = .ok known) :
    Sound declared known ∧
      ∀ name ∈ declared.keys, ∃ ancestry, known.get? name = some ancestry := by
  unfold all at searched
  cases visited : visitAll (visit declared declared.size []) declared.keys ∅ with
  | error reason =>
      rw [visited] at searched
      cases searched
  | ok result =>
      obtain ⟨ancestries, after⟩ := result
      rw [visited] at searched
      cases searched
      obtain ⟨sound, _, listed⟩ := (finds_visit declared.size []).visitAll sound_empty visited
      refine ⟨sound, fun name member => ?_⟩
      have inMap : after.get? name ∈ ancestries.map some := listed ▸ List.mem_map_of_mem member
      obtain ⟨ancestry, _, found⟩ := List.mem_map.mp inMap
      exact ⟨ancestry, found.symm⟩

theorem visitAll_eq_error {visit : String → Known → Except SchemaError (List String × Known)}
    {names : List String} {error : SchemaError}
    (failed : visitAll visit names known = .error error) :
    ∃ name ∈ names, ∃ before, visit name before = .error error := by
  induction names generalizing known with
  | nil => cases failed
  | cons name rest ih =>
      rcases Except.bind_eq_error failed with here | ⟨⟨ancestry, middle⟩, _, later⟩
      · exact ⟨name, by simp, known, here⟩
      · rcases Except.bind_eq_error later with there | ⟨_, _, result⟩
        · obtain ⟨other, member, before, refused⟩ := ih there
          exact ⟨other, by simp [member], before, refused⟩
        · cases result

/-- The search has come to `name` by way of `path`, and may go `depth` steps further. -/
structure Trail (declared : Registry String ConceptDecl) (depth : Nat) (path : List String)
    (name : String) : Prop where
  below : ∀ lower ∈ path, TransGen (Extends declared) lower name
  distinct : path.Nodup
  within : path ⊆ declared.keys
  arrived : name ∈ declared.keys
  room : declared.size ≤ depth + path.length

theorem Trail.start (arrived : name ∈ declared.keys) :
    Trail declared declared.size [] name :=
  ⟨by simp, by simp, by simp, arrived, by simp⟩

section

variable {depth : Nat} {path : List String}

theorem Trail.next {sup : String} (trail : Trail declared (depth + 1) path name)
    (fresh : name ∉ path) (direct : Extends declared name sup) (known : sup ∈ declared.keys) :
    Trail declared depth (name :: path) sup where
  below lower member := by
    rcases List.mem_cons.mp member with rfl | earlier
    · exact .single direct
    · exact (trail.below lower earlier).tail direct
  distinct := List.nodup_cons.mpr ⟨fresh, trail.distinct⟩
  within := List.cons_subset.mpr ⟨trail.arrived, trail.within⟩
  arrived := known
  room := by
    have room := trail.room
    simp only [List.length_cons]
    omega

/-- There are not more names to go through than there are steps. -/
theorem Trail.depth_pos (trail : Trail declared depth path name) (fresh : name ∉ path) :
    0 < depth := by
  have distinct : (name :: path).Nodup := List.nodup_cons.mpr ⟨fresh, trail.distinct⟩
  have within : name :: path ⊆ declared.keys :=
    List.cons_subset.mpr ⟨trail.arrived, trail.within⟩
  have short := (List.subperm_of_subset distinct within).length_le
  have room := trail.room
  simp only [List.length_cons, Registry.keys, List.length_map, Registry.size] at short room
  omega

/-- Where all supertypes are declared, a search fails only at a concept that is its own
supertype. -/
theorem cycle_of_visit_eq_error {error : SchemaError}
    (closed : ∀ sub sup, Extends declared sub sup → sup ∈ declared.keys)
    (trail : Trail declared depth path name)
    (failed : visit declared depth path name known = .error error) :
    ∃ concept, error = .inheritanceCycle concept ∧
      TransGen (Extends declared) concept concept := by
  induction depth generalizing path name known with
  | zero =>
      -- All names are on the way already, so the search never stops for want of depth.
      have again : name ∈ path := by
        by_contra fresh
        exact absurd (trail.depth_pos fresh) (Nat.lt_irrefl 0)
      cases found : known.get? name with
      | some ancestry => simp [visit, found] at failed
      | none =>
          simp only [visit, found, again, if_true, Except.error.injEq] at failed
          exact ⟨name, failed.symm, trail.below name again⟩
  | succ depth ih =>
      cases found : known.get? name with
      | some ancestry => simp [visit, found] at failed
      | none =>
          by_cases again : name ∈ path
          · simp only [visit, found, again, if_true, Except.error.injEq] at failed
            exact ⟨name, failed.symm, trail.below name again⟩
          · simp only [visit, found, again, if_false] at failed
            rcases Except.bind_eq_error failed with above | ⟨_, _, result⟩
            · obtain ⟨sup, direct, before, refused⟩ := visitAll_eq_error above
              exact ih (trail.next again direct (closed name sup direct)) refused
            · cases result

end

theorem cycle_of_all_eq_error {error : SchemaError}
    (closed : ∀ sub sup, Extends declared sub sup → sup ∈ declared.keys)
    (failed : all declared = .error error) :
    ∃ concept, error = .inheritanceCycle concept ∧
      TransGen (Extends declared) concept concept := by
  cases visited : visitAll (visit declared declared.size []) declared.keys ∅ with
  | ok result => simp [all, visited, Except.map] at failed
  | error reason =>
      simp only [all, visited, Except.map, Except.error.injEq] at failed
      obtain ⟨name, member, before, refused⟩ := visitAll_eq_error visited
      exact failed ▸ cycle_of_visit_eq_error closed (.start member) refused

end TypedTree.Ancestry
