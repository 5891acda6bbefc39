import TypedTree.Order
import Mathlib.Data.List.Basic
import Mathlib.Data.List.Duplicate

namespace TypedTree

variable {α : Type u}

/-- `below` is transitive and antisymmetric on `items`. -/
structure OrderedOn (below : α → α → Bool) (items : List α) : Prop where
  trans : ∀ low ∈ items, ∀ middle ∈ items, ∀ high ∈ items,
    below low middle = true → below middle high = true → below low high = true
  antisymm : ∀ first ∈ items, ∀ second ∈ items,
    below first second = true → below second first = true → first = second

theorem OrderedOn.mono {below : α → α → Bool} {items others : List α}
    (ordered : OrderedOn below items) (subset : others ⊆ items) : OrderedOn below others where
  trans low inLow middle inMiddle high inHigh :=
    ordered.trans low (subset inLow) middle (subset inMiddle) high (subset inHigh)
  antisymm first inFirst second inSecond :=
    ordered.antisymm first (subset inFirst) second (subset inSecond)

theorem le_foldl_max {numbers : List Nat} {start number : Nat}
    (member : number ≤ start ∨ number ∈ numbers) : number ≤ numbers.foldl max start := by
  induction numbers generalizing start with
  | nil => exact member.resolve_right List.not_mem_nil
  | cons first rest ih =>
      refine ih ?_
      rcases member with small | listed
      · exact Or.inl (Nat.le_trans small (Nat.le_max_left _ _))
      · rcases List.mem_cons.mp listed with same | later
        · exact Or.inl (same ▸ Nat.le_max_right _ _)
        · exact Or.inr later

@[simp]
theorem mem_levels {lists : List (List α)} {item : α} :
    item ∈ levels lists ↔ ∃ list ∈ lists, item ∈ list := by
  simp only [levels, List.mem_flatMap, List.mem_range, List.mem_filterMap]
  constructor
  · intro ⟨level, _, list, member, found⟩
    exact ⟨list, member, List.mem_of_getElem? found⟩
  · intro ⟨list, member, listed⟩
    obtain ⟨level, found⟩ := List.mem_iff_getElem?.mp listed
    have short : level < list.length := (List.getElem?_eq_some_iff.mp found).1
    have deep := le_foldl_max (Or.inr (List.mem_map_of_mem member) : list.length ≤ 0 ∨ _)
    exact ⟨level, Nat.lt_of_lt_of_le short deep, list, member, found⟩

variable [DecidableEq α]

@[simp]
theorem mem_firstOccurrences {items : List α} {item : α} :
    item ∈ firstOccurrences items ↔ item ∈ items := by
  induction items with
  | nil => simp [firstOccurrences]
  | cons first rest ih =>
      by_cases same : item = first
      · simp [firstOccurrences, same]
      · simp [firstOccurrences, same, ih]

theorem nodup_firstOccurrences (items : List α) : (firstOccurrences items).Nodup := by
  induction items with
  | nil => exact List.nodup_nil
  | cons first rest ih =>
      refine List.nodup_cons.mpr ⟨fun again => ?_, ih.filter _⟩
      simp at again

theorem duplicate_of_firstRepeat? {seen items : List α} {item : α}
    (found : firstRepeat? seen items = some item) :
    item ∈ seen ∧ item ∈ items ∨ items.Duplicate item := by
  induction items generalizing seen with
  | nil => simp [firstRepeat?] at found
  | cons first rest ih =>
      by_cases known : first ∈ seen
      · simp only [firstRepeat?, known, if_true, Option.some.injEq] at found
        subst found
        exact Or.inl ⟨known, by simp⟩
      · simp only [firstRepeat?, known, if_false] at found
        rcases ih found with ⟨listed, later⟩ | repeated
        · rcases List.mem_cons.mp listed with rfl | earlier
          · exact Or.inr (List.Mem.duplicate_cons_self later)
          · exact Or.inl ⟨earlier, by simp [later]⟩
        · exact Or.inr (repeated.duplicate_cons first)

theorem duplicate_append_iff {first second : List α} {item : α} :
    (first ++ second).Duplicate item ↔
      first.Duplicate item ∨ second.Duplicate item ∨ item ∈ first ∧ item ∈ second := by
  simp only [List.duplicate_iff_two_le_count, List.count_append, ← List.count_pos_iff]
  omega

/-- An element comes twice if one part has it twice or two parts have it. -/
theorem duplicate_flatMap_iff {β : Type v} {parts : List β} {list : β → List α} {item : α}
    (distinct : parts.Nodup) :
    (parts.flatMap list).Duplicate item ↔
      (∃ part ∈ parts, (list part).Duplicate item) ∨
        ∃ one ∈ parts, ∃ other ∈ parts, one ≠ other ∧ item ∈ list one ∧ item ∈ list other := by
  induction parts with
  | nil => simp [List.not_duplicate_nil]
  | cons first rest ih =>
      simp only [List.nodup_cons] at distinct
      have apart : ∀ other ∈ rest, first ≠ other := fun other member same =>
        distinct.1 (same ▸ member)
      simp only [List.flatMap_cons, duplicate_append_iff, ih distinct.2, List.mem_flatMap,
        List.mem_cons, exists_eq_or_imp]
      grind

theorem mem_minimal_iff {below : α → α → Bool} {items : List α} {candidate : α} :
    candidate ∈ minimal below items ↔
      candidate ∈ items ∧ ∀ other ∈ items, below other candidate = true → other = candidate := by
  simp only [minimal, List.mem_filter, Bool.not_eq_true', List.any_eq_false, Bool.and_eq_true,
    bne_iff_ne, not_and, ne_eq]
  refine and_congr_right fun _ => forall₂_congr fun other _ => ?_
  exact not_imp_not

theorem exists_mem_minimal {below : α → α → Bool} {items : List α}
    (ordered : OrderedOn below items) (nonempty : items ≠ []) :
    ∃ candidate, candidate ∈ minimal below items := by
  induction items with
  | nil => exact absurd rfl nonempty
  | cons item rest ih =>
      by_cases alone : rest = []
      · subst alone
        refine ⟨item, mem_minimal_iff.mpr ⟨List.mem_cons_self, fun other member _ => ?_⟩⟩
        exact List.mem_singleton.mp member
      · obtain ⟨least, found⟩ := ih (ordered.mono (List.subset_cons_self item rest)) alone
        obtain ⟨member, isLeast⟩ := mem_minimal_iff.mp found
        have inItems := List.mem_cons_of_mem item member
        by_cases under : below item least = true
        · -- What is below `item` is below `least` as well, and so it is `least` or `item`.
          refine ⟨item, mem_minimal_iff.mpr ⟨List.mem_cons_self, fun other inOther lower => ?_⟩⟩
          rcases List.mem_cons.mp inOther with same | later
          · exact same
          · have lowest := ordered.trans other inOther item List.mem_cons_self least inItems
              lower under
            cases isLeast other later lowest
            exact ordered.antisymm _ inOther _ List.mem_cons_self lower under
        · refine ⟨least, mem_minimal_iff.mpr ⟨inItems, fun other inOther lower => ?_⟩⟩
          rcases List.mem_cons.mp inOther with same | later
          · exact absurd (same ▸ lower) under
          · exact isLeast other later lower

theorem perm_peel {choose : List α → Option α} {count : Nat} {items : List α}
    (chosen : ∀ remaining next, choose remaining = some next → next ∈ remaining)
    (enough : items.length ≤ count) : (peel choose count items).Perm items := by
  induction count generalizing items with
  | zero =>
      cases List.length_eq_zero_iff.mp (Nat.le_zero.mp enough)
      exact List.Perm.refl []
  | succ count ih =>
      cases items with
      | nil => exact List.Perm.refl []
      | cons first rest =>
          have member : (choose (first :: rest)).getD first ∈ first :: rest := by
            cases found : choose (first :: rest) with
            | none => exact List.mem_cons_self
            | some next => exact chosen _ _ found
          have shorter : ((first :: rest).erase ((choose (first :: rest)).getD first)).length ≤
              count := by
            rw [List.length_erase_of_mem member]
            exact Nat.pred_le_iff.mpr enough
          exact ((ih shorter).cons _).trans (List.perm_cons_erase member).symm

/-- If every choice is related to all that remain, every element taken is related to
all those taken later. -/
theorem pairwise_peel {choose : List α → Option α} {related : α → α → Prop} {count : Nat}
    {items : List α} (member : ∀ remaining next, choose remaining = some next → next ∈ remaining)
    (chosen : ∀ remaining, remaining.Sublist items → remaining ≠ [] →
      ∃ next, choose remaining = some next ∧ ∀ other ∈ remaining.erase next, related next other)
    (enough : items.length ≤ count) : (peel choose count items).Pairwise related := by
  induction count generalizing items with
  | zero => exact List.Pairwise.nil
  | succ count ih =>
      cases items with
      | nil => exact List.Pairwise.nil
      | cons first rest =>
          obtain ⟨next, found, before⟩ := chosen _ (List.Sublist.refl _) (List.cons_ne_nil _ _)
          have shorter : ((first :: rest).erase next).length ≤ count := by
            rw [List.length_erase_of_mem (member _ _ found)]
            exact Nat.pred_le_iff.mpr enough
          simp only [peel, found, Option.getD_some, List.pairwise_cons]
          refine ⟨fun other taken => before other ((perm_peel member shorter).mem_iff.mp taken), ?_⟩
          exact ih (fun remaining part => chosen remaining (part.trans List.erase_sublist)) shorter

theorem peel_congr {choose select : List α → Option α} {count : Nat} {items : List α}
    (same : ∀ remaining, remaining.Sublist items → choose remaining = select remaining) :
    peel choose count items = peel select count items := by
  induction count generalizing items with
  | zero => rfl
  | succ count ih =>
      cases items with
      | nil => rfl
      | cons first rest =>
          simp only [peel, same _ (List.Sublist.refl _)]
          rw [ih fun remaining part => same remaining (part.trans List.erase_sublist)]

/-- If there is always a choice, and one that does not depend on how the remaining elements
are listed, then neither does the order in which they are taken. -/
theorem peel_eq_of_perm {choose : List α → Option α} {count : Nat} {items others : List α}
    (chosen : ∀ remaining, remaining.Sublist items → remaining ≠ [] →
      ∃ next, choose remaining = some next)
    (alike : ∀ first second, first.Perm second → choose first = choose second)
    (rearranged : items.Perm others) : peel choose count items = peel choose count others := by
  induction count generalizing items others with
  | zero => rfl
  | succ count ih =>
      cases items with
      | nil => rw [rearranged.nil_eq]
      | cons first rest =>
          cases others with
          | nil => cases rearranged.eq_nil
          | cons other remaining =>
              obtain ⟨next, found⟩ := chosen _ (List.Sublist.refl _) (List.cons_ne_nil _ _)
              have also : choose (other :: remaining) = some next :=
                (alike _ _ rearranged).symm.trans found
              simp only [peel, found, also, Option.getD_some]
              rw [ih (fun left part => chosen left (part.trans List.erase_sublist))
                (rearranged.erase next)]

section

variable {below : α → α → Bool} {pick : List α → Option α} {items : List α}

theorem minimal_congr {under : α → α → Bool}
    (same : ∀ low ∈ items, ∀ high, below low high = under low high) :
    minimal below items = minimal under items := by
  refine List.filter_congr fun candidate _ => congrArg not (Bool.eq_iff_iff.mpr ?_)
  simp only [List.any_eq_true]
  exact exists_congr fun other => and_congr_right fun member => by rw [same other member]

/-- The order that is given depends only on how the items themselves compare. -/
theorem linearize_congr {under : α → α → Bool}
    (same : ∀ low ∈ items, ∀ high, below low high = under low high) :
    linearize below pick items = linearize under pick items := by
  refine peel_congr fun remaining part => ?_
  rw [minimal_congr fun low member => same low (part.subset member)]

theorem minimal_perm {others : List α} (rearranged : items.Perm others) :
    (minimal below items).Perm (minimal below others) := by
  simp only [minimal, rearranged.any_eq]
  exact rearranged.filter _

theorem linearize_perm
    (picked : ∀ candidates next, pick candidates = some next → next ∈ candidates) :
    (linearize below pick items).Perm items := by
  refine perm_peel (fun remaining next found => ?_) (Nat.le_refl _)
  exact (mem_minimal_iff.mp (picked _ _ found)).1

/-- The order that is given does not depend on how the items are listed. -/
theorem linearize_eq_of_perm {others : List α} (ordered : OrderedOn below items)
    (picks : ∀ candidates, candidates ≠ [] → ∃ next, pick candidates = some next)
    (alike : ∀ first second, first.Perm second → pick first = pick second)
    (rearranged : items.Perm others) :
    linearize below pick items = linearize below pick others := by
  rw [linearize, linearize, rearranged.length_eq]
  refine peel_eq_of_perm (fun remaining part nonempty => ?_) (fun first second same => ?_)
    rearranged
  · obtain ⟨least, isLeast⟩ := exists_mem_minimal (ordered.mono part.subset) nonempty
    exact picks _ (List.ne_nil_of_mem isLeast)
  · exact alike _ _ (minimal_perm same)

/-- Nothing comes after something above it. -/
theorem linearize_pairwise (ordered : OrderedOn below items) (distinct : items.Nodup)
    (picked : ∀ candidates next, pick candidates = some next → next ∈ candidates)
    (picks : ∀ candidates, candidates ≠ [] → ∃ next, pick candidates = some next) :
    (linearize below pick items).Pairwise fun earlier later => below later earlier = false := by
  refine pairwise_peel (fun remaining next found => ?_) (fun remaining part nonempty => ?_)
    (Nat.le_refl _)
  · exact (mem_minimal_iff.mp (picked _ _ found)).1
  · obtain ⟨least, isLeast⟩ := exists_mem_minimal (ordered.mono part.subset) nonempty
    obtain ⟨next, found⟩ := picks _ (List.ne_nil_of_mem isLeast)
    refine ⟨next, found, fun other left => ?_⟩
    obtain ⟨differs, member⟩ := (distinct.sublist part).mem_erase_iff.mp left
    have lowest := (mem_minimal_iff.mp (picked _ _ found)).2 other member
    exact Bool.eq_false_iff.mpr fun under => differs (lowest under)

end

end TypedTree
