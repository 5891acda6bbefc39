namespace TypedTree

variable {α : Type u} [DecidableEq α]

/-- The elements of `items` with no other element of `items` below them. -/
def minimal (below : α → α → Bool) (items : List α) : List α :=
  items.filter fun candidate =>
    !items.any fun other => other != candidate && below other candidate

/-- Takes the chosen element, or the first if none is chosen, at most `count` times. -/
def peel (choose : List α → Option α) : (count : Nat) → List α → List α
  | 0, _ => []
  | _ + 1, [] => []
  | count + 1, first :: rest =>
      let next := (choose (first :: rest)).getD first
      next :: peel choose count ((first :: rest).erase next)

/-- All of `items`, each after everything below it; `pick` chooses among the
elements that may come next. -/
def linearize (below : α → α → Bool) (pick : List α → Option α) (items : List α) : List α :=
  peel (fun remaining => pick (minimal below remaining)) items.length items

/-- Keeps the first of equal elements. -/
def firstOccurrences : List α → List α
  | [] => []
  | item :: rest => item :: (firstOccurrences rest).filter (· != item)

/-- The first element that equals an earlier one, or one of `seen`. -/
def firstRepeat? (seen : List α) : List α → Option α
  | [] => none
  | item :: rest => if item ∈ seen then some item else firstRepeat? (item :: seen) rest

theorem firstRepeat?_eq_none_iff {seen items : List α} :
    firstRepeat? seen items = none ↔ items.Nodup ∧ ∀ item ∈ items, item ∉ seen := by
  induction items generalizing seen with
  | nil => simp [firstRepeat?]
  | cons item rest ih =>
      by_cases known : item ∈ seen
      · simp [firstRepeat?, known]
      · simp only [firstRepeat?, known, if_false, ih, List.nodup_cons]
        constructor
        · intro ⟨distinct, apart⟩
          refine ⟨⟨fun again => apart item again List.mem_cons_self, distinct⟩, ?_⟩
          intro other member
          rcases List.mem_cons.mp member with rfl | later
          · exact known
          · exact fun inSeen => apart other later (List.mem_cons_of_mem _ inSeen)
        · intro ⟨⟨once, distinct⟩, apart⟩
          refine ⟨distinct, fun other later inSeen => ?_⟩
          rcases List.mem_cons.mp inSeen with same | earlier
          · exact once (same ▸ later)
          · exact apart other (List.mem_cons_of_mem _ later) earlier

/-- The lists' first elements, then their second ones, and so on. -/
def levels (lists : List (List α)) : List α :=
  let depth := (lists.map List.length).foldl max 0
  (List.range depth).flatMap fun level => lists.filterMap (·[level]?)

end TypedTree
