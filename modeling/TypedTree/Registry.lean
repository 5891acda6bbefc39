namespace TypedTree

/-! # Registries

A registry maps keys to values and remembers the order in which the keys first
arrived. Storing under a known key replaces the value and keeps the key's place.
Every listing the library gives (concepts, symbols, rules, handles) is in this
order, so it belongs to the type.
-/

structure Registry (κ : Type u) (α : Type v) where
  entries : List (κ × α)
  distinct : (entries.map Prod.fst).Nodup

namespace Registry

variable {κ : Type u} {α : Type v}

@[ext]
theorem ext {first second : Registry κ α} (same : first.entries = second.entries) :
    first = second := by
  cases first
  cases second
  simp_all

def empty : Registry κ α := ⟨[], .nil⟩

instance : EmptyCollection (Registry κ α) := ⟨empty⟩

instance : Inhabited (Registry κ α) := ⟨empty⟩

def keys (registry : Registry κ α) : List κ := registry.entries.map Prod.fst

def values (registry : Registry κ α) : List α := registry.entries.map Prod.snd

def size (registry : Registry κ α) : Nat := registry.entries.length

def isEmpty (registry : Registry κ α) : Bool := registry.entries.isEmpty

/-- Applies `change` to every value; the keys stay as they are. -/
def mapValues {β : Type w} (registry : Registry κ α) (change : α → β) : Registry κ β where
  entries := registry.entries.map fun entry => (entry.1, change entry.2)
  distinct := by simpa [Function.comp_def] using registry.distinct

@[simp]
theorem keys_empty : (empty : Registry κ α).keys = [] := rfl

theorem keys_nodup (registry : Registry κ α) : registry.keys.Nodup := registry.distinct

variable [DecidableEq κ]

def get? (registry : Registry κ α) (key : κ) : Option α :=
  (registry.entries.find? fun entry => entry.1 = key).map Prod.snd

def contains (registry : Registry κ α) (key : κ) : Bool :=
  registry.keys.contains key

/-- Applies `change` to the value stored under `key`; the keys stay as they are. -/
def modify (registry : Registry κ α) (key : κ) (change : α → α) : Registry κ α where
  entries := registry.entries.map fun entry =>
    (entry.1, if entry.1 = key then change entry.2 else entry.2)
  distinct := by simpa [Function.comp_def] using registry.distinct

/-- Stores `value` under `key`, in the key's old place if it has one and last
otherwise. -/
def insert (registry : Registry κ α) (key : κ) (value : α) : Registry κ α :=
  if known : key ∈ registry.keys then
    registry.modify key fun _ => value
  else
    { entries := registry.entries ++ [(key, value)]
      distinct := by
        have old := registry.distinct
        simp only [keys] at known
        simp only [List.map_append, List.map_cons, List.map_nil]
        refine List.nodup_append.2 ⟨old, by simp, ?_⟩
        intro first inOld second inNew same
        rw [List.mem_singleton] at inNew
        exact known (inNew ▸ same ▸ inOld) }

def erase (registry : Registry κ α) (key : κ) : Registry κ α where
  entries := registry.entries.filter fun entry => entry.1 ≠ key
  distinct := registry.distinct.sublist (List.filter_sublist.map Prod.fst)

/-- The registry that storing the pairs one after the other gives. -/
def ofEntries (pairs : List (κ × α)) : Registry κ α :=
  pairs.foldl (fun registry pair => registry.insert pair.1 pair.2) empty

@[simp]
theorem contains_iff {registry : Registry κ α} {key : κ} :
    registry.contains key = true ↔ key ∈ registry.keys := by
  simp [contains]

@[simp]
theorem keys_modify (registry : Registry κ α) (key : κ) (change : α → α) :
    (registry.modify key change).keys = registry.keys := by
  simp [keys, modify, Function.comp_def]

theorem keys_insert (registry : Registry κ α) (key : κ) (value : α) :
    (registry.insert key value).keys =
      if key ∈ registry.keys then registry.keys else registry.keys ++ [key] := by
  unfold insert
  split
  · simp
  · simp [keys]

@[simp]
theorem get?_empty (key : κ) : (empty : Registry κ α).get? key = none := rfl

theorem get?_isSome_iff {registry : Registry κ α} {key : κ} :
    (registry.get? key).isSome = true ↔ key ∈ registry.keys := by
  simp [get?, keys]

theorem get?_eq_none_iff {registry : Registry κ α} {key : κ} :
    registry.get? key = none ↔ key ∉ registry.keys := by
  rw [← get?_isSome_iff]
  cases registry.get? key <;> simp

theorem get?_modify (registry : Registry κ α) (key other : κ) (change : α → α) :
    (registry.modify key change).get? other =
      if other = key then (registry.get? other).map change else registry.get? other := by
  simp only [get?, modify]
  induction registry.entries with
  | nil => simp
  | cons entry rest ih =>
      by_cases here : entry.1 = other
      · by_cases same : other = key <;> simp_all
      · simpa [List.find?_cons, here] using ih

theorem get?_mapValues {β : Type w} (registry : Registry κ α) (key : κ) (change : α → β) :
    (registry.mapValues change).get? key = (registry.get? key).map change := by
  simp [get?, mapValues, List.find?_map, Function.comp_def]

theorem get?_insert (registry : Registry κ α) (key other : κ) (value : α) :
    (registry.insert key value).get? other =
      if other = key then some value else registry.get? other := by
  unfold insert
  split
  case isTrue known =>
    rw [get?_modify]
    split
    case isTrue same =>
      subst same
      obtain ⟨old, found⟩ := Option.isSome_iff_exists.1 (get?_isSome_iff.2 known)
      simp [found]
    case isFalse => rfl
  case isFalse unknown =>
    have absent := get?_eq_none_iff.2 unknown
    simp only [get?, Option.map_eq_none_iff] at absent
    by_cases same : other = key
    · subst same
      simp [get?, List.find?_append, absent]
    · simp only [get?, List.find?_append, same, if_false]
      cases registry.entries.find? fun entry => decide (entry.1 = other) <;>
        simp [Ne.symm same]

theorem mem_entries_iff {registry : Registry κ α} {key : κ} {value : α} :
    (key, value) ∈ registry.entries ↔ registry.get? key = some value := by
  obtain ⟨entries, distinct⟩ := registry
  simp only [get?]
  induction entries with
  | nil => simp
  | cons entry rest ih =>
      simp only [List.map_cons, List.nodup_cons] at distinct
      have restIff := ih distinct.2
      by_cases here : entry.1 = key
      · subst here
        have fresh : (entry.1, value) ∉ rest := fun inRest =>
          distinct.1 (List.mem_map.2 ⟨_, inRest, rfl⟩)
        simp only [List.mem_cons, List.find?_cons, decide_true, Option.map_some,
          Option.some.injEq]
        constructor
        · intro found
          rcases found with same | inRest
          · exact (congrArg Prod.snd same).symm
          · exact absurd inRest fresh
        · intro same
          exact Or.inl (by rw [← same])
      · have differs : ¬ (key, value) = entry := fun same => here (by rw [← same])
        simp [here, differs, restIff]

/-- A change under a key leaves the entries before and after that of the key. -/
theorem entries_modify {registry : Registry κ α} {first last : List (κ × α)} {key : κ} {value : α}
    (split : registry.entries = first ++ (key, value) :: last) (change : α → α) :
    (registry.modify key change).entries = first ++ (key, change value) :: last := by
  have distinct := registry.distinct
  simp only [split, List.map_append, List.map_cons, List.nodup_append, List.nodup_cons] at distinct
  obtain ⟨_, ⟨notLast, _⟩, apart⟩ := distinct
  have untouched : ∀ entries : List (κ × α), key ∉ entries.map Prod.fst →
      entries.map (fun entry => (entry.1, if entry.1 = key then change entry.2 else entry.2)) =
        entries := by
    intro entries absent
    refine (List.map_congr_left fun entry member => ?_).trans (List.map_id _)
    have different : entry.1 ≠ key := fun same => absent (same ▸ List.mem_map_of_mem member)
    rw [if_neg different]
    rfl
  have notFirst : key ∉ first.map Prod.fst := fun member =>
    apart key member key List.mem_cons_self rfl
  change registry.entries.map _ = _
  rw [split, List.map_append, List.map_cons, untouched first notFirst, untouched last notLast,
    if_pos rfl]

theorem entries_insert_of_new {registry : Registry κ α} {key : κ} (fresh : key ∉ registry.keys)
    (value : α) : (registry.insert key value).entries = registry.entries ++ [(key, value)] := by
  rw [insert, dif_neg fresh]

theorem mem_of_get?_ofEntries {pairs : List (κ × α)} {key : κ} {value : α}
    (found : (ofEntries pairs).get? key = some value) : (key, value) ∈ pairs := by
  suffices general : ∀ start : Registry κ α,
      (pairs.foldl (fun registry pair => registry.insert pair.1 pair.2) start).get? key =
        some value → start.get? key = some value ∨ (key, value) ∈ pairs by
    rcases general empty found with old | member
    · cases old
    · exact member
  clear found
  induction pairs with
  | nil => exact fun start found => Or.inl found
  | cons pair rest ih =>
      intro start found
      rcases ih (start.insert pair.1 pair.2) found with inserted | member
      · rw [get?_insert] at inserted
        split at inserted
        case isTrue same =>
          cases inserted
          subst same
          exact Or.inr List.mem_cons_self
        case isFalse => exact Or.inl inserted
      · exact Or.inr (List.mem_cons_of_mem _ member)

/-- Pairs with different keys are stored as they are. -/
theorem entries_ofEntries {pairs : List (κ × α)} (distinct : (pairs.map Prod.fst).Nodup) :
    (ofEntries pairs).entries = pairs := by
  suffices general : ∀ start : Registry κ α, (∀ pair ∈ pairs, pair.1 ∉ start.keys) →
      (pairs.foldl (fun registry pair => registry.insert pair.1 pair.2) start).entries =
        start.entries ++ pairs by
    exact general empty fun _ _ => List.not_mem_nil
  induction pairs with
  | nil => exact fun start _ => (List.append_nil _).symm
  | cons pair rest ih =>
      intro start apart
      rw [List.map_cons, List.nodup_cons] at distinct
      have fresh : pair.1 ∉ start.keys := apart pair List.mem_cons_self
      refine (ih distinct.2 (start.insert pair.1 pair.2) fun later member => ?_).trans ?_
      · rw [keys_insert, if_neg fresh, List.mem_append, List.mem_singleton, not_or]
        refine ⟨apart later (List.mem_cons_of_mem _ member), fun same => ?_⟩
        exact distinct.1 (List.mem_map.mpr ⟨later, member, same⟩)
      · rw [entries_insert_of_new fresh, List.append_assoc, List.singleton_append]

end Registry

end TypedTree
