namespace TypedTree.Except

variable {ε α β : Type}

theorem bind_eq_ok_iff {first : Except ε α} {next : α → Except ε β}
    {result : β} :
    first >>= next = .ok result ↔ ∃ middle, first = .ok middle ∧ next middle = .ok result := by
  cases first with
  | error reason => simp [bind, Except.bind]
  | ok middle => simp [bind, Except.bind]

theorem bind_eq_error {first : Except ε α} {next : α → Except ε β} {reason : ε}
    (failed : first >>= next = .error reason) :
    first = .error reason ∨ ∃ middle, first = .ok middle ∧ next middle = .error reason := by
  cases first with
  | error earlier => exact Or.inl (by simpa [bind, Except.bind] using failed)
  | ok middle => exact Or.inr ⟨middle, rfl, failed⟩

theorem pure_eq_ok_iff {value result : α} :
    (pure value : Except ε α) = .ok result ↔ result = value := by
  simp only [pure, Except.pure, Except.ok.injEq]
  exact eq_comm

theorem discard_eq_ok_iff {first : Except ε α} {checked : Unit} :
    discard first = .ok checked ↔ ∃ middle, first = .ok middle := by
  cases first with
  | error reason => simp [discard, Functor.discard, Functor.mapConst, Except.map]
  | ok middle => simp [discard, Functor.discard, Functor.mapConst, Except.map]

theorem discard_bind (first : Except ε α) (next : Unit → Except ε β) :
    (discard first >>= next) = first >>= fun _ => next () := by
  cases first <;> rfl

theorem forM_toList_eq_ok_iff {item : Option α}
    {check : α → Except ε Unit} {checked : Unit} :
    item.toList.forM check = .ok checked ↔ ∀ value ∈ item, check value = .ok ⟨⟩ := by
  cases item with
  | none => simp [pure, Except.pure]
  | some value => cases found : check value <;> simp [pure, Except.pure, bind, Except.bind, found]

theorem forM_eq_ok_iff {items : List α} {check : α → Except ε Unit} {checked : Unit} :
    items.forM check = .ok checked ↔ ∀ item ∈ items, check item = .ok ⟨⟩ := by
  induction items with
  | nil => simp [pure, Except.pure]
  | cons item rest ih =>
      have step : (item :: rest).forM check = check item >>= fun _ => rest.forM check := rfl
      rw [step, bind_eq_ok_iff, List.forall_mem_cons]
      constructor
      · intro ⟨_, first, others⟩
        exact ⟨first, ih.mp others⟩
      · intro ⟨first, others⟩
        exact ⟨⟨⟩, first, ih.mpr others⟩

theorem forM_eq_error {items : List α} {check : α → Except ε Unit} {reason : ε}
    (failed : items.forM check = .error reason) : ∃ item ∈ items, check item = .error reason := by
  induction items with
  | nil => simp [pure, Except.pure] at failed
  | cons item rest ih =>
      rcases bind_eq_error failed with here | ⟨_, _, later⟩
      · exact ⟨item, by simp, here⟩
      · obtain ⟨other, member, refused⟩ := ih later
        exact ⟨other, by simp [member], refused⟩

theorem mapM_eq_error {items : List α} {step : α → Except ε β} {reason : ε}
    (failed : items.mapM step = .error reason) : ∃ item ∈ items, step item = .error reason := by
  induction items with
  | nil => simp [pure, Except.pure] at failed
  | cons item rest ih =>
      rw [List.mapM_cons] at failed
      rcases bind_eq_error failed with here | ⟨first, _, later⟩
      · exact ⟨item, by simp, here⟩
      · rcases bind_eq_error later with there | ⟨others, _, result⟩
        · obtain ⟨other, member, refused⟩ := ih there
          exact ⟨other, by simp [member], refused⟩
        · cases result

/-- If a step can only succeed with one value, all steps together can only succeed with
the list of these. -/
theorem mapM_eq_ok {items : List α} {step : α → Except ε β} {results : List β} (value : α → β)
    (determined : ∀ item result, step item = .ok result → result = value item)
    (mapped : items.mapM step = .ok results) :
    results = items.map value ∧ ∀ item ∈ items, step item = .ok (value item) := by
  induction items generalizing results with
  | nil =>
      cases mapped
      exact ⟨rfl, nofun⟩
  | cons item rest ih =>
      rw [List.mapM_cons, bind_eq_ok_iff] at mapped
      obtain ⟨first, here, remaining⟩ := mapped
      rw [bind_eq_ok_iff] at remaining
      obtain ⟨others, later, same⟩ := remaining
      cases same
      obtain ⟨listed, each⟩ := ih later
      have value := determined item first here
      subst value
      exact ⟨by rw [listed, List.map_cons], List.forall_mem_cons.mpr ⟨here, each⟩⟩

end TypedTree.Except
