namespace TypedTree.Text

/-- The parts of `cs` between the separators, empty ones included. -/
def splitChars (separator : Char) : List Char → List (List Char)
  | [] => [[]]
  | c :: rest =>
      if c = separator then [] :: splitChars separator rest
      else
        match splitChars separator rest with
        | [] => [[c]]
        | part :: parts => (c :: part) :: parts

theorem splitChars_ne_nil (separator : Char) (cs : List Char) :
    splitChars separator cs ≠ [] := by
  induction cs with
  | nil => simp [splitChars]
  | cons c rest ih =>
      unfold splitChars
      split
      · simp
      · split <;> simp

theorem splitChars_append (separator : Char) (first second : List Char) :
    splitChars separator (first ++ separator :: second) =
      splitChars separator first ++ splitChars separator second := by
  induction first with
  | nil => simp [splitChars]
  | cons c rest ih =>
      simp only [List.cons_append, splitChars]
      split
      · simp [ih]
      · rw [ih]
        cases parts : splitChars separator rest with
        | nil => exact absurd parts (splitChars_ne_nil separator rest)
        | cons part others => simp

theorem splitChars_of_not_mem {separator : Char} {cs : List Char} (plain : separator ∉ cs) :
    splitChars separator cs = [cs] := by
  induction cs with
  | nil => rfl
  | cons c rest ih =>
      rw [List.mem_cons, not_or] at plain
      rw [splitChars, if_neg (Ne.symm plain.1), ih plain.2]

/-- The text before and after the first separator, if there is one. -/
def splitOnce? (separator : Char) (text : String) : Option (String × String) :=
  let cs := text.toList
  match cs.dropWhile (· != separator) with
  | [] => none
  | _ :: after => some (String.ofList (cs.takeWhile (· != separator)), String.ofList after)

theorem splitOnce?_of_eq {separator : Char} {text before after : String}
    (parts : text.toList = before.toList ++ separator :: after.toList)
    (plain : separator ∉ before.toList) : splitOnce? separator text = some (before, after) := by
  have differs : ∀ c ∈ before.toList, (c != separator) = true :=
    fun c member => bne_iff_ne.mpr fun same => plain (same ▸ member)
  simp [splitOnce?, parts, List.dropWhile_append_of_pos differs,
    List.takeWhile_append_of_pos differs]

theorem splitOnce?_of_not_mem {separator : Char} {text : String}
    (plain : separator ∉ text.toList) : splitOnce? separator text = none := by
  have differs : ∀ c ∈ text.toList, (c != separator) = true :=
    fun c member => bne_iff_ne.mpr fun same => plain (same ▸ member)
  have nothing : (text.toList ++ []).dropWhile (· != separator) = [] :=
    List.dropWhile_append_of_pos differs
  rw [List.append_nil] at nothing
  simp [splitOnce?, nothing]

theorem exists_splitOnce? {separator : Char} {text : String} (marked : separator ∈ text.toList) :
    ∃ before after, splitOnce? separator text = some (before, after) ∧
      text.toList = before.toList ++ separator :: after.toList ∧ separator ∉ before.toList := by
  obtain ⟨front, back, parts, plain⟩ := List.eq_append_cons_of_mem marked
  have whole : text.toList = (String.ofList front).toList ++ separator ::
      (String.ofList back).toList := by
    simpa using parts
  have unmarked : separator ∉ (String.ofList front).toList := by simpa using plain
  exact ⟨_, _, splitOnce?_of_eq whole unmarked, whole, unmarked⟩

end TypedTree.Text
