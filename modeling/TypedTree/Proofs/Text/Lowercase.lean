import TypedTree.Text.Lowercase

namespace TypedTree.Text

/-- The texts differ at most in the case of letters of ASCII, the only characters that
`Char.toLower` changes. -/
def EqualButForCase (first second : String) : Prop :=
  first.toList.map Char.toLower = second.toList.map Char.toLower

instance (first second : String) : Decidable (EqualButForCase first second) :=
  inferInstanceAs (Decidable (_ = _))

/-- What the 26 capitals share with their small letters every character shares with its
small form. -/
theorem read_toLower {α : Type} {read : Char → α}
    (letters : ∀ place < 26,
      read (Char.ofNat (0x41 + place)).toLower = read (Char.ofNat (0x41 + place)))
    (c : Char) : read c.toLower = read c := by
  by_cases capital : c.val ≥ 'A'.val ∧ c.val ≤ 'Z'.val
  · have bounds : 0x41 ≤ c.toNat ∧ c.toNat ≤ 0x5a := capital
    have isLetter := letters (c.toNat - 0x41) (by omega)
    rwa [Nat.add_sub_cancel' bounds.1, Char.ofNat_toNat] at isLetter
  · have same : c.toLower = c := dif_neg capital
    rw [same]

theorem lowercaseChar_toLower (c : Char) : lowercaseChar c.toLower = lowercaseChar c :=
  read_toLower (by decide +kernel) c

theorem cased_toLower (c : Char) : cased.contains c.toLower = cased.contains c :=
  read_toLower (by decide +kernel) c

theorem caseIgnorable_toLower (c : Char) :
    caseIgnorable.contains c.toLower = caseIgnorable.contains c :=
  read_toLower (by decide +kernel) c

theorem toLower_eq_sigma_iff (c : Char) : c.toLower = '\u03a3' ↔ c = '\u03a3' := by
  have same : decide (c.toLower = '\u03a3') = decide (c = '\u03a3') :=
    @read_toLower Bool (fun c => decide (c = '\u03a3')) (by decide +kernel) c
  simpa using same

theorem startsCased_map_toLower (cs : List Char) :
    startsCased (cs.map Char.toLower) = startsCased cs := by
  have ignorable : caseIgnorable.contains ∘ Char.toLower = caseIgnorable.contains :=
    funext caseIgnorable_toLower
  simp only [startsCased, List.dropWhile_map, ignorable, List.head?_map, Option.any_map,
    cased_toLower]

theorem lowercaseFrom_map_toLower (before after : List Char) :
    lowercaseFrom (before.map Char.toLower) (after.map Char.toLower) =
      lowercaseFrom before after := by
  induction after generalizing before with
  | nil => rfl
  | cons c rest ih =>
      have later := ih (c :: before)
      rw [List.map_cons] at later
      rw [List.map_cons, lowercaseFrom, lowercaseFrom, later]
      simp only [toLower_eq_sigma_iff, lowercaseSigma, startsCased_map_toLower,
        lowercaseChar_toLower]

theorem EqualButForCase.lowercase_eq {first second : String}
    (same : EqualButForCase first second) : lowercase first = lowercase second := by
  have small (text : String) :
      lowercaseFrom [] (text.toList.map Char.toLower) = lowercaseFrom [] text.toList :=
    lowercaseFrom_map_toLower [] text.toList
  rw [lowercase, lowercase, ← small first, same, small second]

end TypedTree.Text
