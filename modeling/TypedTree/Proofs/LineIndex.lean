import Mathlib.Data.List.TakeWhile
import TypedTree.LineIndex

namespace TypedTree

namespace Search

variable {values : Array Nat} {value : Nat}

/-- What is known of an answer to a search for `value`. -/
def Answers (values : Array Nat) (value : Nat) : Search → Prop
  | .found index => values[index]? = some value
  | .missing index =>
      index ≤ values.size ∧ ∀ place held, values[place]? = some held →
        (place < index → held < value) ∧ (index ≤ place → value < held)

/-- The search stops between the bounds, before what exceeds the value. -/
theorem bisect_spec (values : Array Nat) (value : Nat) {low high : Nat} (some : low < high) :
    low ≤ bisect values value low high ∧ bisect values value low high < high ∧
      (bisect values value low high = low ∨
        values.getD (bisect values value low high) 0 ≤ value) ∧
      (bisect values value low high + 1 = high ∨
        value < values.getD (bisect values value low high + 1) 0) := by
  fun_induction bisect values value low high with
  | case1 low high single => exact ⟨Nat.le_refl _, some, .inl rfl, .inl (by omega)⟩
  | case2 low high several middle within ih =>
      obtain ⟨lower, upper, reached, stopped⟩ := ih (by omega)
      refine ⟨by omega, upper, .inr ?_, stopped⟩
      rcases reached with same | reached
      · rwa [same]
      · exact reached
  | case3 low high several middle beyond ih =>
      obtain ⟨lower, upper, reached, stopped⟩ := ih (by omega)
      refine ⟨lower, by omega, reached, .inr ?_⟩
      rcases stopped with same | stopped
      · rw [same]
        exact Nat.lt_of_not_le beyond
      · exact stopped

section

variable (ascending : values.toList.Pairwise (· < ·))
include ascending

theorem lt_of_ascending {earlier later : Nat} {before after : Nat} (order : earlier < later)
    (here : values[earlier]? = some before) (there : values[later]? = some after) :
    before < after := by
  rw [← Array.getElem?_toList, List.getElem?_eq_some_iff] at here there
  obtain ⟨_, rfl⟩ := here
  obtain ⟨_, rfl⟩ := there
  exact List.pairwise_iff_getElem.mp ascending _ _ _ _ order

/-- A place that holds less than the value, before one that holds more, is the last that
does. -/
theorem answers_between {index : Nat} (within : index ≤ values.size)
    (before : ∀ place held, place + 1 = index → values[place]? = some held → held < value)
    (after : ∀ held, values[index]? = some held → value < held) :
    Answers values value (.missing index) := by
  refine ⟨within, fun place held here => ⟨fun early => ?_, fun late => ?_⟩⟩
  · have known : index - 1 < values.size := by omega
    have last := before (index - 1) _ (by omega) (Array.getElem?_eq_getElem known)
    rcases Nat.lt_or_eq_of_le (Nat.le_sub_one_of_lt early) with less | same
    · exact Nat.lt_trans
        (lt_of_ascending ascending less here (Array.getElem?_eq_getElem known)) last
    · rw [same] at here
      cases (Array.getElem?_eq_getElem known).symm.trans here
      exact last
  · rcases Nat.lt_or_eq_of_le late with less | rfl
    · obtain ⟨known, _⟩ := Array.getElem?_eq_some_iff.mp here
      have first := Array.getElem?_eq_getElem (Nat.lt_trans less known)
      exact Nat.lt_trans (after _ first) (lt_of_ascending ascending less first here)
    · exact after held here

theorem answers_inArray (value : Nat) : Answers values value (inArray values value) := by
  rcases Nat.eq_zero_or_pos values.size with empty | some
  · have nothing (place : Nat) : values[place]? = none := by simp [empty]
    rw [inArray]
    simp only [nothing]
    exact ⟨Nat.zero_le _, fun place held here => by simp [nothing] at here⟩
  · obtain ⟨-, known, reached, stopped⟩ := bisect_spec values value some
    have getD_eq {index : Nat} (within : index < values.size) : values.getD index 0 = values[index] := by
      simp [Array.getD, within]
    rw [inArray, Array.getElem?_eq_getElem known]
    dsimp only
    generalize isIndex : bisect values value 0 values.size = index at *
    rw [getD_eq known] at reached
    split
    · next same => exact same ▸ Array.getElem?_eq_getElem known
    · next differs =>
        split
        · next less =>
            refine answers_between ascending known (fun place held next here => ?_)
              fun held here => ?_
            · obtain rfl := Nat.succ.inj next
              cases (Array.getElem?_eq_getElem known).symm.trans here
              exact less
            · obtain ⟨within, rfl⟩ := Array.getElem?_eq_some_iff.mp here
              rcases stopped with last | stopped
              · omega
              · rwa [getD_eq within] at stopped
        · next notLess =>
            have more : value < values[index] := by omega
            have isFirst : index = 0 := reached.resolve_right (Nat.not_le.mpr more)
            refine answers_between ascending (Nat.le_of_lt known) (fun place _ next => ?_)
              fun held here => ?_
            · omega
            · cases (Array.getElem?_eq_getElem known).symm.trans here
              exact more

end

end Search

namespace LineIndex

variable {index : LineIndex} {offset first second : Nat} {bytes : List UInt8}

/-- What the search finds among the starts is a line, and what it misses goes in after one. -/
theorem search_within (index : LineIndex) (offset : Nat) :
    (∀ line, Search.inArray index.starts offset = .found line → line < index.lineCount) ∧
      ∀ next, Search.inArray index.starts offset = .missing next →
        0 < next ∧ next - 1 < index.lineCount := by
  have answers := Search.answers_inArray index.ascending offset
  refine ⟨fun line isLine => ?_, fun next isNext => ?_⟩
  · rw [isLine] at answers
    exact (Array.getElem?_eq_some_iff.mp answers).1
  · rw [isNext] at answers
    obtain ⟨within, apart⟩ := answers
    have positive : 0 < next := by
      refine Nat.pos_of_ne_zero fun isFirst => ?_
      exact Nat.not_lt_zero offset ((apart 0 0 index.first).2 (Nat.le_of_eq isFirst))
    exact ⟨positive, Nat.lt_of_lt_of_le (Nat.sub_lt positive Nat.one_pos) within⟩

/-- The line of an offset starts there or before, and the next line starts after it. -/
theorem line_spec (index : LineIndex) (offset : Nat) :
    ∃ start, index.starts[index.line offset]? = some start ∧ start ≤ offset ∧
      ∀ place later, index.line offset < place → index.starts[place]? = some later →
        offset < later := by
  have answers := Search.answers_inArray index.ascending offset
  have within := index.search_within offset
  unfold line
  split
  · next line isLine =>
      rw [isLine] at answers
      exact ⟨offset, answers, Nat.le_refl _, fun place later after there =>
        Search.lt_of_ascending index.ascending after answers there⟩
  · next next isNext =>
      rw [isNext] at answers
      obtain ⟨positive, known⟩ := within.2 next isNext
      have here := Array.getElem?_eq_getElem known
      refine ⟨_, here, ?_, fun place later after there => ?_⟩
      · exact Nat.le_of_lt ((answers.2 _ _ here).1 (Nat.sub_lt positive Nat.one_pos))
      · exact (answers.2 place later there).2 (by omega)

theorem line_le_line (index : LineIndex) {first second : Nat} (order : first ≤ second) :
    index.line first ≤ index.line second := by
  obtain ⟨start, here, before, _⟩ := index.line_spec first
  obtain ⟨_, _, _, after⟩ := index.line_spec second
  refine Nat.le_of_not_lt fun swapped => ?_
  exact Nat.not_lt_of_le (Nat.le_trans before order) (after _ start swapped here)

theorem position_lt_position (order : first < second) (within : second ≤ index.length) :
    index.position first < index.position second := by
  obtain ⟨start, here, before, _⟩ := index.line_spec first
  rw [position, position, Nat.min_eq_left within,
    Nat.min_eq_left (Nat.le_of_lt (Nat.lt_of_lt_of_le order within)), Position.lt_def]
  rcases Nat.lt_or_eq_of_le (index.line_le_line (Nat.le_of_lt order)) with less | same
  · exact .inl less
  · refine .inr ⟨same, ?_⟩
    have getD_eq : index.starts.getD (index.line first) 0 = start := by
      rw [Array.getD_eq_getD_getElem?, here, Option.getD_some]
    dsimp only
    rw [← same, getD_eq]
    omega

theorem position_min (index : LineIndex) (offset : Nat) :
    index.position (min offset index.length) = index.position offset := by
  rw [position, Nat.min_eq_left (Nat.min_le_right _ _)]
  rfl

theorem position_le_position (order : first ≤ second) :
    index.position first ≤ index.position second := by
  rw [← index.position_min first, ← index.position_min second]
  rcases Nat.lt_or_eq_of_le (show min first index.length ≤ min second index.length by omega)
    with less | same
  · have strict := position_lt_position less (Nat.min_le_right second index.length)
    rw [Position.lt_def] at strict
    rw [Position.le_def]
    omega
  · rw [same]
    exact Position.le_refl _

theorem span_encloses_span {start stop innerStart innerStop : Nat} (left : start ≤ innerStart)
    (right : innerStop ≤ stop) :
    (index.span start stop).encloses (index.span innerStart innerStop) = true :=
  Span.encloses_iff.mpr ⟨position_le_position left, position_le_position right⟩

/-- The offset just after the last line feed before an offset, or the start of the text if
there is none. -/
def lineStart (bytes : List UInt8) : (offset : Nat) → Nat
  | 0 => 0
  | offset + 1 =>
      if bytes[offset]? = some lineFeed then offset + 1 else lineStart bytes offset

theorem lineStart_le (bytes : List UInt8) (offset : Nat) : lineStart bytes offset ≤ offset := by
  induction offset with
  | zero => exact Nat.le_refl _
  | succ offset ih =>
      rw [lineStart]
      split
      · exact Nat.le_refl _
      · exact Nat.le_succ_of_le ih

theorem length_startsAfter (offset : Nat) (bytes : List UInt8) :
    (startsAfter offset bytes).length = bytes.count lineFeed := by
  induction bytes generalizing offset with
  | nil => rfl
  | cons byte rest ih =>
      rw [startsAfter]
      split
      · next isFeed => rw [List.length_cons, ih, isFeed, List.count_cons_self]
      · next other => rw [ih, List.count_cons_of_ne other]

theorem le_of_mem_startsAfter {start : Nat} (member : start ∈ startsAfter offset bytes) :
    start ≤ offset + bytes.length := by
  induction bytes generalizing offset with
  | nil => cases member
  | cons byte rest ih =>
      rw [startsAfter] at member
      rw [List.length_cons]
      split at member
      · rcases List.mem_cons.mp member with rfl | later
        · omega
        · have := ih later
          omega
      · have := ih member
        omega

/-- The starts up to a place are those of the text up to there. -/
theorem filter_startsAfter (offset place : Nat) (bytes : List UInt8) :
    (startsAfter offset bytes).filter (· ≤ offset + place) =
      startsAfter offset (bytes.take place) := by
  induction bytes generalizing offset place with
  | nil => simp [startsAfter]
  | cons byte rest ih =>
      cases place with
      | zero =>
          rw [List.take_zero, startsAfter, List.filter_eq_nil_iff]
          intro start member
          simpa using lt_of_mem_startsAfter member
      | succ place =>
          have later := ih (offset + 1) place
          rw [Nat.add_right_comm, Nat.add_assoc] at later
          rw [List.take_succ_cons, startsAfter, startsAfter]
          split
          · rw [List.filter_cons_of_pos (by simp), later]
          · exact later

theorem startsAfter_append (offset : Nat) (earlier later : List UInt8) :
    startsAfter offset (earlier ++ later) =
      startsAfter offset earlier ++ startsAfter (offset + earlier.length) later := by
  induction earlier generalizing offset with
  | nil => rfl
  | cons byte rest ih =>
      have shifted := ih (offset + 1)
      rw [Nat.add_right_comm, Nat.add_assoc] at shifted
      rw [List.cons_append, startsAfter, startsAfter, List.length_cons]
      split
      · rw [shifted, List.cons_append]
      · exact shifted

theorem getLast?_startsAfter (bytes : List UInt8) (offset : Nat) :
    (startsAfter 0 (bytes.take offset)).getLast?.getD 0 = lineStart bytes offset := by
  induction offset with
  | zero => rfl
  | succ offset ih =>
      rw [lineStart, List.take_add_one, startsAfter_append]
      cases here : bytes[offset]? with
      | none => simpa [startsAfter] using ih
      | some byte =>
          have known := (List.getElem?_eq_some_iff.mp here).1
          by_cases isFeed : byte = lineFeed
          · simp [startsAfter, isFeed, Nat.min_eq_left (Nat.le_of_lt known)]
          · simpa [startsAfter, isFeed] using ih

/-- The starts up to an offset are those of its line and of the lines before. -/
theorem take_starts (index : LineIndex) (offset : Nat) :
    index.starts.toList.take (index.line offset + 1) =
      index.starts.toList.filter (· ≤ offset) := by
  obtain ⟨start, here, before, after⟩ := index.line_spec offset
  have early : (index.starts.toList.take (index.line offset + 1)).filter (· ≤ offset) =
      index.starts.toList.take (index.line offset + 1) := by
    refine List.filter_eq_self.mpr fun earlier member => ?_
    obtain ⟨place, within, isEarlier⟩ := List.mem_take_iff_getElem.mp member
    have there : index.starts[place]? = some earlier := by
      rw [← Array.getElem?_toList, List.getElem?_eq_getElem (by omega), isEarlier]
    rcases Nat.lt_or_eq_of_le (show place ≤ index.line offset by omega) with less | rfl
    · have less := Search.lt_of_ascending index.ascending less there here
      exact decide_eq_true (Nat.le_trans (Nat.le_of_lt less) before)
    · cases here.symm.trans there
      exact decide_eq_true before
  have late : (index.starts.toList.drop (index.line offset + 1)).filter (· ≤ offset) = [] := by
    refine List.filter_eq_nil_iff.mpr fun later member => ?_
    obtain ⟨place, within, isLater⟩ := List.mem_drop_iff_getElem.mp member
    have there : index.starts[index.line offset + 1 + place]? = some later := by
      rw [← Array.getElem?_toList, List.getElem?_eq_getElem (by omega), isLater]
    simpa using after _ later (by omega) there
  conv => rhs; rw [← List.take_append_drop (index.line offset + 1) index.starts.toList]
  rw [List.filter_append, early, late, List.append_nil]

section

variable (short : bytes.length ≤ lastOffset)
include short

theorem starts_ofBytes : (ofBytes bytes).starts.toList = 0 :: startsAfter 0 bytes := by
  have all : (startsAfter 0 bytes).takeWhile (· ≤ lastOffset) = startsAfter 0 bytes := by
    refine List.takeWhile_eq_self_iff.mpr fun start member => decide_eq_true ?_
    have within := le_of_mem_startsAfter member
    rw [Nat.zero_add] at within
    exact Nat.le_trans within short
  exact congrArg (List.cons 0) all

theorem length_ofBytes : (ofBytes bytes).length = bytes.length := Nat.min_eq_left short

theorem lineCount_ofBytes : (ofBytes bytes).lineCount = bytes.count lineFeed + 1 := by
  rw [lineCount, ← Array.length_toList, starts_ofBytes short, List.length_cons, length_startsAfter]

/-- Up to the line of an offset, the lines start where the text before the offset has them
start. -/
theorem take_starts_ofBytes (offset : Nat) :
    (ofBytes bytes).starts.toList.take ((ofBytes bytes).line offset + 1) =
      0 :: startsAfter 0 (bytes.take offset) := by
  have upTo := filter_startsAfter 0 offset bytes
  rw [Nat.zero_add] at upTo
  rw [take_starts, starts_ofBytes short, List.filter_cons_of_pos (by simp), upTo]

theorem line_ofBytes (offset : Nat) :
    (ofBytes bytes).line offset = (bytes.take offset).count lineFeed := by
  obtain ⟨start, here, _, _⟩ := (ofBytes bytes).line_spec offset
  have known := (Array.getElem?_eq_some_iff.mp here).1
  rw [← Array.length_toList] at known
  have lengths := congrArg List.length (take_starts_ofBytes short offset)
  rw [List.length_take, List.length_cons, length_startsAfter] at lengths
  omega

theorem start_ofBytes (offset : Nat) :
    (ofBytes bytes).starts[(ofBytes bytes).line offset]? = some (lineStart bytes offset) := by
  obtain ⟨start, here, _, _⟩ := (ofBytes bytes).line_spec offset
  have last := congrArg List.getLast? (take_starts_ofBytes short offset)
  rw [List.getLast?_cons, getLast?_startsAfter, List.take_add_one, Array.getElem?_toList, here,
    Option.toList_some, List.getLast?_concat] at last
  rw [here, last]

theorem position_ofBytes (offset : Nat) :
    (ofBytes bytes).position offset =
      ⟨(bytes.take (min offset bytes.length)).count lineFeed,
        min offset bytes.length - lineStart bytes (min offset bytes.length)⟩ := by
  rw [position, length_ofBytes short, Array.getD_eq_getD_getElem?, start_ofBytes short,
    line_ofBytes short, Option.getD_some]

end

/-- The position of an offset tells how many line feeds come before it and how many bytes
after the last of them. The search for its line stops at a line that starts no later, and
positions are ordered as the offsets are. -/
theorem position_counts_lineFeeds (text : String) (short : text.utf8ByteSize < Nat.pow 2 32) :
    let bytes := text.toUTF8.data.toList
    let index := ofText text
    index.lineCount = bytes.count lineFeed + 1 ∧
    (∀ offset,
      let place := min offset text.utf8ByteSize
      index.position offset =
        ⟨(bytes.take place).count lineFeed, place - lineStart bytes place⟩ ∧
      (∀ line, Search.inArray index.starts place = .found line → line < index.lineCount) ∧
      (∀ next, Search.inArray index.starts place = .missing next →
        0 < next ∧ next - 1 < index.lineCount) ∧
      index.starts[index.line place]? = some (lineStart bytes place) ∧
      lineStart bytes place ≤ place) ∧
    (∀ first second, first < second → second ≤ text.utf8ByteSize →
      index.position first < index.position second) ∧
    ∀ start stop innerStart innerStop, start ≤ innerStart → innerStop ≤ stop →
      (index.span start stop).encloses (index.span innerStart innerStop) = true := by
  intro bytes index
  have size : bytes.length = text.utf8ByteSize := text.size_toByteArray
  have bounded : bytes.length ≤ lastOffset := by
    rw [size]
    exact Nat.le_sub_one_of_lt short
  refine ⟨lineCount_ofBytes bounded, fun offset => ?_, fun first second order within => ?_,
    fun _ _ _ _ left right => span_encloses_span left right⟩
  · rw [← size]
    obtain ⟨found, missing⟩ := index.search_within (min offset bytes.length)
    exact ⟨position_ofBytes bounded offset, found, missing, start_ofBytes bounded _,
      lineStart_le bytes _⟩
  · have whole : index.length = bytes.length := length_ofBytes bounded
    exact position_lt_position order (by omega)

def accentedLines : String := "\u00e9\n\nab"

theorem position_counts_lineFeeds_accented :
    accentedLines.utf8ByteSize < Nat.pow 2 32 ∧ (ofText accentedLines).lineCount = 3 ∧
      (ofText accentedLines).position 2 = ⟨0, 2⟩ ∧ (ofText accentedLines).position 3 = ⟨1, 0⟩ ∧
      (ofText accentedLines).position 9 = ⟨2, 2⟩ ∧
      (ofText accentedLines).position 3 < (ofText accentedLines).position 6 ∧
      ((ofText accentedLines).span 0 9).encloses ((ofText accentedLines).span 3 4) = true := by
  have short : accentedLines.utf8ByteSize < Nat.pow 2 32 := by decide
  obtain ⟨lines, places, ordered, nested⟩ := position_counts_lineFeeds accentedLines short
  refine ⟨short, lines.trans (by decide +kernel), (places 2).1.trans (by decide +kernel),
    (places 3).1.trans (by decide +kernel), (places 9).1.trans (by decide +kernel),
    ordered 3 6 (by decide) (by decide), nested 0 9 3 4 (by decide) (by decide)⟩

end LineIndex

end TypedTree
