import TypedTree.Span

namespace TypedTree

/-! # Line index

A line index turns byte offsets of a text into positions. A line starts at the
beginning of the text and after every line feed; columns count bytes. Offsets are
words of 32 bits, so that a line which starts further on is not indexed. Offsets past
the end count as the end.
-/

/-- Where a value stands in an ascending array, or where it would have to go in. -/
inductive Search where
  | found (index : Nat)
  | missing (index : Nat)
deriving DecidableEq, Repr

namespace Search

/-- The last of the indices `low`, …, `high - 1` that holds no more than `value`, given
that `low` does; the range is halved until one index is left. -/
def bisect (values : Array Nat) (value low high : Nat) : Nat :=
  if high ≤ low + 1 then low
  else
    let middle := (low + high) / 2
    if values.getD middle 0 ≤ value then bisect values value middle high
    else bisect values value low middle
termination_by high - low

def inArray (values : Array Nat) (value : Nat) : Search :=
  let index := bisect values value 0 values.size
  match values[index]? with
  | none => .missing 0
  | some held =>
      if held = value then .found index
      else if held < value then .missing (index + 1)
      else .missing index

end Search

structure LineIndex where
  /-- The offset of the first byte of every line. -/
  starts : Array Nat
  length : Nat
  first : starts[0]? = some 0
  ascending : starts.toList.Pairwise (· < ·)
deriving DecidableEq, Repr

namespace LineIndex

def lineFeed : UInt8 := 10

def lastOffset : Nat := Nat.pow 2 32 - 1

/-- The offsets just after the line feeds of `bytes`, the first byte standing at
`offset`. -/
def startsAfter (offset : Nat) : List UInt8 → List Nat
  | [] => []
  | byte :: rest =>
      if byte = lineFeed then (offset + 1) :: startsAfter (offset + 1) rest
      else startsAfter (offset + 1) rest

theorem lt_of_mem_startsAfter {offset start : Nat} {bytes : List UInt8}
    (member : start ∈ startsAfter offset bytes) : offset < start := by
  induction bytes generalizing offset with
  | nil => cases member
  | cons byte rest ih =>
      rw [startsAfter] at member
      split at member
      · rcases List.mem_cons.mp member with rfl | later
        · exact Nat.lt_succ_self offset
        · exact Nat.lt_of_succ_lt (ih later)
      · exact Nat.lt_of_succ_lt (ih member)

theorem pairwise_startsAfter (offset : Nat) (bytes : List UInt8) :
    (startsAfter offset bytes).Pairwise (· < ·) := by
  induction bytes generalizing offset with
  | nil => exact .nil
  | cons byte rest ih =>
      rw [startsAfter]
      split
      · exact .cons (fun _ later => lt_of_mem_startsAfter later) (ih (offset + 1))
      · exact ih (offset + 1)

def ofBytes (bytes : List UInt8) : LineIndex where
  starts := (0 :: (startsAfter 0 bytes).takeWhile (· ≤ lastOffset)).toArray
  length := min bytes.length lastOffset
  first := rfl
  ascending :=
    have kept := List.takeWhile_sublist _
    .cons (fun _ later => lt_of_mem_startsAfter (kept.subset later))
      ((pairwise_startsAfter 0 bytes).sublist kept)

instance : Inhabited LineIndex := ⟨ofBytes []⟩

def ofText (text : String) : LineIndex := ofBytes text.toUTF8.data.toList

def lineCount (index : LineIndex) : Nat := index.starts.size

/-- The line of an offset of the text: the one that starts there, or else the one before
the place where a line that starts there would go in. -/
def line (index : LineIndex) (offset : Nat) : Nat :=
  match Search.inArray index.starts offset with
  | .found line => line
  | .missing next => next - 1

def position (index : LineIndex) (offset : Nat) : Position :=
  let offset := min offset index.length
  let line := index.line offset
  ⟨line, offset - index.starts.getD line 0⟩

def span (index : LineIndex) (start stop : Nat) : Span :=
  ⟨index.position start, index.position stop⟩

end LineIndex

end TypedTree
