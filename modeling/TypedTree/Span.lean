namespace TypedTree

/-- Lines and columns count from zero here and from one in texts. -/
structure Position where
  line : Nat
  column : Nat
deriving DecidableEq, Repr, Inhabited

namespace Position

instance : LE Position where
  le first second :=
    first.line < second.line ∨ (first.line = second.line ∧ first.column ≤ second.column)

instance : LT Position where
  lt first second :=
    first.line < second.line ∨ (first.line = second.line ∧ first.column < second.column)

instance (first second : Position) : Decidable (first ≤ second) :=
  inferInstanceAs (Decidable (_ ∨ _))

instance (first second : Position) : Decidable (first < second) :=
  inferInstanceAs (Decidable (_ ∨ _))

instance : Min Position := minOfLe

instance : Max Position := maxOfLe

/-- A coordinate as it is written: one more, in 64-bit arithmetic. -/
def oneBased (coordinate : Nat) : String := Nat.repr ((coordinate + 1) % Nat.pow 2 64)

def text (position : Position) : String :=
  oneBased position.line ++ ":" ++ oneBased position.column

theorem le_def {first second : Position} :
    first ≤ second ↔
      first.line < second.line ∨ (first.line = second.line ∧ first.column ≤ second.column) :=
  Iff.rfl

theorem lt_def {first second : Position} :
    first < second ↔
      first.line < second.line ∨ (first.line = second.line ∧ first.column < second.column) :=
  Iff.rfl

theorem le_refl (position : Position) : position ≤ position := by
  simp [le_def]

theorem le_trans {first second third : Position} (lower : first ≤ second)
    (upper : second ≤ third) : first ≤ third := by
  rw [le_def] at *
  omega

theorem le_total (first second : Position) : first ≤ second ∨ second ≤ first := by
  simp only [le_def]
  omega

theorem le_antisymm {first second : Position} (lower : first ≤ second)
    (upper : second ≤ first) : first = second := by
  rw [le_def] at *
  cases first
  cases second
  simp only [mk.injEq] at *
  omega

end Position

structure Span where
  start : Position
  stop : Position
deriving DecidableEq, Repr, Inhabited

namespace Span

/-- Both ends belong to a span. -/
def contains (span : Span) (position : Position) : Bool :=
  span.start ≤ position && position ≤ span.stop

def encloses (outer inner : Span) : Bool :=
  outer.start ≤ inner.start && inner.stop ≤ outer.stop

/-- The span from the earlier start to the later end. -/
def cover (first second : Span) : Span :=
  ⟨min first.start second.start, max first.stop second.stop⟩

def text (span : Span) : String := span.start.text ++ "-" ++ span.stop.text

theorem encloses_iff {outer inner : Span} :
    outer.encloses inner = true ↔ outer.start ≤ inner.start ∧ inner.stop ≤ outer.stop := by
  simp [encloses]

theorem encloses_refl (span : Span) : span.encloses span = true :=
  encloses_iff.mpr ⟨Position.le_refl _, Position.le_refl _⟩

theorem encloses_trans {outer middle inner : Span} (upper : outer.encloses middle = true)
    (lower : middle.encloses inner = true) : outer.encloses inner = true := by
  rw [encloses_iff] at *
  exact ⟨Position.le_trans upper.1 lower.1, Position.le_trans lower.2 upper.2⟩

end Span

end TypedTree
