import TypedTree.Proofs.Forest.History

namespace TypedTree.Forest

variable {forest after : Forest} {cell : Cell}

structure Later (forest after : Forest) : Prop where
  nextId : forest.nextId ≤ after.nextId
  alive : ∀ node < forest.nextId, after.isAlive node = true → forest.isAlive node = true

theorem Later.refl (forest : Forest) : forest.Later forest :=
  ⟨Nat.le_refl _, fun _ _ alive => alive⟩

theorem later_add : forest.Later (forest.add cell).2 where
  nextId := by
    rw [nextId_add]
    exact Nat.le_succ _
  alive node known there := by
    rw [isAlive_add, Bool.or_eq_true, beq_iff_eq] at there
    exact there.resolve_left (Nat.ne_of_lt known)

theorem Swept.later (swept : forest.Swept after) : forest.Later after where
  nextId := Nat.le_of_eq swept.nextId.symm
  alive node _ there := by
    obtain ⟨cell, found⟩ := Option.isSome_iff_exists.mp there
    rw [isAlive, swept.cells node cell found]
    rfl

theorem later_modify (node : NodeId) (change : Cell → Cell) :
    forest.Later (forest.modify node change) :=
  ⟨by simp, fun _ _ there => by simpa using there⟩

theorem later_attach {node : NodeId} {feature : String} {incoming : List NodeId}
    {placement : Placement} : forest.Later (forest.attach node feature incoming placement) :=
  ⟨by simp, fun _ _ there => by simpa using there⟩

theorem later_apply {edit : Edit} (applied : forest.apply edit = .ok after) :
    forest.Later after := by
  match edit with
  | .setAttribute node feature value =>
      obtain ⟨_, _, _, _, _, rfl⟩ := setAttribute_eq_ok_iff.mp applied
      exact later_modify node _
  | .setReference node feature link =>
      obtain ⟨_, _, _, _, _, rfl⟩ := setReference_eq_ok_iff.mp applied
      exact later_modify node _
  | .resolveReference node feature target =>
      obtain ⟨_, _, _, _, _, _, _, rfl⟩ := resolveReference_eq_ok_iff.mp applied
      exact later_modify node _
  | .setChild node feature child =>
      obtain ⟨_, _, _, _, _, _, _, rfl⟩ := setChild_eq_ok_iff.mp applied
      exact later_attach
  | .setChildren node feature children =>
      obtain ⟨_, _, _, _, _, _, _, _, rfl⟩ := setChildren_eq_ok_iff.mp applied
      exact later_attach
  | .addChild node feature child =>
      obtain ⟨_, _, _, _, _, _, _, rfl⟩ := addChild_eq_ok_iff.mp applied
      exact later_attach
  | .setOrigin node origin =>
      cases applied
      exact later_modify node _
  | .setRange node range =>
      cases applied
      exact later_modify node _
  | .setSource node source =>
      cases applied
      exact later_modify node _

theorem later_perform (schema : Schema) (operation : Operation) :
    forest.Later (forest.perform schema operation) := by
  match operation with
  | .create concept =>
      simp only [perform, create]
      cases schema.concept? concept with
      | none => exact Later.refl forest
      | some declared => exact later_add
  | .createGeneric => exact later_add
  | .createError message => exact later_add
  | .edit edit =>
      simp only [perform]
      cases applied : forest.apply edit with
      | error reason => exact Later.refl forest
      | ok after => exact later_apply applied
  | .hold handle node => exact ⟨Nat.le_refl _, fun _ _ there => there⟩
  | .release handle => exact ⟨Nat.le_refl _, fun _ _ there => there⟩
  | .sweep others => exact (swept_sweepRounds _ _).later

end TypedTree.Forest
