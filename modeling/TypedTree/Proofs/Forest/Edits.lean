import TypedTree.Forest.Edit
import TypedTree.Proofs.Except

namespace TypedTree

theorem Cell.expectFeature_eq_ok_iff {cell : Cell} {name : String}
    {accepts : FeatureType → Bool} {feature : Feature} :
    cell.expectFeature name accepts = .ok feature ↔
      cell.concept.feature? name = some feature ∧ accepts feature.type = true := by
  unfold expectFeature
  cases found : cell.concept.feature? name with
  | none => simp
  | some declared =>
      by_cases accepted : accepts declared.type = true
      · simp only [if_pos accepted, Except.ok.injEq, Option.some.injEq]
        exact ⟨fun same => ⟨same, same ▸ accepted⟩, And.left⟩
      · simp only [if_neg accepted, Option.some.injEq]
        refine ⟨nofun, fun ⟨same, holds⟩ => ?_⟩
        exact absurd (same ▸ holds) accepted

namespace Forest

variable {forest after : Forest} {node child : NodeId} {feature : String} {cell : Cell}
  {declared : Feature}

theorem expectCell_eq_ok_iff :
    forest.expectCell node = .ok cell ↔ forest.cell? node = some cell := by
  unfold expectCell
  cases forest.cell? node <;> simp

/-- What lets a feature take a node in. -/
structure Accepts (forest : Forest) (node : NodeId) (declared : Feature) (child : NodeId) :
    Prop where
  notSelf : child ≠ node
  notAbove : child ∉ forest.ancestors node
  fits : ∃ concept, forest.concept? child = some concept ∧
    ∀ target, declared.type.target? = some target →
      concept.isPlaceholder = true ∨ concept.isA target = true

theorem checkChild_eq_ok_iff {checked : Unit} :
    forest.checkChild node cell declared child = .ok checked ↔
      forest.Accepts node declared child := by
  unfold checkChild
  by_cases above : child = node ∨ child ∈ forest.ancestors node
  · have refused : (child = node || (forest.ancestors node).contains child) = true := by
      simpa using above
    simp only [refused, if_true]
    refine ⟨nofun, fun accepted => ?_⟩
    exact (above.elim accepted.notSelf accepted.notAbove).elim
  · have apart : (child = node || (forest.ancestors node).contains child) = false := by
      simpa using above
    simp only [apart, Bool.false_eq_true, if_false]
    rw [not_or] at above
    have split : forest.Accepts node declared child ↔
        ∃ concept, forest.concept? child = some concept ∧
          ∀ target, declared.type.target? = some target →
            concept.isPlaceholder = true ∨ concept.isA target = true :=
      ⟨Accepts.fits, fun fits => ⟨above.1, above.2, fits⟩⟩
    rw [split]
    cases forest.concept? child with
    | none => simp
    | some concept =>
        cases declared.type.target? with
        | none => simp
        | some target =>
            by_cases placeholder : concept.isPlaceholder = true <;>
              by_cases kind : concept.isA target = true <;> simp [placeholder, kind]

theorem checkChildren_eq_ok_iff {seen children : List NodeId} {checked : Unit} :
    forest.checkChildren node cell declared seen children = .ok checked ↔
      children.Nodup ∧ (∀ child ∈ children, child ∉ seen) ∧
        ∀ child ∈ children, forest.Accepts node declared child := by
  induction children generalizing seen with
  | nil => simp [checkChildren]
  | cons first rest ih =>
      unfold checkChildren
      by_cases repeated : first ∈ seen
      · simp [repeated]
      · simp only [repeated, if_false, Except.bind_eq_ok_iff, ih, checkChild_eq_ok_iff,
          List.nodup_cons]
        constructor
        · intro ⟨_, accepted, distinct, apart, others⟩
          refine ⟨⟨fun again => apart first again List.mem_cons_self, distinct⟩, ?_, ?_⟩
          · intro child listed
            rcases List.mem_cons.mp listed with rfl | member
            · exact repeated
            · exact fun inSeen => apart child member (List.mem_cons_of_mem _ inSeen)
          · intro child listed
            rcases List.mem_cons.mp listed with rfl | member
            · exact accepted
            · exact others child member
        · intro ⟨⟨once, distinct⟩, apart, accepted⟩
          refine ⟨(), accepted first List.mem_cons_self, distinct, ?_, ?_⟩
          · intro child member inSeen
            rcases List.mem_cons.mp inSeen with same | earlier
            · exact once (same ▸ member)
            · exact apart child (List.mem_cons_of_mem _ member) earlier
          · exact fun child member => accepted child (List.mem_cons_of_mem _ member)

section

variable {target : String} (found : forest.cell? node = some cell)
  (known : cell.concept.feature? feature = some declared)
include found known

theorem setChild_of_feature (kind : declared.type = .child target) (child : Option NodeId) :
    forest.setChild node feature child =
      (child.toList.forM (forest.checkChild node cell declared)).map fun _ =>
        forest.attach node feature child.toList .replace := by
  have present : forest.expectCell node = .ok cell := expectCell_eq_ok_iff.mpr found
  simp only [setChild, present, Cell.expectFeature, bind, Except.bind, known, kind, if_true]
  rfl

theorem setChildren_of_feature (kind : declared.type = .children target)
    (children : List NodeId) :
    forest.setChildren node feature children =
      (forest.checkChildren node cell declared [] children).map fun _ =>
        forest.attach node feature children .replace := by
  have present : forest.expectCell node = .ok cell := expectCell_eq_ok_iff.mpr found
  simp only [setChildren, present, Cell.expectFeature, bind, Except.bind, known, kind, if_true]
  rfl

end

theorem setAttribute_eq_ok_iff {value : Option Value} :
    forest.setAttribute node feature value = .ok after ↔
      ∃ cell declared, forest.cell? node = some cell ∧
        cell.concept.feature? feature = some declared ∧ declared.type = .attribute ∧
        after = forest.modify node (·.setSlot feature (.attribute value)) := by
  simp only [setAttribute, Except.bind_eq_ok_iff, Except.pure_eq_ok_iff, Except.discard_eq_ok_iff,
    expectCell_eq_ok_iff, Cell.expectFeature_eq_ok_iff]
  constructor
  · intro parts
    obtain ⟨cell, found, _, ⟨declared, known, kind⟩, rfl⟩ := parts
    refine ⟨cell, declared, found, known, ?_, rfl⟩
    cases type : declared.type <;> simp_all
  · intro parts
    obtain ⟨cell, declared, found, known, kind, rfl⟩ := parts
    exact ⟨cell, found, ⟨⟩, ⟨declared, known, by rw [kind]⟩, rfl⟩

theorem setReference_eq_ok_iff {link : Option Reference} :
    forest.setReference node feature link = .ok after ↔
      ∃ cell declared, forest.cell? node = some cell ∧
        cell.concept.feature? feature = some declared ∧ declared.type.isReference = true ∧
        after = forest.modify node (·.setSlot feature (.reference link)) := by
  simp only [setReference, Except.bind_eq_ok_iff, Except.pure_eq_ok_iff, Except.discard_eq_ok_iff,
    expectCell_eq_ok_iff, Cell.expectFeature_eq_ok_iff]
  constructor
  · intro parts
    obtain ⟨cell, found, _, ⟨declared, known, kind⟩, rfl⟩ := parts
    exact ⟨cell, declared, found, known, kind, rfl⟩
  · intro parts
    obtain ⟨cell, declared, found, known, kind, rfl⟩ := parts
    exact ⟨cell, found, ⟨⟩, ⟨declared, known, kind⟩, rfl⟩

theorem resolveReference_eq_ok_iff {target : NodeId} :
    forest.resolveReference node feature target = .ok after ↔
      ∃ cell declared link, forest.cell? node = some cell ∧
        cell.concept.feature? feature = some declared ∧ declared.type.isReference = true ∧
        cell.reference? feature = some link ∧
        after = forest.modify node
          (·.setSlot feature (.reference (some { link with target := some target }))) := by
  simp only [resolveReference, Except.bind_eq_ok_iff, Except.discard_eq_ok_iff,
    expectCell_eq_ok_iff, Cell.expectFeature_eq_ok_iff]
  constructor
  · intro ⟨cell, found, _, ⟨declared, known, kind⟩, resolved⟩
    cases set : cell.reference? feature with
    | none => simp [set, throw, throwThe, MonadExceptOf.throw] at resolved
    | some link =>
        rw [set] at resolved
        cases resolved
        exact ⟨cell, declared, link, found, known, kind, set, rfl⟩
  · intro parts
    obtain ⟨cell, declared, link, found, known, kind, set, rfl⟩ := parts
    exact ⟨cell, found, ⟨⟩, ⟨declared, known, kind⟩, by rw [set]; rfl⟩

theorem setChild_eq_ok_iff {child : Option NodeId} :
    forest.setChild node feature child = .ok after ↔
      ∃ cell declared target, forest.cell? node = some cell ∧
        cell.concept.feature? feature = some declared ∧ declared.type = .child target ∧
        (∀ inner ∈ child, forest.Accepts node declared inner) ∧
        after = forest.attach node feature child.toList .replace := by
  simp only [setChild, Except.bind_eq_ok_iff, Except.pure_eq_ok_iff, Except.forM_toList_eq_ok_iff,
    expectCell_eq_ok_iff, Cell.expectFeature_eq_ok_iff, checkChild_eq_ok_iff]
  constructor
  · intro parts
    obtain ⟨cell, found, declared, ⟨known, kind⟩, _, accepted, rfl⟩ := parts
    cases type : declared.type with
    | child target => exact ⟨cell, declared, target, found, known, type, accepted, rfl⟩
    | _ => simp [type] at kind
  · intro parts
    obtain ⟨cell, declared, target, found, known, kind, accepted, rfl⟩ := parts
    exact ⟨cell, found, declared, ⟨known, by rw [kind]⟩, ⟨⟩, accepted, rfl⟩

theorem setChildren_eq_ok_iff {children : List NodeId} :
    forest.setChildren node feature children = .ok after ↔
      ∃ cell declared target, forest.cell? node = some cell ∧
        cell.concept.feature? feature = some declared ∧ declared.type = .children target ∧
        children.Nodup ∧ (∀ child ∈ children, forest.Accepts node declared child) ∧
        after = forest.attach node feature children .replace := by
  simp only [setChildren, Except.bind_eq_ok_iff, Except.pure_eq_ok_iff, expectCell_eq_ok_iff,
    Cell.expectFeature_eq_ok_iff, checkChildren_eq_ok_iff]
  constructor
  · intro parts
    obtain ⟨cell, found, declared, ⟨known, kind⟩, _, ⟨distinct, _, accepted⟩, rfl⟩ := parts
    cases type : declared.type with
    | children target =>
        exact ⟨cell, declared, target, found, known, type, distinct, accepted, rfl⟩
    | _ => simp [type] at kind
  · intro parts
    obtain ⟨cell, declared, target, found, known, kind, distinct, accepted, rfl⟩ := parts
    exact ⟨cell, found, declared, ⟨known, by rw [kind]⟩, ⟨⟩,
      ⟨distinct, fun child _ => List.not_mem_nil, accepted⟩, rfl⟩

theorem addChild_eq_ok_iff :
    forest.addChild node feature child = .ok after ↔
      ∃ cell declared target, forest.cell? node = some cell ∧
        cell.concept.feature? feature = some declared ∧ declared.type = .children target ∧
        forest.Accepts node declared child ∧
        after = forest.attach node feature [child] .append := by
  simp only [addChild, Except.bind_eq_ok_iff, Except.pure_eq_ok_iff, expectCell_eq_ok_iff,
    Cell.expectFeature_eq_ok_iff, checkChild_eq_ok_iff]
  constructor
  · intro parts
    obtain ⟨cell, found, declared, ⟨known, kind⟩, _, accepted, rfl⟩ := parts
    cases type : declared.type with
    | children target =>
        exact ⟨cell, declared, target, found, known, type, accepted, rfl⟩
    | _ => simp [type] at kind
  · intro parts
    obtain ⟨cell, declared, target, found, known, kind, accepted, rfl⟩ := parts
    exact ⟨cell, found, declared, ⟨known, by rw [kind]⟩, ⟨⟩, accepted, rfl⟩

end Forest

end TypedTree
