import TypedTree.Proofs.Forest.Targets
import TypedTree.Proofs.Forest.History

namespace TypedTree

/-! # Edits succeed or change nothing

In place, an edit is a sequence of steps that look at the forest or write to it, and a step
that fails takes back nothing of what was written before it. Here the edits are spelled out
as such steps. All that can fail comes before the first write, so an edit that is refused,
be it for the last of many nodes, leaves the forest as it was. What is refused is told by
the features, the concepts and the parents of the nodes alone.
-/

/-- Steps on one forest; a failure leaves it as the steps before have made it. -/
abbrev Editing := EStateM EditError Forest

namespace Editing

variable {α β : Type}

def look (reading : Forest → Except EditError α) : Editing α := fun forest =>
  match reading forest with
  | .ok value => .ok value forest
  | .error error => .error error forest

def write (change : Forest → Forest) : Editing Unit := fun forest => .ok () (change forest)

def expectFeature (node : NodeId) (feature : String) (accepts : FeatureType → Bool) :
    Editing (Cell × Feature) := do
  let cell ← look (·.expectCell node)
  let declared ← look fun _ => cell.expectFeature feature accepts
  return (cell, declared)

def checkChildren (node : NodeId) (cell : Cell) (declared : Feature) (seen : List NodeId) :
    List NodeId → Editing Unit
  | [] => return ()
  | child :: rest => do
      if child ∈ seen then throw (.rejected cell.concept.name declared.name .repeatedNode)
      look (·.checkChild node cell declared child)
      checkChildren node cell declared (child :: seen) rest

def attach (node : NodeId) (feature : String) (incoming : List NodeId) (placement : Placement) :
    Editing Unit := do
  incoming.forM fun child => write (·.detach child)
  let forest ← get
  let displaced :=
    (((forest.cell? node).bind (·.slot? feature)).map (·.displaced placement)).getD []
  write (·.modify node (·.changeSlot feature (·.place incoming placement)))
  (displaced.filter (· ∉ incoming)).forM fun child => write (·.setParent child none)
  incoming.forM fun child => write (·.setParent child (some node))

end Editing

open Editing in
def Edit.inPlace : Edit → Editing Unit
  | .setAttribute node feature value => do
      let _ ← expectFeature node feature fun type => type matches .attribute
      write (·.modify node (·.setSlot feature (.attribute value)))
  | .setReference node feature link => do
      let _ ← expectFeature node feature FeatureType.isReference
      write (·.modify node (·.setSlot feature (.reference link)))
  | .resolveReference node feature target => do
      let (cell, _) ← expectFeature node feature FeatureType.isReference
      match cell.reference? feature with
      | some link =>
          write (·.modify node
            (·.setSlot feature (.reference (some { link with target := some target }))))
      | none => throw (.rejected cell.concept.name feature .noReference)
  | .setChild node feature child => do
      let (cell, declared) ← expectFeature node feature fun type => type matches .child _
      child.toList.forM fun inner => look (·.checkChild node cell declared inner)
      attach node feature child.toList .replace
  | .setChildren node feature children => do
      let (cell, declared) ← expectFeature node feature fun type => type matches .children _
      checkChildren node cell declared [] children
      attach node feature children .replace
  | .addChild node feature child => do
      let (cell, declared) ← expectFeature node feature fun type => type matches .children _
      look (·.checkChild node cell declared child)
      attach node feature [child] .append
  | .setOrigin node origin => write (·.setOrigin node origin)
  | .setRange node range => write (·.setRange node range)
  | .setSource node source => write (·.setSource node source)

namespace Editing

variable {α β : Type} {forest : Forest}

theorem look_bind (reading : Forest → Except EditError α)
    (next : α → Forest → Except EditError β) :
    (look reading >>= fun value => look (next value)) =
      look fun forest => reading forest >>= fun value => next value forest := by
  funext forest
  simp only [bind, EStateM.bind, look, Except.bind]
  cases reading forest <;> rfl

theorem write_bind (first second : Forest → Forest) :
    (write first >>= fun _ => write second) = write fun forest => second (first forest) := rfl

theorem forM_look (items : List α) (check : α → Forest → Except EditError Unit) :
    (items.forM fun item => look (check item)) =
      look fun forest => items.forM fun item => check item forest := by
  induction items with
  | nil => rfl
  | cons item rest ih =>
      have step : ((item :: rest).forM fun item => look (check item)) =
          look (check item) >>= fun _ => rest.forM fun item => look (check item) := rfl
      rw [step, ih]
      exact look_bind (check item) _

theorem forM_write (items : List α) (change : Forest → α → Forest) :
    (items.forM fun item => write (change · item)) = write (items.foldl change ·) := by
  induction items with
  | nil => rfl
  | cons item rest ih =>
      have step : ((item :: rest).forM fun item => write (change · item)) =
          write (change · item) >>= fun _ => rest.forM fun item => write (change · item) := rfl
      rw [step, ih, write_bind]
      rfl

theorem checkChildren_eq_look (node : NodeId) (cell : Cell) (declared : Feature)
    (seen children : List NodeId) :
    checkChildren node cell declared seen children =
      look (·.checkChildren node cell declared seen children) := by
  induction children generalizing seen with
  | nil => rfl
  | cons child rest ih =>
      rw [checkChildren, ih]
      by_cases repeated : child ∈ seen
      · funext forest
        simp only [repeated, if_true, look, Forest.checkChildren]
        rfl
      · simp only [repeated, if_false, Forest.checkChildren]
        exact look_bind _ _

theorem attach_eq_write (node : NodeId) (feature : String) (incoming : List NodeId)
    (placement : Placement) :
    attach node feature incoming placement = write (·.attach node feature incoming placement) := by
  simp only [attach, forM_write incoming Forest.detach,
    forM_write _ fun forest child => forest.setParent child none,
    forM_write _ fun forest child => forest.setParent child (some node)]
  rfl

/-- The outcome of an edit of which nothing is left if it fails. -/
def outcome (forest : Forest) : Except EditError Forest → EStateM.Result EditError Forest Unit
  | .ok after => .ok () after
  | .error error => .error error forest

theorem run_look_bind_write (reading : Forest → Except EditError α)
    (change : α → Forest → Forest) :
    (look reading >>= fun value => write (change value)).run forest =
      outcome forest (reading forest >>= fun value => pure (change value forest)) := by
  simp only [EStateM.run, bind, EStateM.bind, look]
  cases reading forest <;> rfl

/-- Steps after the lookup of a feature amount to an edit if they do so for every feature. -/
theorem run_expectFeature_bind {node : NodeId} {feature : String} {accepts : FeatureType → Bool}
    {steps : Cell × Feature → Editing Unit} {edit : Cell → Feature → Except EditError Forest}
    (same : ∀ cell declared, (steps (cell, declared)).run forest =
      outcome forest (edit cell declared)) :
    (expectFeature node feature accepts >>= steps).run forest =
      outcome forest (forest.expectCell node >>= fun cell =>
        cell.expectFeature feature accepts >>= fun declared => edit cell declared) := by
  simp only [EStateM.run, bind, EStateM.bind, expectFeature, look]
  cases forest.expectCell node with
  | error error => rfl
  | ok cell =>
      simp only [Except.bind]
      cases cell.expectFeature feature accepts with
      | error error => rfl
      | ok declared => exact same cell declared

theorem run_inPlace (forest : Forest) (edit : Edit) :
    edit.inPlace.run forest = outcome forest (forest.apply edit) := by
  cases edit with
  | setAttribute node feature value =>
      simp only [Edit.inPlace, Forest.apply, Forest.setAttribute, Except.discard_bind]
      exact run_expectFeature_bind fun _ _ => rfl
  | setReference node feature link =>
      simp only [Edit.inPlace, Forest.apply, Forest.setReference, Except.discard_bind]
      exact run_expectFeature_bind fun _ _ => rfl
  | resolveReference node feature target =>
      simp only [Edit.inPlace, Forest.apply, Forest.resolveReference, Except.discard_bind]
      refine run_expectFeature_bind fun cell declared => ?_
      cases cell.reference? feature <;> rfl
  | setChild node feature child =>
      simp only [Edit.inPlace, Forest.apply, Forest.setChild, forM_look, attach_eq_write]
      exact run_expectFeature_bind fun _ _ => run_look_bind_write _ _
  | setChildren node feature children =>
      simp only [Edit.inPlace, Forest.apply, Forest.setChildren, checkChildren_eq_look,
        attach_eq_write]
      exact run_expectFeature_bind fun _ _ => run_look_bind_write _ _
  | addChild node feature child =>
      simp only [Edit.inPlace, Forest.apply, Forest.addChild, attach_eq_write]
      exact run_expectFeature_bind fun _ _ => run_look_bind_write _ _
  | setOrigin | setRange | setSource => rfl

end Editing

namespace Forest

variable {forest : Forest} {node child : NodeId} {feature : String}

def Declares (forest : Forest) (node : NodeId) (feature : String) (type : FeatureType) : Prop :=
  ∃ concept declared, forest.concept? node = some concept ∧
    concept.feature? feature = some declared ∧ declared.type = type

/-- What `node` may contain in a feature for nodes of the concept `target`. -/
structure Admits (forest : Forest) (node : NodeId) (target : String) (child : NodeId) :
    Prop where
  notSelf : child ≠ node
  notAbove : ¬ forest.IsAncestor child node
  fits : ∃ concept, forest.concept? child = some concept ∧
    (concept.isPlaceholder = true ∨ concept.isA target = true)

def Permits (forest : Forest) : Edit → Prop
  | .setAttribute node feature _ => forest.Declares node feature .attribute
  | .setReference node feature _ => ∃ target, forest.Declares node feature (.reference target)
  | .resolveReference node feature _ =>
      (∃ target, forest.Declares node feature (.reference target)) ∧
        ∃ link, forest.link? node feature = some link
  | .setChild node feature child =>
      ∃ target, forest.Declares node feature (.child target) ∧
        ∀ inner ∈ child, forest.Admits node target inner
  | .setChildren node feature children =>
      ∃ target, forest.Declares node feature (.children target) ∧ children.Nodup ∧
        ∀ child ∈ children, forest.Admits node target child
  | .addChild node feature child =>
      ∃ target, forest.Declares node feature (.children target) ∧ forest.Admits node target child
  | .setOrigin .. | .setRange .. | .setSource .. => True

theorem declares_iff {type : FeatureType} :
    forest.Declares node feature type ↔
      ∃ cell declared, forest.cell? node = some cell ∧
        cell.concept.feature? feature = some declared ∧ declared.type = type := by
  simp only [Declares, concept?]
  cases forest.cell? node <;> simp

theorem Grounded.accepts_iff_admits (grounded : forest.Grounded) {declared : Feature}
    {target : String} (named : declared.type.target? = some target) :
    forest.Accepts node declared child ↔ forest.Admits node target child := by
  constructor
  · intro accepted
    obtain ⟨concept, known, suits⟩ := accepted.fits
    exact ⟨accepted.notSelf, fun above => accepted.notAbove (grounded.mem_ancestors_iff.mpr above),
      concept, known, suits target named⟩
  · intro admitted
    obtain ⟨concept, known, suits⟩ := admitted.fits
    refine ⟨admitted.notSelf, fun above => ?_, concept, known, fun other same => ?_⟩
    · exact admitted.notAbove (grounded.mem_ancestors_iff.mp above)
    · cases named.symm.trans same
      exact suits

theorem declares_reference_iff :
    (∃ target, forest.Declares node feature (.reference target)) ↔
      ∃ cell declared, forest.cell? node = some cell ∧
        cell.concept.feature? feature = some declared ∧ declared.type.isReference = true := by
  simp only [declares_iff]
  constructor
  · rintro ⟨target, cell, declared, found, known, kind⟩
    exact ⟨cell, declared, found, known, by rw [kind]; rfl⟩
  · rintro ⟨cell, declared, found, known, kind⟩
    cases type : declared.type with
    | reference target => exact ⟨target, cell, declared, found, known, type⟩
    | _ => simp [type, FeatureType.isReference] at kind

theorem Grounded.exists_apply_iff (grounded : forest.Grounded) (edit : Edit) :
    (∃ after, forest.apply edit = .ok after) ↔ forest.Permits edit := by
  cases edit with
  | setAttribute node feature value =>
      simp only [apply, Permits, setAttribute_eq_ok_iff, declares_iff]
      constructor
      · rintro ⟨_, cell, declared, found, known, kind, _⟩
        exact ⟨cell, declared, found, known, kind⟩
      · rintro ⟨cell, declared, found, known, kind⟩
        exact ⟨_, cell, declared, found, known, kind, rfl⟩
  | setReference node feature link =>
      simp only [apply, Permits, setReference_eq_ok_iff, declares_reference_iff]
      constructor
      · rintro ⟨_, cell, declared, found, known, kind, _⟩
        exact ⟨cell, declared, found, known, kind⟩
      · rintro ⟨cell, declared, found, known, kind⟩
        exact ⟨_, cell, declared, found, known, kind, rfl⟩
  | resolveReference node feature target =>
      simp only [apply, Permits, resolveReference_eq_ok_iff, declares_reference_iff, link?]
      constructor
      · rintro ⟨_, cell, declared, link, found, known, kind, set, _⟩
        exact ⟨⟨cell, declared, found, known, kind⟩, link, by rw [found]; exact set⟩
      · rintro ⟨⟨cell, declared, found, known, kind⟩, link, set⟩
        rw [found] at set
        exact ⟨_, cell, declared, link, found, known, kind, set, rfl⟩
  | setChild node feature child =>
      simp only [apply, Permits, setChild_eq_ok_iff, declares_iff]
      constructor
      · rintro ⟨_, cell, declared, target, found, known, kind, accepted, _⟩
        refine ⟨target, ⟨cell, declared, found, known, kind⟩, fun inner member => ?_⟩
        exact (grounded.accepts_iff_admits (by rw [kind]; rfl)).mp (accepted inner member)
      · rintro ⟨target, ⟨cell, declared, found, known, kind⟩, admitted⟩
        refine ⟨_, cell, declared, target, found, known, kind, fun inner member => ?_, rfl⟩
        exact (grounded.accepts_iff_admits (by rw [kind]; rfl)).mpr (admitted inner member)
  | setChildren node feature children =>
      simp only [apply, Permits, setChildren_eq_ok_iff, declares_iff]
      constructor
      · rintro ⟨_, cell, declared, target, found, known, kind, distinct, accepted, _⟩
        refine ⟨target, ⟨cell, declared, found, known, kind⟩, distinct, fun inner member => ?_⟩
        exact (grounded.accepts_iff_admits (by rw [kind]; rfl)).mp (accepted inner member)
      · rintro ⟨target, ⟨cell, declared, found, known, kind⟩, distinct, admitted⟩
        refine ⟨_, cell, declared, target, found, known, kind, distinct, fun inner member => ?_,
          rfl⟩
        exact (grounded.accepts_iff_admits (by rw [kind]; rfl)).mpr (admitted inner member)
  | addChild node feature child =>
      simp only [apply, Permits, addChild_eq_ok_iff, declares_iff]
      constructor
      · rintro ⟨_, cell, declared, target, found, known, kind, accepted, _⟩
        exact ⟨target, ⟨cell, declared, found, known, kind⟩,
          (grounded.accepts_iff_admits (by rw [kind]; rfl)).mp accepted⟩
      · rintro ⟨target, ⟨cell, declared, found, known, kind⟩, admitted⟩
        exact ⟨_, cell, declared, target, found, known, kind,
          (grounded.accepts_iff_admits (by rw [kind]; rfl)).mpr admitted, rfl⟩
  | setOrigin | setRange | setSource => simp [apply, Permits]

variable {decls : List ConceptDecl} {schema : Schema}

/-- In every forest, an edit succeeds exactly if it is permitted; in place, one that is
refused leaves every node as it was. -/
theorem exists_apply_iff_permits (built : Schema.build decls = .ok schema)
    (operations : List Operation) (edit : Edit) :
    let forest := run schema operations
    ((∃ after, forest.apply edit = .ok after) ↔ forest.Permits edit) ∧
    (∀ after, forest.apply edit = .ok after → edit.inPlace.run forest = .ok () after) ∧
    (∀ error, forest.apply edit = .error error →
      edit.inPlace.run forest = .error error forest) := by
  intro forest
  have grounded : forest.Grounded := (wellLinked_run built operations).grounded
  refine ⟨grounded.exists_apply_iff edit, fun after applied => ?_, fun error refused => ?_⟩
  · rw [Editing.run_inPlace, applied]
    rfl
  · rw [Editing.run_inPlace, refused]
    rfl

/-- A node that contains two others. -/
def pairMoves : List Operation :=
  [.create "Box", .create "Box", .create "Box", .edit (.setChildren 0 "items" [1, 2])]

/-- A list of nodes of which only the last is refused, because it contains the others. -/
theorem exists_apply_iff_permits_above :
    ∃ schema error,
      Schema.build [(ConceptDecl.named "Box").addFeature "items" (.children "Box")] = .ok schema ∧
      ¬ (run schema pairMoves).Permits (.setChildren 1 "items" [2, 0]) ∧
      (Edit.setChildren 1 "items" [2, 0]).inPlace.run (run schema pairMoves) =
        .error error (run schema pairMoves) ∧
      (run schema pairMoves).Permits (.addChild 1 "items" 2) := by
  have answers : (Schema.build
      [(ConceptDecl.named "Box").addFeature "items" (.children "Box")]).toOption.map (fun schema =>
      [.setChildren 1 "items" [2, 0], .addChild 1 "items" 2].map fun edit =>
        ((run schema pairMoves).apply edit).isOk) = some [false, true] := by
    decide +kernel
  cases built : Schema.build
      [(ConceptDecl.named "Box").addFeature "items" (.children "Box")] with
  | error reason =>
      rw [built] at answers
      cases answers
  | ok schema =>
      rw [built] at answers
      simp only [Except.toOption, Option.map_some, Option.some.injEq, List.map_cons, List.map_nil,
        List.cons.injEq, and_true] at answers
      obtain ⟨refused, accepted⟩ := answers
      obtain ⟨permits, _, unchanged⟩ :=
        exists_apply_iff_permits built pairMoves (.setChildren 1 "items" [2, 0])
      obtain ⟨allows, _⟩ := exists_apply_iff_permits built pairMoves (.addChild 1 "items" 2)
      cases applied : (run schema pairMoves).apply (.setChildren 1 "items" [2, 0]) with
      | ok after =>
          rw [applied] at refused
          cases refused
      | error error =>
          refine ⟨schema, error, rfl, fun permitted => ?_, unchanged error applied, ?_⟩
          · obtain ⟨after, done⟩ := permits.mpr permitted
            cases applied.symm.trans done
          · refine allows.mp ?_
            cases added : (run schema pairMoves).apply (.addChild 1 "items" 2) with
            | ok after => exact ⟨after, rfl⟩
            | error error =>
                rw [added] at accepted
                cases accepted

end Forest

end TypedTree
