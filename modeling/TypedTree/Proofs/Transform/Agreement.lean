import TypedTree.Proofs.Forest.Wiring
import TypedTree.Proofs.Transform.Running

namespace TypedTree.Engine

variable {α β γ δ : Type} {valid : Memo → Prop} {start later : Forest} {run after : Run}

def Agrees (valid : Memo → Prop) (start : Forest) (action : EngineM α) (draft : Drafting β)
    (run : Run) (made : α → β → Forest → Prop) : Prop :=
  match draft.run.run run.issues with
  | none => action.run.run run = none
  | some (.error error, issues) =>
      ∃ after, action.run.run run = some (.error error, after) ∧ after.issues = issues ∧
        valid after.memo ∧ start.Extends after.forest
  | some (.ok content, issues) =>
      ∃ answer after, action.run.run run = some (.ok answer, after) ∧ after.issues = issues ∧
        valid after.memo ∧ made answer content after.forest

variable {action : EngineM α} {draft : Drafting β} {made : α → β → Forest → Prop}

theorem agrees_pure {answer : α} {content : β} (memo : valid run.memo)
    (holds : made answer content run.forest) :
    Agrees valid start (pure answer) (pure content) run made :=
  ⟨answer, run, rfl, rfl, memo, holds⟩

theorem agrees_throw {error : TransformError} (memo : valid run.memo)
    (extended : start.Extends run.forest) :
    Agrees valid start (throw error : EngineM α) (throw error : Drafting β) run made :=
  ⟨run, rfl, rfl, memo, extended⟩

theorem Agrees.mono {weaker : α → β → Forest → Prop}
    (agrees : Agrees valid later action draft run made) (extended : start.Extends later)
    (implies : ∀ answer content forest, made answer content forest →
      weaker answer content forest) :
    Agrees valid start action draft run weaker := by
  unfold Agrees at *
  cases outcome : draft.run.run run.issues with
  | none => simpa [outcome] using agrees
  | some ended =>
      rw [outcome] at agrees
      match ended with
      | (.error error, issues) =>
          obtain ⟨after, ran, same, memo, kept⟩ := agrees
          exact ⟨after, ran, same, memo, extended.trans kept⟩
      | (.ok content, issues) =>
          obtain ⟨answer, after, ran, same, memo, holds⟩ := agrees
          exact ⟨answer, after, ran, same, memo, implies _ _ _ holds⟩

theorem Agrees.of_ran {result : Except TransformError α}
    (agrees : Agrees valid start action draft run made)
    (ran : action.run.run run = some (result, after)) :
    valid after.memo ∧ ∀ answer, result = .ok answer →
      ∃ content, made answer content after.forest := by
  unfold Agrees at agrees
  cases outcome : draft.run.run run.issues with
  | none =>
      rw [outcome, ran] at agrees
      cases agrees
  | some ended =>
      rw [outcome] at agrees
      match ended with
      | (.error error, issues) =>
          obtain ⟨after, sameRun, _, memo, _⟩ := agrees
          cases ran.symm.trans sameRun
          exact ⟨memo, nofun⟩
      | (.ok content, issues) =>
          obtain ⟨answer, after, sameRun, _, memo, holds⟩ := agrees
          cases ran.symm.trans sameRun
          exact ⟨memo, fun same isAnswer => ⟨content, Except.ok.inj isAnswer ▸ holds⟩⟩

theorem Agrees.bind {next : α → EngineM γ} {following : β → Drafting δ}
    {result : γ → δ → Forest → Prop} (agrees : Agrees valid start action draft run made)
    (continued : ∀ answer content after, valid after.memo → made answer content after.forest →
      Agrees valid start (next answer) (following content) after result) :
    Agrees valid start (action >>= next) (draft >>= following) run result := by
  unfold Agrees at agrees
  cases outcome : draft.run.run run.issues with
  | none =>
      rw [outcome] at agrees
      simp [Agrees, ExceptT.run_bind, outcome, agrees]
  | some ended =>
      rw [outcome] at agrees
      match ended with
      | (.error error, issues) =>
          obtain ⟨after, ran, same, memo, kept⟩ := agrees
          simp [Agrees, ExceptT.run_bind, outcome, ran, same, memo, kept]
      | (.ok content, issues) =>
          obtain ⟨answer, after, ran, rfl, memo, holds⟩ := agrees
          have further := continued answer content after memo holds
          simpa [Agrees, ExceptT.run_bind, outcome, ran] using further

theorem Agrees.map {change : β → δ} {result : α → δ → Forest → Prop}
    (agrees : Agrees valid start action draft run made)
    (implies : ∀ answer content forest, made answer content forest →
      result answer (change content) forest) :
    Agrees valid start action (draft >>= fun content => pure (change content)) run result := by
  rw [← bind_pure action]
  exact agrees.bind fun _ _ _ memo holds => agrees_pure memo (implies _ _ _ holds)

/-- A step of the run that the draft has no part in. -/
theorem agrees_step {step : EngineM γ} {next : γ → EngineM α} {answer : γ}
    (ran : step.run.run run = some (.ok answer, after)) (issues : after.issues = run.issues)
    (continued : Agrees valid start (next answer) draft after made) :
    Agrees valid start (step >>= next) draft run made := by
  unfold Agrees at *
  rw [issues] at continued
  simpa [ExceptT.run_bind, ran] using continued

theorem agrees_lift {step : RunM γ} {next : γ → EngineM α} {answer : γ}
    (ran : step.run run = some (answer, after)) (issues : after.issues = run.issues)
    (continued : Agrees valid start (next answer) draft after made) :
    Agrees valid start ((liftM step : EngineM γ) >>= next) draft run made := by
  refine agrees_step ?_ issues continued
  change (step >>= fun answer => pure (Except.ok answer)).run run = _
  rw [StateT.run_bind, ran]
  rfl

theorem agrees_get {next : Run → EngineM α}
    (continued : Agrees valid start (next run) draft run made) :
    Agrees valid start (get >>= next) draft run made :=
  agrees_step rfl rfl continued

theorem agrees_edit {edit : Edit} {forest : Forest} {content : β}
    {made : Unit → β → Forest → Prop} (applied : run.forest.apply edit = .ok forest)
    (memo : valid run.memo) (holds : made () content forest) :
    Agrees valid start (Engine.edit edit) (pure content) run made := by
  refine ⟨(), { run with forest := forest }, ?_, rfl, memo, holds⟩
  rw [run_edit, applied]

theorem agrees_edit_error {edit : Edit} {error : EditError} {made : Unit → β → Forest → Prop}
    (refused : run.forest.apply edit = .error error) (memo : valid run.memo)
    (extended : start.Extends run.forest) :
    Agrees valid start (Engine.edit edit) (throw (.edit error) : Drafting β) run made := by
  refine ⟨run, ?_, rfl, memo, extended⟩
  rw [run_edit, refused]

/-- What a run leaves that made the tree for one foreign node under `parent`. -/
structure Made (source : Option Source) (parent : Option NodeId) (before : Forest)
    (answer : Option NodeId) (sketch : Sketch) (after : Forest) : Prop where
  answer : answer = some before.nextId
  extended : before.Extends after
  known : after.LinksKnown
  grown : after.Grown [before.nextId] before.nextId (after.nextId - before.nextId)
  shown : after.Shows [before.nextId] [sketch] (after.nextId - before.nextId)
  link : after.parentLink? before.nextId = parent
  source : (after.cell? before.nextId).bind (·.source) =
    if parent.isSome then none else source

structure MadeAll (parent : NodeId) (before : Forest) (answers : List NodeId)
    (sketches : List Sketch) (after : Forest) : Prop where
  extended : before.Extends after
  known : after.LinksKnown
  grown : after.Grown answers before.nextId (after.nextId - before.nextId)
  shown : after.Shows answers sketches (after.nextId - before.nextId)
  linked : ∀ node ∈ answers, after.parentLink? node = some parent

/-- A way to transform foreign nodes that agrees with a way to draft them. -/
def AgreesOn (valid : Memo → Prop) (supers : String → List String) (source : Option Source)
    (recur : Recur) (drafted : ForeignNode → Drafting Sketch) : Prop :=
  ∀ foreign, (ForeignValue.node foreign).TypedBy supers → ∀ parent (run : Run),
    valid run.memo → run.forest.LinksKnown →
    (∀ above, parent = some above → above < run.forest.nextId) →
    Agrees valid run.forest (recur foreign parent) (drafted foreign) run
      (Made source parent run.forest)

variable {supers : String → List String} {source : Option Source} {recur : Recur}
  {drafted : ForeignNode → Drafting Sketch} {parent : NodeId}

theorem MadeAll.nil {forest : Forest} (known : forest.LinksKnown) :
    MadeAll parent forest [] [] forest where
  extended := .refl forest
  known := known
  grown := by
    rw [Nat.sub_self]
    exact .nil forest _
  shown _ _ := rfl
  linked := nofun

theorem Made.cons {before middle after : Forest} {answer : Option NodeId} {sketch : Sketch}
    {answers : List NodeId} {sketches : List Sketch}
    (first : Made source (some parent) before answer sketch middle)
    (rest : MadeAll parent middle answers sketches after) :
    MadeAll parent before (answer.toList ++ answers) (sketch :: sketches) after := by
  obtain rfl := first.answer
  have begun := first.extended.nextId
  have ended := rest.extended.nextId
  have untouched : ∀ node ∈ List.range' before.nextId (middle.nextId - before.nextId),
      after.cell? node = middle.cell? node := by
    intro node member
    rw [List.mem_range'_1] at member
    exact rest.extended.cells node (by lia)
  have root : before.nextId ∈ List.range' before.nextId (middle.nextId - before.nextId) :=
    first.grown.mem_of_root List.mem_cons_self
  have total : after.nextId - before.nextId =
      middle.nextId - before.nextId + (after.nextId - middle.nextId) := by lia
  refine ⟨first.extended.trans rest.extended, rest.known, ?_, fun depth enough => ?_, ?_⟩
  · rw [total]
    refine (first.grown.congr untouched).append ?_
    have mark : before.nextId + (middle.nextId - before.nextId) = middle.nextId := by lia
    rw [mark]
    exact rest.grown
  · have shownFirst : middle.sketchTo depth before.nextId = some sketch :=
      (List.cons.inj (first.shown depth (by lia))).1
    change after.sketchTo depth before.nextId :: answers.map (after.sketchTo depth) = _
    rw [first.grown.sketchTo_eq untouched root, shownFirst, rest.shown depth (by lia)]
    rfl
  · intro node member
    rcases List.mem_cons.mp member with rfl | later
    · rw [Forest.parentLink?, untouched _ root]
      exact first.link
    · exact rest.linked node later

theorem AgreesOn.transformElements (agreesOn : AgreesOn valid supers source recur drafted)
    {concept feature : String} {items : List ForeignValue}
    (typed : (ForeignValue.list items).TypedBy supers) (memo : valid run.memo)
    (known : run.forest.LinksKnown) (made : parent < run.forest.nextId) :
    Agrees valid run.forest (transformElements recur parent concept feature items)
      (Drafting.elements drafted concept feature items) run (MadeAll parent run.forest) := by
  induction items generalizing run with
  | nil => exact agrees_pure memo (.nil known)
  | cons item rest ih =>
      match item with
      | .null => exact ih typed.tail memo known made
      | .list _ => exact agrees_throw memo (.refl _)
      | .scalar value =>
          rw [Drafting.elements, Drafting.labelOf_eq]
          exact agrees_throw memo (.refl _)
      | .node foreign =>
          have typedFirst := ForeignValue.typedBy_list_iff.mp typed _ List.mem_cons_self
          have first := agreesOn foreign typedFirst (some parent) run memo known
            fun above same => Option.some.inj same ▸ made
          refine first.bind fun answer sketch middle memo madeFirst => ?_
          have below := Nat.lt_of_lt_of_le made madeFirst.extended.nextId
          have others := (ih typed.tail memo madeFirst.known below).mono madeFirst.extended
            fun _ _ _ holds => holds
          refine others.bind fun answers sketches after memo madeRest => ?_
          exact agrees_pure memo (madeFirst.cons madeRest)

/-- One more feature of the node that is being filled holds what the draft says. -/
def Fills (before : Forest) (base : Cell) (filled : List (String × Slot)) (feature : Feature)
    (rest : List Feature) (parts : List (String × Part Sketch)) :
    Unit → Part Sketch → Forest → Prop := fun _ part after =>
  ∃ slot, Forest.Wiring before base after (filled ++ [(feature.name, slot)]) rest
    (parts ++ [(feature.name, part)])

section

variable {before : Forest} {base : Cell} {filled : List (String × Slot)} {feature : Feature}
  {rest : List Feature} {parts : List (String × Part Sketch)} {target : String}

theorem agrees_setBare {edit : Edit} {slot : Slot} {part : Part Sketch}
    (wiring : Forest.Wiring before base run.forest filled (feature :: rest) parts)
    (memo : valid run.memo)
    (applied : run.forest.apply edit =
      .ok (run.forest.modify before.nextId (·.setSlot feature.name slot)))
    (bare : slot.contained = []) (shown : ∀ read, slot.toPart read = part) :
    Agrees valid before (Engine.edit edit) (pure part) run
      (Fills before base filled feature rest parts) :=
  agrees_edit applied memo ⟨slot, wiring.fillBare bare shown⟩

variable (declared : base.concept.feature? feature.name = some feature)
include declared

theorem Made.setChild {forest : Forest} {answer : Option NodeId} {sketch : Sketch}
    (made : Made source (some before.nextId) forest answer sketch run.forest)
    (wiring : Forest.Wiring before base forest filled (feature :: rest) parts)
    (memo : valid run.memo) (kind : feature.type = .child target) :
    Agrees valid before (Engine.edit (.setChild before.nextId feature.name answer))
      (Drafting.expectTarget base.concept.name feature.name target sketch >>= fun _ =>
        pure (.child (some sketch))) run
      (Fills before base filled feature rest parts) := by
  obtain rfl := made.answer
  have shown := (List.cons.inj (made.shown _ (Nat.le_refl _))).1
  have edited := wiring.setChild made.extended declared made.link made.grown shown kind
  unfold Drafting.expectTarget
  cases fits : sketch.fits target with
  | false =>
      rw [fits, if_neg Bool.false_ne_true] at edited
      exact agrees_edit_error edited memo (wiring.extended.trans made.extended)
  | true =>
      rw [fits, if_pos rfl] at edited
      refine agrees_edit edited memo ⟨.child (some forest.nextId), ?_⟩
      refine wiring.fill made.extended made.known made.grown ?_ fun depth enough => ?_
      · simpa [Slot.contained] using made.link
      · exact congrArg Part.child (List.cons.inj (made.shown depth enough)).1

theorem MadeAll.setChildren {forest : Forest} {answers : List NodeId} {sketches : List Sketch}
    (made : MadeAll before.nextId forest answers sketches run.forest)
    (wiring : Forest.Wiring before base forest filled (feature :: rest) parts)
    (memo : valid run.memo) (kind : feature.type = .children target) :
    Agrees valid before (Engine.edit (.setChildren before.nextId feature.name answers))
      (sketches.forM (Drafting.expectTarget base.concept.name feature.name target) >>= fun _ =>
        pure (.children sketches)) run
      (Fills before base filled feature rest parts) := by
  have edited := wiring.setChildren made.extended declared made.linked made.grown made.shown kind
  rw [Drafting.forM_expectTarget]
  cases found : sketches.find? (!·.fits target) with
  | some misfit =>
      rw [found] at edited
      exact agrees_edit_error edited memo (wiring.extended.trans made.extended)
  | none =>
      rw [found] at edited
      refine agrees_edit edited memo ⟨.children answers, ?_⟩
      refine wiring.fill made.extended made.known made.grown made.linked fun depth enough => ?_
      refine congrArg Part.children ?_
      calc answers.filterMap (run.forest.sketchTo depth)
          = (answers.map (run.forest.sketchTo depth)).filterMap id := by
            rw [List.filterMap_map, Function.id_comp]
        _ = sketches := by
            rw [made.shown depth enough, List.filterMap_map, Function.id_comp, List.filterMap_some]

theorem AgreesOn.assign (agreesOn : AgreesOn valid supers source recur drafted)
    {value : ForeignValue} (typed : feature.type.isContainment = true → value.TypedBy supers)
    (wiring : Forest.Wiring before base run.forest filled (feature :: rest) parts)
    (memo : valid run.memo) :
    Agrees valid before (assign recur before.nextId base.concept.name feature value)
      (Drafting.part drafted base.concept.name feature value) run
      (Fills before base filled feature rest parts) := by
  unfold Engine.assign Drafting.part
  simp only [Drafting.scalarOf_eq, Drafting.nameOf_eq, Drafting.labelOf_eq]
  cases kind : feature.type <;> cases value <;> rw [kind] at typed <;> dsimp only
  all_goals try exact agrees_throw memo wiring.extended
  case child.node target foreign =>
    have first := agreesOn foreign (typed rfl) (some before.nextId) run memo wiring.knownNow
      fun above same => Option.some.inj same ▸ wiring.nextId_lt
    refine (first.mono wiring.extended fun _ _ _ holds => holds).bind ?_
    exact fun _ _ after memo made => made.setChild declared wiring memo kind
  case children.list target items =>
    have all : Agrees valid run.forest
        (Engine.transformElements recur before.nextId base.concept.name feature.name items) _ run _ :=
      agreesOn.transformElements (typed rfl) memo wiring.knownNow wiring.nextId_lt
    refine (all.mono wiring.extended fun _ _ _ holds => holds).bind ?_
    exact fun _ _ after memo made => made.setChildren declared wiring memo kind
  case child.null target =>
    exact agrees_setBare wiring memo (wiring.setNoChild (.refl _) declared kind) rfl
      fun _ => rfl
  case children.null target =>
    exact (MadeAll.nil wiring.knownNow).setChildren declared wiring memo kind
  case attribute.null | attribute.scalar | attribute.node =>
    exact agrees_setBare wiring memo (wiring.setAttribute (.refl _) declared kind _) rfl
      fun _ => rfl
  case reference.null | reference.scalar | reference.node =>
    exact agrees_setBare wiring memo
      (wiring.setReference (.refl _) declared (by rw [kind]; rfl) _) rfl fun _ => rfl

omit declared in
/-- The features are filled in their order, those without a source being passed over. -/
theorem AgreesOn.assignAll (agreesOn : AgreesOn valid supers source recur drafted)
    {factory : Factory} {foreign : ForeignNode}
    (declared : ∀ feature ∈ rest, base.concept.feature? feature.name = some feature)
    (typedForeign : (ForeignValue.node foreign).TypedBy supers)
    (typed : ∀ feature ∈ rest, feature.type.isContainment = true → ∀ source,
      factory.sourceFor base.concept feature = some source →
        (source.extract foreign).TypedBy supers)
    (wiring : Forest.Wiring before base run.forest filled rest parts) (memo : valid run.memo) :
    Agrees valid before
      (assignAll recur before.nextId base.concept.name foreign (rest.filterMap fun feature =>
        (factory.sourceFor base.concept feature).map fun source => (feature, source)))
      (Drafting.parts drafted factory base.concept foreign rest) run
      fun _ others after => ∃ filled, Forest.Wiring before base after filled [] (parts ++ others) := by
  induction rest generalizing run filled parts with
  | nil => exact agrees_pure memo ⟨filled, by simpa using wiring⟩
  | cons feature rest ih =>
      have declaredRest := fun other member => declared other (List.mem_cons_of_mem feature member)
      have typedRest := fun other member => typed other (List.mem_cons_of_mem feature member)
      rw [Drafting.parts, Drafting.plannedPart, Drafting.sourceOf_eq, List.filterMap_cons]
      cases found : factory.sourceFor base.concept feature with
      | none =>
          refine (ih declaredRest typedRest wiring.skip memo).map ?_
          intro _ others after holds
          rwa [List.append_assoc] at holds
      | some read =>
          dsimp only
          rw [Drafting.read_eq typedForeign]
          have here := agreesOn.assign (declared feature List.mem_cons_self)
            (fun contains => typed feature List.mem_cons_self contains read found) wiring memo
          refine here.bind fun _ part after memo filled => ?_
          obtain ⟨slot, wiring⟩ := filled
          refine (ih declaredRest typedRest wiring memo).map ?_
          intro _ others after holds
          rwa [List.append_assoc] at holds

end

end TypedTree.Engine
