import TypedTree.Proofs.Forest.History
import TypedTree.Proofs.Schema.Features

namespace TypedTree

/-- Every concept of the first schema is the second's own of that name. -/
def Schema.Within (schema world : Schema) : Prop :=
  ∀ ⦃name concept⦄, schema.concept? name = some concept → world.concept? name = some concept

theorem Schema.Within.refl (schema : Schema) : schema.Within schema := fun _ _ found => found

namespace Forest

variable {forest after : Forest} {node other : NodeId} {cell : Cell} {feature : String}
  {incoming : List NodeId} {placement : Placement} {decls : List ConceptDecl}
  {schema world : Schema}

structure TypedIn (forest : Forest) (schema : Schema) : Prop where
  conforming : forest.Conforming
  concepts : ∀ {node concept}, forest.concept? node = some concept →
    concept.isPlaceholder = false → schema.concept? concept.name = some concept

theorem typedIn_empty (schema : Schema) : (∅ : Forest).TypedIn schema where
  conforming _ _ found := by cases found
  concepts found := by cases found

theorem TypedIn.add (typed : forest.TypedIn schema) (conforms : cell.Conforms)
    (declared : cell.concept.isPlaceholder = false →
      schema.concept? cell.concept.name = some cell.concept) :
    (forest.add cell).2.TypedIn schema where
  conforming node content found := by
    rw [cell?_add] at found
    split at found
    · cases found
      exact conforms
    · exact typed.conforming node content found
  concepts {node concept} found proper := by
    rw [concept?, cell?_add] at found
    split at found
    · cases found
      exact declared proper
    · exact typed.concepts found proper

theorem TypedIn.createWithin (built : Schema.build decls = .ok schema)
    (within : schema.Within world) (typed : forest.TypedIn world) {concept : String}
    (created : forest.create schema concept = .ok (node, after)) : after.TypedIn world := by
  unfold Forest.create at created
  split at created
  · next declared found =>
      have added : (forest.add (.blank declared)).2 = after :=
        congrArg Prod.snd (Except.ok.inj created)
      have own : schema.concept? declared.name = some declared := by
        rwa [Schema.name_of_concept? built found]
      have conforms := Cell.conforms_blank (Schema.features_nodup built found)
      exact added ▸ typed.add conforms fun _ => within own
  · cases created

theorem TypedIn.create (built : Schema.build decls = .ok schema) (typed : forest.TypedIn schema)
    {concept : String} (created : forest.create schema concept = .ok (node, after)) :
    after.TypedIn schema :=
  typed.createWithin built (.refl schema) created

theorem TypedIn.createGeneric (typed : forest.TypedIn schema) :
    forest.createGeneric.2.TypedIn schema :=
  typed.add (Cell.conforms_blank (by decide)) fun proper => by cases proper

theorem conforms_error (message : String) :
    ((Cell.blank .error).setSlot Concept.messageFeature.name
      (.attribute (some (.str message)))).Conforms := by
  refine (Cell.conforms_blank (by decide)).changeSlot fun slot held => ?_
  obtain ⟨feature, member, same⟩ := List.mem_map.mp (Registry.mem_of_get?_ofEntries held)
  cases List.mem_singleton.mp member
  cases same
  intro type fits
  cases type <;> exact fits

theorem TypedIn.createError (typed : forest.TypedIn schema) (message : String) :
    (forest.createError message).2.TypedIn schema :=
  typed.add (conforms_error message) fun proper => by cases proper

theorem concept?_setParents (link : Option NodeId) :
    (forest.setParents incoming link).concept? other = forest.concept? other := by
  induction incoming generalizing forest with
  | nil => rfl
  | cons first rest ih => exact ih.trans (concept?_setParent link)

theorem concept?_attach :
    (forest.attach node feature incoming placement).concept? other = forest.concept? other := by
  have same (cell : Cell) :
      (cell.changeSlot feature (·.place incoming placement)).concept = cell.concept := rfl
  refine (concept?_setParents (some node)).trans ((concept?_setParents none).trans ?_)
  exact (concept?_modify same).trans concept?_detachAll

theorem TypedIn.attach (typed : forest.TypedIn schema) :
    (forest.attach node feature incoming placement).TypedIn schema where
  conforming := typed.conforming.attach
  concepts found proper := typed.concepts (concept?_attach ▸ found) proper

theorem TypedIn.modify (typed : forest.TypedIn schema) {change : Cell → Cell}
    (concept : ∀ cell, (change cell).concept = cell.concept)
    (keeps : ∀ cell, forest.cell? node = some cell → (change cell).Conforms) :
    (forest.modify node change).TypedIn schema where
  conforming := typed.conforming.modify keeps
  concepts found proper := typed.concepts (concept?_modify concept ▸ found) proper

theorem TypedIn.setMetadata (typed : forest.TypedIn schema) {change : Cell → Cell}
    (content : ∀ cell, (change cell).content = cell.content)
    (concept : ∀ cell, (change cell).concept = cell.concept) :
    (forest.modify node change).TypedIn schema := by
  refine typed.modify concept fun cell found => ?_
  rw [Cell.Conforms, Cell.slots, content, concept]
  exact typed.conforming node cell found

theorem TypedIn.setSlot (typed : forest.TypedIn schema) {content : Slot} {declared : Feature}
    (found : forest.cell? node = some cell)
    (known : cell.concept.feature? feature = some declared)
    (fits : content.fits declared.type = true) :
    (forest.modify node (·.setSlot feature content)).TypedIn schema := by
  refine typed.modify (fun _ => rfl) fun same present => ?_
  cases found.symm.trans present
  obtain ⟨slot, held, slotFits⟩ := (typed.conforming node cell found).slot? known
  refine (typed.conforming node cell found).changeSlot fun inSlot isHeld type => ?_
  cases held.symm.trans isHeld
  exact Slot.fits_congr slotFits fits

theorem TypedIn.apply (typed : forest.TypedIn schema) {edit : Edit}
    (applied : forest.apply edit = .ok after) : after.TypedIn schema := by
  match edit with
  | .setAttribute node feature value =>
      obtain ⟨cell, declared, found, known, kind, rfl⟩ := setAttribute_eq_ok_iff.mp applied
      exact typed.setSlot found known (by rw [kind]; rfl)
  | .setReference node feature link =>
      obtain ⟨cell, declared, found, known, kind, rfl⟩ := setReference_eq_ok_iff.mp applied
      exact typed.setSlot found known (Slot.fits_reference kind _)
  | .resolveReference node feature target =>
      obtain ⟨cell, declared, link, found, known, kind, _, rfl⟩ :=
        resolveReference_eq_ok_iff.mp applied
      exact typed.setSlot found known (Slot.fits_reference kind _)
  | .setChild node feature child =>
      obtain ⟨_, _, _, _, _, _, _, rfl⟩ := setChild_eq_ok_iff.mp applied
      exact typed.attach
  | .setChildren node feature children =>
      obtain ⟨_, _, _, _, _, _, _, _, rfl⟩ := setChildren_eq_ok_iff.mp applied
      exact typed.attach
  | .addChild node feature child =>
      obtain ⟨_, _, _, _, _, _, _, rfl⟩ := addChild_eq_ok_iff.mp applied
      exact typed.attach
  | .setOrigin node origin =>
      cases applied
      exact typed.setMetadata (fun _ => rfl) fun _ => rfl
  | .setRange node range =>
      cases applied
      exact typed.setMetadata (fun _ => rfl) fun _ => rfl
  | .setSource node source =>
      cases applied
      exact typed.setMetadata (fun _ => rfl) fun _ => rfl

/-- No edit changes what a node is. -/
theorem concept?_apply {edit : Edit} (applied : forest.apply edit = .ok after) (other : NodeId) :
    after.concept? other = forest.concept? other := by
  match edit with
  | .setAttribute node feature value =>
      obtain ⟨_, _, _, _, _, rfl⟩ := setAttribute_eq_ok_iff.mp applied
      exact concept?_modify fun _ => rfl
  | .setReference node feature link =>
      obtain ⟨_, _, _, _, _, rfl⟩ := setReference_eq_ok_iff.mp applied
      exact concept?_modify fun _ => rfl
  | .resolveReference node feature target =>
      obtain ⟨_, _, _, _, _, _, _, rfl⟩ := resolveReference_eq_ok_iff.mp applied
      exact concept?_modify fun _ => rfl
  | .setChild node feature child =>
      obtain ⟨_, _, _, _, _, _, _, rfl⟩ := setChild_eq_ok_iff.mp applied
      exact concept?_attach
  | .setChildren node feature children =>
      obtain ⟨_, _, _, _, _, _, _, _, rfl⟩ := setChildren_eq_ok_iff.mp applied
      exact concept?_attach
  | .addChild node feature child =>
      obtain ⟨_, _, _, _, _, _, _, rfl⟩ := addChild_eq_ok_iff.mp applied
      exact concept?_attach
  | .setOrigin node origin =>
      cases applied
      exact concept?_modify fun _ => rfl
  | .setRange node range =>
      cases applied
      exact concept?_modify fun _ => rfl
  | .setSource node source =>
      cases applied
      exact concept?_modify fun _ => rfl

theorem Swept.concept? {concept : Concept} (swept : forest.Swept after)
    (found : after.concept? node = some concept) : forest.concept? node = some concept := by
  obtain ⟨cell, there, same⟩ := Option.map_eq_some_iff.mp found
  rw [Forest.concept?, swept.cells node cell there, Option.map_some, same]

theorem TypedIn.swept (typed : forest.TypedIn schema) (swept : forest.Swept after) :
    after.TypedIn schema where
  conforming node cell found := typed.conforming node cell (swept.cells node cell found)
  concepts found proper := typed.concepts (swept.concept? found) proper

/-- What new nodes, edits and sweeps keep is kept by every operation. -/
theorem perform_keeps {holds : Forest → Prop} (here : holds forest)
    (create : ∀ {concept : String} {node after}, forest.create schema concept = .ok (node, after) →
      holds after)
    (createGeneric : holds forest.createGeneric.2)
    (createError : ∀ message, holds (forest.createError message).2)
    (apply : ∀ {edit : Edit} {after}, forest.apply edit = .ok after → holds after)
    (swept : ∀ {after}, forest.Swept after → holds after) (operation : Operation) :
    holds (forest.perform schema operation) := by
  have sameCells (handles : Registry String NodeId) :
      forest.Swept { forest with handles := handles } :=
    ⟨fun _ _ found => found, fun _ _ _ _ => rfl, rfl⟩
  match operation with
  | .create concept =>
      simp only [Forest.perform]
      cases created : forest.create schema concept with
      | error reason => exact here
      | ok result => exact create created
  | .createGeneric => exact createGeneric
  | .createError message => exact createError message
  | .edit edit =>
      simp only [Forest.perform]
      cases applied : forest.apply edit with
      | error reason => exact here
      | ok after => exact apply applied
  | .hold handle node => exact swept (sameCells _)
  | .release handle => exact swept (sameCells _)
  | .sweep others => exact swept (swept_sweepRounds _ _)

theorem TypedIn.performWithin (built : Schema.build decls = .ok schema)
    (within : schema.Within world) (typed : forest.TypedIn world) (operation : Operation) :
    (forest.perform schema operation).TypedIn world :=
  perform_keeps typed (typed.createWithin built within) typed.createGeneric typed.createError
    typed.apply typed.swept operation

theorem TypedIn.perform (built : Schema.build decls = .ok schema) (typed : forest.TypedIn schema)
    (operation : Operation) : (forest.perform schema operation).TypedIn schema :=
  typed.performWithin built (.refl schema) operation

theorem typedIn_run (built : Schema.build decls = .ok schema) (operations : List Operation) :
    (run schema operations).TypedIn schema := by
  suffices general : ∀ forest : Forest, forest.TypedIn schema →
      (operations.foldl (perform schema) forest).TypedIn schema by
    exact general ∅ (typedIn_empty schema)
  induction operations with
  | nil => exact fun forest typed => typed
  | cons operation rest ih =>
      exact fun forest typed => ih _ (typed.perform built operation)

/-- No placeholder has a feature that a node could stand in. -/
def EmptyPlaceholders (forest : Forest) : Prop :=
  ∀ node concept, forest.concept? node = some concept → concept.isPlaceholder = true →
    ∀ feature ∈ concept.features, feature.type.isContainment = false

theorem EmptyPlaceholders.add (holds : forest.EmptyPlaceholders)
    (empty : cell.concept.isPlaceholder = true →
      ∀ feature ∈ cell.concept.features, feature.type.isContainment = false) :
    (forest.add cell).2.EmptyPlaceholders := by
  intro node concept kind
  rw [concept?, cell?_add] at kind
  split at kind
  · cases kind
    exact empty
  · exact holds node concept kind

theorem EmptyPlaceholders.create (built : Schema.build decls = .ok schema)
    (holds : forest.EmptyPlaceholders) {concept : String}
    (created : forest.create schema concept = .ok (node, after)) : after.EmptyPlaceholders := by
  unfold Forest.create at created
  split at created
  · next declared found =>
      have added : (forest.add (.blank declared)).2 = after :=
        congrArg Prod.snd (Except.ok.inj created)
      exact added ▸ holds.add fun placeholder _ =>
        Schema.not_isContainment_of_isPlaceholder built found placeholder
  · cases created

theorem EmptyPlaceholders.perform (built : Schema.build decls = .ok schema)
    (holds : forest.EmptyPlaceholders) (operation : Operation) :
    (forest.perform schema operation).EmptyPlaceholders := by
  have plainError : ∀ feature ∈ Concept.error.features, feature.type.isContainment = false := by
    decide
  refine perform_keeps holds (holds.create built) (holds.add fun _ => by decide)
    (fun _ => holds.add fun _ => plainError) (fun applied node concept kind => ?_)
    (fun swept node concept kind => holds node concept (swept.concept? kind)) operation
  exact holds node concept (concept?_apply applied node ▸ kind)

theorem emptyPlaceholders_run (built : Schema.build decls = .ok schema)
    (operations : List Operation) : (run schema operations).EmptyPlaceholders :=
  List.foldlRecOn (motive := EmptyPlaceholders) operations (perform schema)
    (fun _ _ found => by cases found) fun _ holds operation _ => holds.perform built operation

end Forest

end TypedTree
