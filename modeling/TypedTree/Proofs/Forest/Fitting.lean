import TypedTree.Proofs.Forest.Typing

namespace TypedTree.Forest

variable {forest after : Forest} {node container child : NodeId} {feature name : String}
  {incoming : List NodeId} {placement : Placement} {cell : Cell} {decls : List ConceptDecl}
  {schema : Schema}

/-- The feature of the container is declared to hold nodes like `child`. -/
def Fits (forest : Forest) (container : NodeId) (feature : String) (child : NodeId) : Prop :=
  ∃ holder declared target concept, forest.concept? container = some holder ∧
    holder.feature? feature = some declared ∧ declared.type.isContainment = true ∧
    declared.type.target? = some target ∧ forest.concept? child = some concept ∧
    (concept.isPlaceholder = true ∨ concept.isA target = true)

/-- The nodes are of the schema, and every one in a feature fits there. -/
structure Conformant (forest : Forest) (schema : Schema) : Prop
    extends TypedIn forest schema where
  fitting : ∀ {container feature child}, child ∈ forest.childrenOf container feature →
    forest.Fits container feature child

theorem exists_target_of_isContainment {type : FeatureType} (kind : type.isContainment = true) :
    ∃ target, type.target? = some target := by
  cases type <;> simp_all [FeatureType.isContainment, FeatureType.target?]

theorem conformant_empty (schema : Schema) : (∅ : Forest).Conformant schema where
  toTypedIn := typedIn_empty schema
  fitting member := by simp [childrenOf, cell?, EmptyCollection.emptyCollection, empty] at member

theorem Fits.mono (fits : forest.Fits container feature child)
    (kept : ∀ node concept, forest.concept? node = some concept →
      after.concept? node = some concept) : after.Fits container feature child := by
  obtain ⟨holder, declared, target, concept, holds, known, kind, targets, is, fits⟩ := fits
  exact ⟨holder, declared, target, concept, kept _ _ holds, known, kind, targets, kept _ _ is, fits⟩

/-- What only takes nodes out of features does no harm. -/
theorem Conformant.mono (conformant : forest.Conformant schema) (typed : after.TypedIn schema)
    (fewer : ∀ container feature child, child ∈ after.childrenOf container feature →
      child ∈ forest.childrenOf container feature)
    (kept : ∀ node concept, forest.concept? node = some concept →
      after.concept? node = some concept) : after.Conformant schema where
  toTypedIn := typed
  fitting {container feature child} member :=
    (conformant.fitting (fewer container feature child member)).mono kept

theorem concept?_add_of_some {concept : Concept} (found : forest.concept? node = some concept) :
    (forest.add cell).2.concept? node = some concept := by
  have old : node ≠ forest.nextId := by
    rintro rfl
    simp [concept?, cell?_nextId] at found
  simpa [concept?, cell?_add, old] using found

theorem Conformant.add (conformant : forest.Conformant schema)
    (typed : (forest.add cell).2.TypedIn schema) (bare : cell.Bare) :
    (forest.add cell).2.Conformant schema := by
  refine conformant.mono typed (fun container feature child member => ?_)
    fun node concept => concept?_add_of_some
  rwa [childrenOf_add bare] at member

theorem Conformant.create (built : Schema.build decls = .ok schema)
    (conformant : forest.Conformant schema) {concept : String}
    (created : forest.create schema concept = .ok (node, after)) : after.Conformant schema := by
  have typed := conformant.toTypedIn.create built created
  unfold Forest.create at created
  cases found : schema.concept? concept with
  | none => simp [found] at created
  | some declared =>
      simp only [found, Except.ok.injEq] at created
      obtain ⟨_, rfl⟩ := Prod.mk.inj created
      exact conformant.add typed (Cell.bare_blank declared)

theorem Conformant.createGeneric (conformant : forest.Conformant schema) :
    forest.createGeneric.2.Conformant schema :=
  conformant.add conformant.toTypedIn.createGeneric (Cell.bare_blank _)

theorem Conformant.createError (conformant : forest.Conformant schema) (message : String) :
    (forest.createError message).2.Conformant schema :=
  conformant.add (conformant.toTypedIn.createError message) ((Cell.bare_blank _).setSlot _ rfl)

theorem mem_childrenOf_of_detach (member : child ∈ (forest.detach node).childrenOf container name) :
    child ∈ forest.childrenOf container name := by
  cases up : forest.parent? node with
  | none => simpa [detach, up] using member
  | some parent =>
      simp only [detach, up, childrenOf_setParent] at member
      by_cases here : container = parent
      · subst here
        rw [childrenOf_modify_self] at member
        cases found : forest.cell? container with
        | none => simp [found] at member
        | some cell =>
            simp only [found, Option.map_some, Option.getD_some, Cell.childrenOf_without] at member
            simpa [childrenOf, found] using List.mem_of_mem_filter member
      · rwa [childrenOf_modify_of_ne _ here] at member

theorem mem_childrenOf_of_detachAll
    (member : child ∈ (forest.detachAll incoming).childrenOf container name) :
    child ∈ forest.childrenOf container name := by
  induction incoming generalizing forest with
  | nil => exact member
  | cons first rest ih => exact mem_childrenOf_of_detach (ih member)

/-- After a move, what stands in a feature stood there before or came in. -/
theorem mem_childrenOf_of_attach
    (member : child ∈ (forest.attach node feature incoming placement).childrenOf container name) :
    child ∈ forest.childrenOf container name ∨
      container = node ∧ name = feature ∧ child ∈ incoming := by
  by_cases here : container = node ∧ name = feature
  · obtain ⟨rfl, rfl⟩ := here
    rw [childrenOf_attach_self] at member
    cases found : (forest.detachAll incoming).slot? container name with
    | none => simp [found] at member
    | some slot =>
        simp only [found, Option.map_some, Option.getD_some] at member
        rcases Slot.mem_place member with new | ⟨old, _⟩
        · exact Or.inr ⟨rfl, rfl, new⟩
        · have stood : child ∈ (forest.detachAll incoming).childrenOf container name := by
            simpa [childrenOf_eq_slot?, found] using old
          exact Or.inl (mem_childrenOf_of_detachAll stood)
  · rw [childrenOf_attach_of_ne here] at member
    exact Or.inl (mem_childrenOf_of_detachAll member)

theorem Conformant.attach (conformant : forest.Conformant schema) {declared : Feature}
    (found : forest.cell? node = some cell)
    (known : cell.concept.feature? feature = some declared)
    (kind : declared.type.isContainment = true)
    (accepted : ∀ child ∈ incoming, forest.Accepts node declared child) :
    (forest.attach node feature incoming placement).Conformant schema where
  toTypedIn := conformant.toTypedIn.attach
  fitting {container name child} member := by
    have kept (other : NodeId) (concept : Concept) (is : forest.concept? other = some concept) :
        (forest.attach node feature incoming placement).concept? other = some concept :=
      concept?_attach.trans is
    rcases mem_childrenOf_of_attach member with old | ⟨rfl, rfl, new⟩
    · exact (conformant.fitting old).mono kept
    · obtain ⟨concept, is, fits⟩ := (accepted child new).fits
      have holds : forest.concept? container = some cell.concept := by simp [concept?, found]
      obtain ⟨target, targets⟩ := exists_target_of_isContainment kind
      exact Fits.mono ⟨_, declared, target, concept, holds, known, kind, targets, is,
        fits target targets⟩ kept

theorem Conformant.modify (conformant : forest.Conformant schema) {change : Cell → Cell}
    (typed : (forest.modify node change).TypedIn schema)
    (concept : ∀ cell, (change cell).concept = cell.concept)
    (fewer : ∀ cell feature, (change cell).childrenOf feature ⊆ cell.childrenOf feature) :
    (forest.modify node change).Conformant schema := by
  refine conformant.mono typed (fun container feature child member => ?_)
    fun _ _ is => (concept?_modify concept).trans is
  by_cases here : container = node
  · subst here
    rw [childrenOf_modify_self] at member
    cases found : forest.cell? container with
    | none => simp [found] at member
    | some cell =>
        simp only [found, Option.map_some, Option.getD_some] at member
        simpa [childrenOf, found] using fewer cell feature member
  · rwa [childrenOf_modify_of_ne _ here] at member

theorem Conformant.setMetadata (conformant : forest.Conformant schema) {change : Cell → Cell}
    (content : ∀ cell, (change cell).content = cell.content)
    (concept : ∀ cell, (change cell).concept = cell.concept) :
    (forest.modify node change).Conformant schema := by
  refine conformant.modify (conformant.toTypedIn.setMetadata content concept) concept ?_
  intro cell feature child member
  simpa [Cell.childrenOf, Cell.slot?, content] using member

theorem Conformant.setSlot (conformant : forest.Conformant schema) {content : Slot}
    (typed : (forest.modify node (·.setSlot feature content)).TypedIn schema)
    (bare : content.contained = []) :
    (forest.modify node (·.setSlot feature content)).Conformant schema :=
  conformant.modify typed (fun _ => rfl) fun cell other =>
    (sublist_setSlot cell feature content bare other).subset

theorem Conformant.apply (conformant : forest.Conformant schema) {edit : Edit}
    (applied : forest.apply edit = .ok after) : after.Conformant schema := by
  have typed := conformant.toTypedIn.apply applied
  match edit with
  | .setAttribute node feature value =>
      obtain ⟨_, _, _, _, _, rfl⟩ := setAttribute_eq_ok_iff.mp applied
      exact conformant.setSlot typed rfl
  | .setReference node feature link =>
      obtain ⟨_, _, _, _, _, rfl⟩ := setReference_eq_ok_iff.mp applied
      exact conformant.setSlot typed rfl
  | .resolveReference node feature target =>
      obtain ⟨_, _, _, _, _, _, _, rfl⟩ := resolveReference_eq_ok_iff.mp applied
      exact conformant.setSlot typed rfl
  | .setChild node feature child =>
      obtain ⟨cell, declared, target, found, known, kind, accepted, rfl⟩ :=
        setChild_eq_ok_iff.mp applied
      exact conformant.attach found known (by rw [kind]; rfl) (by simpa using accepted)
  | .setChildren node feature children =>
      obtain ⟨cell, declared, target, found, known, kind, _, accepted, rfl⟩ :=
        setChildren_eq_ok_iff.mp applied
      exact conformant.attach found known (by rw [kind]; rfl) accepted
  | .addChild node feature child =>
      obtain ⟨cell, declared, target, found, known, kind, accepted, rfl⟩ :=
        addChild_eq_ok_iff.mp applied
      exact conformant.attach found known (by rw [kind]; rfl) (by simpa using accepted)
  | .setOrigin node origin =>
      cases applied
      exact conformant.setMetadata (fun _ => rfl) fun _ => rfl
  | .setRange node range =>
      cases applied
      exact conformant.setMetadata (fun _ => rfl) fun _ => rfl
  | .setSource node source =>
      cases applied
      exact conformant.setMetadata (fun _ => rfl) fun _ => rfl

theorem Conformant.swept (conformant : forest.Conformant schema) (swept : forest.Swept after) :
    after.Conformant schema where
  toTypedIn := conformant.toTypedIn.swept swept
  fitting {container feature child} member := by
    obtain ⟨holder, declared, target, concept, holds, known, kind, targets, is, fits⟩ :=
      conformant.fitting (swept.childrenOf_sublist.subset member)
    obtain ⟨cell, there⟩ := Option.isSome_iff_exists.mp (isAlive_of_mem_childrenOf member)
    have stays : after.concept? container = some holder := by
      simpa [concept?, there, swept.cells container cell there] using holds
    have alsoStays : after.concept? child = some concept := by
      simpa [concept?, swept.contents container feature child member] using is
    exact ⟨holder, declared, target, concept, stays, known, kind, targets, alsoStays, fits⟩

theorem Conformant.perform (built : Schema.build decls = .ok schema)
    (conformant : forest.Conformant schema) (operation : Operation) :
    (forest.perform schema operation).Conformant schema :=
  perform_keeps conformant (conformant.create built) conformant.createGeneric
    conformant.createError conformant.apply conformant.swept operation

theorem conformant_run (built : Schema.build decls = .ok schema) (operations : List Operation) :
    (run schema operations).Conformant schema :=
  List.foldlRecOn (motive := (·.Conformant schema)) operations (perform schema)
    (conformant_empty schema) fun _ conformant operation _ => conformant.perform built operation

end TypedTree.Forest
