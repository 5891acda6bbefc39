import TypedTree.Proofs.Forest.Regrowth
import TypedTree.Proofs.Transform.Upkeep

namespace TypedTree

/-! # Programs that keep to the nodes they made

A constructor is confined if it works only on nodes made since its foreign node was begun and
does not look at what the older ones hold; a hook likewise. Such programs cannot tell apart two
forests that differ in older nodes alone, and neither can the engine as long as it fills the
nodes they made.
-/

namespace Forest

variable {base ground forest : Forest} {mark node : NodeId}

/-- The forest in which nothing can be seen of the nodes before `mark` but that they are
there. -/
def veil (forest : Forest) (mark : NodeId) : Forest :=
  { forest with
    cells := forest.cells.mapIdx fun node cell =>
      if node < mark then cell.map fun _ => .blank .generic else cell }

theorem cell?_veil :
    (forest.veil mark).cell? node =
      if node < mark then (forest.cell? node).map fun _ => .blank .generic
      else forest.cell? node := by
  rw [cell?, veil, Array.getElem?_mapIdx, cell?]
  cases forest.cells[node]? with
  | none => simp
  | some cell => by_cases old : node < mark <;> simp [old]

theorem Grafted.veil_onto (grafted : Grafted base ground forest) :
    (forest.onto ground).veil base.nextId = forest.veil base.nextId := by
  refine ext_cell? rfl (by simp [nextId, veil, onto]) fun node => ?_
  rw [cell?_veil, cell?_veil]
  rcases Nat.lt_or_ge node base.nextId with old | new
  · have alive := grafted.isAlive_onto node
    rw [if_pos old, if_pos old]
    rw [isAlive, isAlive, Bool.eq_iff_iff, Option.isSome_iff_exists, Option.isSome_iff_exists]
      at alive
    cases there : (forest.onto ground).cell? node <;> cases here : forest.cell? node <;>
      simp_all
  · rw [if_neg (Nat.not_lt.mpr new), if_neg (Nat.not_lt.mpr new), grafted.cell?_onto new]

end Forest

namespace BuildRequest

/-- The nodes that a request works on or names as a parent. -/
def nodes : BuildRequest → List NodeId
  | .tree (.edit edit) => edit.nodes
  | .transform _ parent | .transformList _ parent | .transformNode _ parent => parent.toList
  | .tree .look | .tree (.create _) | .tree .createGeneric | .tree (.createError _)
  | .config | .addIssue _ | .issues | .takeIssues => []

/-- The answer with the nodes before `mark` hidden. -/
def shown (mark : NodeId) : (request : BuildRequest) → request.Answer → request.Answer
  | .tree .look, forest => forest.veil mark
  | .tree (.create _), answer | .tree .createGeneric, answer | .tree (.createError _), answer
  | .tree (.edit _), answer | .config, answer | .addIssue _, answer | .issues, answer
  | .takeIssues, answer | .transform _ _, answer | .transformList _ _, answer
  | .transformNode _ _, answer => answer

/-- The nodes, among those made since `mark`, that a program learns of by an answer. -/
def Names (mark : NodeId) : (request : BuildRequest) → request.Answer → NodeId → Prop
  | .tree .look, forest, node =>
      ∃ container feature, mark ≤ container ∧ node ∈ forest.childrenOf container feature
  | .tree (.create _), .ok made, node => node = made
  | .tree .createGeneric, made, node | .tree (.createError _), made, node => node = made
  | .transform _ _, .ok made, node | .transformNode _ _, .ok made, node => made = some node
  | .transformList _ _, .ok made, node => node ∈ made
  | .tree (.create _), .error _, _ | .tree (.edit _), _, _ | .config, _, _
  | .addIssue _, _, _ | .issues, _, _ | .takeIssues, _, _ | .transform _ _, .error _, _
  | .transformList _ _, .error _, _ | .transformNode _ _, .error _, _ => False

end BuildRequest

/-- Where nodes up to `bound` are known, the program works only on nodes from `mark` on that
it knows of, does not look at the older ones, and its result is one that `yields` allows. -/
inductive Construction.Confined {α : Type} (mark : NodeId) (yields : NodeId → α → Prop) :
    NodeId → Construction α → Prop where
  | done {bound : NodeId} {result : α} (allowed : yields bound result) :
      Confined mark yields bound (.done result)
  | fail {bound : NodeId} (error : TransformError) : Confined mark yields bound (.fail error)
  | ask {bound : NodeId} {request : BuildRequest} {next : request.Answer → Construction α}
      (own : ∀ node ∈ request.nodes, mark ≤ node ∧ node < bound)
      (blind : ∀ answer, next (request.shown mark answer) = next answer)
      (later : ∀ answer bound', bound ≤ bound' →
        (∀ node, request.Names mark answer node → mark ≤ node ∧ node < bound') →
        Confined mark yields bound' (next answer)) :
      Confined mark yields bound (.ask request next)

/-- A hook as a construction, which may ask for less. -/
def Finishing.toConstruction {α : Type} : Finishing α → Construction α
  | .done result => .done result
  | .fail error => .fail error
  | .ask request next => .ask (.tree request) fun answer => Finishing.toConstruction (next answer)

/-- The constructor and the hook keep to the nodes made since their foreign node was begun. -/
structure Factory.Confined (factory : Factory) : Prop where
  constructs : ∀ foreign mark, (factory.construct foreign factory.rules).Confined mark
    (fun bound made => ∀ node, made = some node → mark ≤ node ∧ node < bound) mark
  finishes : ∀ hook, factory.finish = some hook → ∀ foreign mark bound node, mark ≤ node →
    node < bound → (hook node foreign).toConstruction.Confined mark (fun _ _ => True) bound

namespace Engine

variable {schema : Schema} {paired : Memo → Memo → Prop} {base ground : Forest}
  {run other after otherAfter : Run} {recur following : Recur} {α β : Type}

theorem run_toConstruction (engine : Engine) (recur : Recur) (hook : Finishing α) :
    hook.toConstruction.run (engine.answerBuild recur) = hook.run (answerTree engine.schema) := by
  induction hook with
  | done result => rfl
  | fail error => rfl
  | ask request next ih => exact bind_congr fun answer => ih answer

/-- The second run is the first one with the older nodes of `base` replaced by those of
`ground`. -/
structure Twin (schema : Schema) (paired : Memo → Memo → Prop) (base ground : Forest)
    (run other : Run) : Prop where
  grafted : base.Grafted ground run.forest
  forest : other.forest = run.forest.onto ground
  issues : other.issues = run.issues
  memos : paired run.memo other.memo
  typed : run.forest.TypedIn schema

theorem Twin.nextId (twin : Twin schema paired base ground run other) :
    other.forest.nextId = run.forest.nextId := by
  rw [twin.forest, Forest.nextId_onto]

theorem Twin.reached (twin : Twin schema paired base ground run other) :
    base.nextId ≤ run.forest.nextId := twin.grafted.grows.extended.nextId

/-- Whatever has grown so far is ground for what follows. -/
theorem Twin.restart (twin : Twin schema paired base ground run other) :
    Twin schema paired run.forest other.forest run other where
  grafted :=
    { alike := twin.forest ▸ twin.grafted.alike_onto
      here := twin.grafted.grows.known
      there := twin.forest ▸ twin.grafted.known_onto
      grows := .refl twin.grafted.grows.known }
  forest := (Forest.onto_self twin.nextId (by rw [twin.forest]; rfl)).symm
  issues := twin.issues
  memos := twin.memos
  typed := twin.typed

theorem Twin.trans (before : Twin schema paired base ground run other)
    (later : Twin schema paired run.forest other.forest after otherAfter) :
    Twin schema paired base ground after otherAfter where
  grafted :=
    { alike := before.grafted.alike
      here := before.grafted.here
      there := before.grafted.there
      grows := before.grafted.grows.trans later.grafted.grows }
  forest := by
    rw [later.forest, before.forest,
      Forest.onto_onto later.grafted.grows.extended before.grafted.reached]
  issues := later.issues
  memos := later.memos
  typed := later.typed

/-- A step that changes the forests alone. -/
theorem Twin.change (twin : Twin schema paired base ground run other) {forest : Forest}
    (grafted : base.Grafted ground forest) (typed : forest.TypedIn schema) :
    Twin schema paired base ground { run with forest := forest }
      { other with forest := forest.onto ground } :=
  ⟨grafted, rfl, twin.issues, twin.memos, typed⟩

/-- Whatever `first` answers, `second` answers too, and what is left of the two runs are twins
again. -/
def Paces (schema : Schema) (paired : Memo → Memo → Prop) (base ground : Forest)
    (post : α → Forest → Prop) (run other : Run) (first second : RunM α) : Prop :=
  ∀ answer after, first.run run = some (answer, after) →
    ∃ otherAfter, second.run other = some (answer, otherAfter) ∧
      Twin schema paired base ground after otherAfter ∧
      run.forest.nextId ≤ after.forest.nextId ∧ post answer after.forest

variable {post : α → Forest → Prop} {last : β → Forest → Prop}

theorem paces_pure (answer : α) (twin : Twin schema paired base ground run other)
    (holds : post answer run.forest) :
    Paces schema paired base ground post run other (pure answer) (pure answer) := by
  intro result after ended
  cases ended
  exact ⟨other, rfl, twin, Nat.le_refl _, holds⟩

theorem Paces.bind {first second : RunM α} {next continuing : α → RunM β}
    (here : Paces schema paired base ground post run other first second)
    (later : ∀ answer after otherAfter, Twin schema paired base ground after otherAfter →
      run.forest.nextId ≤ after.forest.nextId → post answer after.forest →
      Paces schema paired base ground last after otherAfter (next answer) (continuing answer)) :
    Paces schema paired base ground last run other (first >>= next) (second >>= continuing) := by
  intro result after ended
  rw [StateT.run_bind, Option.bind_eq_bind, Option.bind_eq_some_iff] at ended
  obtain ⟨⟨answer, between⟩, begun, ended⟩ := ended
  obtain ⟨otherBetween, otherBegun, twin, grown, holds⟩ := here answer between begun
  obtain ⟨otherAfter, otherEnded, twinAfter, grownAfter, holdsAfter⟩ :=
    later answer between otherBetween twin grown holds result after ended
  refine ⟨otherAfter, ?_, twinAfter, Nat.le_trans grown grownAfter, holdsAfter⟩
  rw [StateT.run_bind, otherBegun]
  exact otherEnded

theorem Paces.mono {first second : RunM α} {weaker : α → Forest → Prop}
    (here : Paces schema paired base ground post run other first second)
    (implies : ∀ answer forest, run.forest.nextId ≤ forest.nextId → post answer forest →
      weaker answer forest) :
    Paces schema paired base ground weaker run other first second := by
  intro answer after ended
  obtain ⟨otherAfter, otherEnded, twin, grown, holds⟩ := here answer after ended
  exact ⟨otherAfter, otherEnded, twin, grown, implies answer _ grown holds⟩

/-- Steps that go along on what has grown so far go along on the older ground. -/
theorem Paces.within {first second : RunM α} (twin : Twin schema paired base ground run other)
    (here : Paces schema paired run.forest other.forest post run other first second) :
    Paces schema paired base ground post run other first second := by
  intro answer after ended
  obtain ⟨otherAfter, otherEnded, twinAfter, grown, holds⟩ := here answer after ended
  exact ⟨otherAfter, otherEnded, twin.trans twinAfter, grown, holds⟩

theorem paces_modifyGet {first second : Run → α × Run}
    (same : (second other).1 = (first run).1)
    (twin : Twin schema paired base ground (first run).2 (second other).2)
    (grown : run.forest.nextId ≤ (first run).2.forest.nextId)
    (holds : post (first run).1 (first run).2.forest) :
    Paces schema paired base ground post run other (modifyGet first) (modifyGet second) := by
  intro answer after ended
  have stepped : first run = (answer, after) := Option.some.inj ended
  rw [stepped] at same twin grown holds
  have answered : second other = (answer, (second other).2) := Prod.ext same rfl
  exact ⟨(second other).2, congrArg some answered, twin, grown, holds⟩

/-- What holds of an answer unless it is an error. -/
def ifOk (post : α → Forest → Prop) : Except TransformError α → Forest → Prop
  | .ok answer, forest => post answer forest
  | .error _, _ => True

theorem paces_ok (answer : α) (twin : Twin schema paired base ground run other)
    (holds : post answer run.forest) :
    Paces schema paired base ground (ifOk post) run other (pure answer : EngineM α).run
      (pure answer : EngineM α).run :=
  paces_pure (Except.ok answer) twin holds

theorem paces_throw (error : TransformError) (twin : Twin schema paired base ground run other) :
    Paces schema paired base ground (ifOk post) run other (throw error : EngineM α).run
      (throw error : EngineM α).run :=
  paces_pure (Except.error error) twin trivial

theorem Paces.lift {first second : RunM α}
    (here : Paces schema paired base ground post run other first second) :
    Paces schema paired base ground (ifOk post) run other (liftM first : EngineM α).run
      (liftM second : EngineM α).run :=
  here.bind fun answer _ _ twin _ holds => paces_pure (Except.ok answer) twin holds

theorem Paces.andThen {first second : EngineM α} {next continuing : α → EngineM β}
    (here : Paces schema paired base ground (ifOk post) run other first.run second.run)
    (later : ∀ answer after otherAfter, Twin schema paired base ground after otherAfter →
      run.forest.nextId ≤ after.forest.nextId → post answer after.forest →
      Paces schema paired base ground (ifOk last) after otherAfter (next answer).run
        (continuing answer).run) :
    Paces schema paired base ground (ifOk last) run other (first >>= next).run
      (second >>= continuing).run := by
  refine here.bind fun answer after otherAfter twin grown holds => ?_
  cases answer with
  | ok answer => exact later answer after otherAfter twin grown holds
  | error error => exact paces_pure (Except.error error) twin trivial

/-- The nodes were made since `mark`. -/
def Fresh (mark : NodeId) (nodes : List NodeId) (forest : Forest) : Prop :=
  ∀ node ∈ nodes, mark ≤ node ∧ node < forest.nextId

theorem Fresh.mono {mark : NodeId} {nodes : List NodeId} {forest later : Forest}
    (fresh : Fresh mark nodes forest) (grown : forest.nextId ≤ later.nextId) :
    Fresh mark nodes later :=
  fun node member => ⟨(fresh node member).1, Nat.lt_of_lt_of_le (fresh node member).2 grown⟩

theorem Fresh.since {mark older : NodeId} {nodes : List NodeId} {forest : Forest}
    (fresh : Fresh mark nodes forest) (before : older ≤ mark) : Fresh older nodes forest :=
  fun node member => ⟨Nat.le_trans before (fresh node member).1, (fresh node member).2⟩

theorem Fresh.append {mark : NodeId} {nodes others : List NodeId} {forest : Forest}
    (fresh : Fresh mark nodes forest) (also : Fresh mark others forest) :
    Fresh mark (nodes ++ others) forest := by
  intro node member
  rcases List.mem_append.mp member with first | second
  · exact fresh node first
  · exact also node second

section

variable (twin : Twin schema paired base ground run other)
include twin

theorem paces_applyEdit {change : Edit} (fresh : Fresh base.nextId change.nodes run.forest) :
    Paces schema paired base ground (fun _ _ => True) run other (applyEdit change)
      (applyEdit change) := by
  have repeats := twin.grafted.repeats_apply fresh
  have there := repeats.onto
  rw [← twin.forest] at there
  cases applied : run.forest.apply change with
  | error error =>
      rw [applied] at there
      refine paces_modifyGet ?_ ?_ ?_ trivial
      · simp only [applied, there, Except.map]
      · simpa only [applied, there, Except.map] using twin
      · simp only [applied, Nat.le_refl]
  | ok forest =>
      obtain ⟨grafted, size⟩ := repeats.grafted applied
      rw [applied] at there
      refine paces_modifyGet ?_ ?_ ?_ trivial
      · simp only [applied, there, Except.map]
      · simpa only [applied, there, Except.map] using
          twin.change grafted (twin.typed.apply applied)
      · simp only [applied, size, Nat.le_refl]

theorem paces_edit {change : Edit} (fresh : Fresh base.nextId change.nodes run.forest) :
    Paces schema paired base ground (ifOk fun _ _ => True) run other (Engine.edit change).run
      (Engine.edit change).run := by
  refine (paces_applyEdit twin fresh).bind fun answer _ _ twin _ _ => paces_pure _ twin ?_
  cases answer <;> trivial

theorem paces_addNode {make : Forest → NodeId × Forest} {cell : Cell}
    (makes : ∀ forest, make forest = forest.add cell) (bare : cell.Bare)
    (typed : (run.forest.add cell).2.TypedIn schema) :
    Paces schema paired base ground (fun node => Fresh run.forest.nextId [node]) run other
      (addNode make) (addNode make) := by
  obtain ⟨grafted, onto⟩ := twin.grafted.add bare
  have size : (run.forest.add cell).2.nextId = run.forest.nextId + 1 := Forest.nextId_add
  refine paces_modifyGet ?_ ?_ ?_ ?_
  · simp only [makes]
    exact twin.nextId
  · simp only [makes, twin.forest, ← onto]
    exact twin.change grafted typed
  · simp only [makes, size]
    exact Nat.le_succ _
  · simp only [makes]
    intro node member
    cases List.mem_singleton.mp member
    exact ⟨Nat.le_refl _, size ▸ Nat.lt_succ_self _⟩

theorem paces_createGeneric :
    Paces schema paired base ground (fun node => Fresh run.forest.nextId [node]) run other
      (addNode Forest.createGeneric) (addNode Forest.createGeneric) :=
  paces_addNode twin (fun _ => rfl) (Cell.bare_blank _) twin.typed.createGeneric

theorem paces_createError (message : String) :
    Paces schema paired base ground (fun node => Fresh run.forest.nextId [node]) run other
      (addNode (Forest.createError · message)) (addNode (Forest.createError · message)) :=
  paces_addNode twin (fun _ => rfl) ((Cell.bare_blank _).setSlot _ rfl)
    (twin.typed.createError message)

theorem paces_createNode {decls : List ConceptDecl} (built : Schema.build decls = .ok schema)
    (name : String) :
    Paces schema paired base ground
      (fun answer forest => ∀ node, answer = .ok node → Fresh run.forest.nextId [node] forest)
      run other (createNode schema name) (createNode schema name) := by
  intro answer after ended
  rw [run_createNode] at ended
  rw [run_createNode]
  cases declared : schema.concept? name with
  | none =>
      rw [declared] at ended
      cases ended
      exact ⟨other, rfl, twin, Nat.le_refl _, fun node made => by cases made⟩
  | some concept =>
      rw [declared] at ended
      cases ended
      have created : run.forest.create schema name = .ok (run.forest.add (.blank concept)) := by
        rw [Forest.create, declared]
      obtain ⟨otherAfter, added, twinAfter, grown, fresh⟩ :=
        paces_addNode twin (fun _ => rfl) (Cell.bare_blank concept)
          (twin.typed.create built created) _ _ rfl
      have same : { other with forest := (other.forest.add (.blank concept)).2 } = otherAfter :=
        congrArg Prod.snd (Option.some.inj added)
      refine ⟨otherAfter, ?_, twinAfter, grown, fun node made => ?_⟩
      · dsimp only
        rw [same, twin.nextId]
      · cases made
        exact fresh

theorem paces_report (issue : Issue) :
    Paces schema paired base ground (fun _ _ => True) run other (report issue) (report issue) := by
  refine paces_modifyGet rfl ⟨twin.grafted, twin.forest, ?_, twin.memos, twin.typed⟩
    (Nat.le_refl _) trivial
  exact congrArg (· ++ [issue]) twin.issues

/-- A node made since the ground was laid, under a parent that is there. -/
theorem paces_adopt {first second : Engine} (source : second.source = first.source)
    {node : NodeId} {parent : Option NodeId} (new : base.nextId ≤ node)
    (lower : ∀ above ∈ parent, above < run.forest.nextId) (foreign : ForeignNode) :
    Paces schema paired base ground (fun _ _ => True) run other
      (first.adopt node foreign parent) (second.adopt node foreign parent) := by
  have carries : Forest.Carries base ground run.forest
      (attachMetadata first.source node foreign parent) := by
    refine twin.grafted.carries_modify new (fun cell found feature child member => ?_)
      fun cell found above linked => ?_
    · have held : child ∈ run.forest.childrenOf node feature := by
        rw [Forest.childrenOf, found]
        exact member
      exact ⟨twin.grafted.grows.inner new held, twin.grafted.grows.known.children held⟩
    · cases parent with
      | some given => exact lower above linked
      | none =>
          refine twin.grafted.grows.known.links node above ?_
          rw [Forest.parentLink?, found]
          exact linked
  have typed : (attachMetadata first.source node foreign parent run.forest).TypedIn schema :=
    twin.typed.setMetadata (fun _ => rfl) fun _ => rfl
  refine paces_modifyGet rfl ?_ (Nat.le_of_eq carries.nextId.symm) trivial
  dsimp only
  rw [source, twin.forest, ← carries.onto]
  exact twin.change carries.grafted typed

end

/-- From twins on, the second way to transform foreign nodes goes along with the first and
leaves what was there before alone. -/
def PacesNested (schema : Schema) (paired : Memo → Memo → Prop) (recur following : Recur) : Prop :=
  ∀ run other, Twin schema paired run.forest other.forest run other →
    ∀ foreign (parent : Option NodeId), (∀ above ∈ parent, above < run.forest.nextId) →
      Paces schema paired run.forest other.forest
        (ifOk fun made => Fresh run.forest.nextId made.toList) run other
        (recur foreign parent).run (following foreign parent).run

namespace PacesNested

variable (nested : PacesNested schema paired recur following) {mark : NodeId}
  {parent : Option NodeId}
include nested

theorem node (twin : Twin schema paired base ground run other)
    (reached : mark ≤ run.forest.nextId) (lower : ∀ above ∈ parent, above < run.forest.nextId)
    (foreign : ForeignNode) :
    Paces schema paired base ground (ifOk fun made => Fresh mark made.toList) run other
      (recur foreign parent).run (following foreign parent).run := by
  refine (Paces.within twin (nested run other twin.restart foreign parent lower)).mono
    fun answer forest _ fresh => ?_
  cases answer with
  | error error => trivial
  | ok made => exact Fresh.since fresh reached

theorem transformValue (twin : Twin schema paired base ground run other)
    (reached : mark ≤ run.forest.nextId) (lower : ∀ above ∈ parent, above < run.forest.nextId)
    (value : ForeignValue) :
    Paces schema paired base ground (ifOk fun made => Fresh mark made.toList) run other
      (Engine.transformValue recur value parent).run
      (Engine.transformValue following value parent).run := by
  match value with
  | .null => exact paces_ok none twin fun node member => by cases member
  | .node foreign => exact nested.node twin reached lower foreign
  | .list items => exact paces_throw _ twin
  | .scalar value => exact paces_throw _ twin

theorem transformEach (twin : Twin schema paired base ground run other)
    (reached : mark ≤ run.forest.nextId) (lower : ∀ above ∈ parent, above < run.forest.nextId)
    (values : List ForeignValue) :
    Paces schema paired base ground (ifOk (Fresh mark)) run other
      (Engine.transformEach recur parent values).run
      (Engine.transformEach following parent values).run := by
  induction values generalizing run other with
  | nil => exact paces_ok [] twin fun node member => by cases member
  | cons value rest ih =>
      refine (nested.transformValue twin reached lower value).andThen
        fun made middle _ twin grown fresh => ?_
      refine (ih twin (Nat.le_trans reached grown)
        fun above is => Nat.lt_of_lt_of_le (lower above is) grown).andThen
          fun others _ _ twin grown also => ?_
      exact paces_ok _ twin ((fresh.mono grown).append also)

theorem transformAll (twin : Twin schema paired base ground run other)
    (reached : mark ≤ run.forest.nextId) (lower : ∀ above ∈ parent, above < run.forest.nextId)
    (value : ForeignValue) :
    Paces schema paired base ground (ifOk (Fresh mark)) run other
      (Engine.transformAll recur value parent).run
      (Engine.transformAll following value parent).run := by
  match value with
  | .list items => exact nested.transformEach twin reached lower items
  | .null | .node _ | .scalar _ =>
      refine (nested.transformValue twin reached lower _).andThen fun made _ _ twin _ fresh => ?_
      exact paces_ok _ twin fresh

theorem transformElements (twin : Twin schema paired base ground run other) {node : NodeId}
    (reached : mark ≤ run.forest.nextId) (known : node < run.forest.nextId)
    (concept feature : String) (values : List ForeignValue) :
    Paces schema paired base ground (ifOk (Fresh mark)) run other
      (Engine.transformElements recur node concept feature values).run
      (Engine.transformElements following node concept feature values).run := by
  induction values generalizing run other with
  | nil => exact paces_ok [] twin fun node member => by cases member
  | cons value rest ih =>
      match value with
      | .null => exact ih twin reached known
      | .node foreign =>
          refine (nested.node twin reached (fun above is => by cases is; exact known)
            foreign).andThen fun made _ _ twin grown fresh => ?_
          refine (ih twin (Nat.le_trans reached grown) (Nat.lt_of_lt_of_le known grown)).andThen
            fun others _ _ twin grown also => ?_
          exact paces_ok _ twin ((fresh.mono grown).append also)
      | .list items => exact paces_throw _ twin
      | .scalar value => exact paces_throw _ twin

theorem assign (twin : Twin schema paired base ground run other) {node : NodeId}
    (own : Fresh base.nextId [node] run.forest) (concept : String) (feature : Feature)
    (value : ForeignValue) :
    Paces schema paired base ground (ifOk fun _ _ => True) run other
      (Engine.assign recur node concept feature value).run
      (Engine.assign following node concept feature value).run := by
  have known := (own node List.mem_cons_self).2
  unfold Engine.assign
  cases kind : feature.type <;> cases value <;> try exact paces_throw _ twin
  case child.node target foreign =>
    refine (nested.node twin twin.reached (fun above is => by cases is; exact known)
      foreign).andThen fun made _ _ twin grown fresh => ?_
    exact paces_edit twin ((own.mono grown).append fresh)
  case children.list target items =>
    refine (nested.transformElements twin twin.reached known concept feature.name items).andThen
      fun made _ _ twin grown fresh => ?_
    exact paces_edit twin ((own.mono grown).append fresh)
  -- What is left puts no node into another.
  all_goals exact paces_edit twin own

theorem assignAll (twin : Twin schema paired base ground run other) {node : NodeId}
    (own : Fresh base.nextId [node] run.forest) (concept : String) (foreign : ForeignNode)
    (plan : Plan) :
    Paces schema paired base ground (ifOk fun _ _ => True) run other
      (Engine.assignAll recur node concept foreign plan).run
      (Engine.assignAll following node concept foreign plan).run := by
  induction plan generalizing run other with
  | nil => exact paces_ok () twin trivial
  | cons step rest ih =>
      refine (nested.assign twin own concept step.1 _).andThen fun _ _ _ twin grown _ => ?_
      exact ih twin (own.mono grown)

end PacesNested

/-- The second run answers a request as the first does, but for what can be seen of the nodes
before `base`, and the nodes that the answer names are newer. -/
def Answers (schema : Schema) (paired : Memo → Memo → Prop) (base ground : Forest)
    (run other : Run) (request : BuildRequest) (first second : RunM request.Answer) : Prop :=
  ∀ answer after, first.run run = some (answer, after) →
    ∃ otherAnswer otherAfter, second.run other = some (otherAnswer, otherAfter) ∧
      request.shown base.nextId otherAnswer = request.shown base.nextId answer ∧
      Twin schema paired base ground after otherAfter ∧
      run.forest.nextId ≤ after.forest.nextId ∧
      ∀ node, request.Names base.nextId answer node →
        base.nextId ≤ node ∧ node < after.forest.nextId

theorem Paces.answers {request : BuildRequest} {first second : RunM request.Answer}
    {post : request.Answer → Forest → Prop}
    (here : Paces schema paired base ground post run other first second)
    (names : ∀ answer forest node, post answer forest → request.Names base.nextId answer node →
      base.nextId ≤ node ∧ node < forest.nextId) :
    Answers schema paired base ground run other request first second := by
  intro answer after ended
  obtain ⟨otherAfter, otherEnded, twin, grown, holds⟩ := here answer after ended
  exact ⟨answer, otherAfter, otherEnded, rfl, twin, grown,
    fun node named => names answer after.forest node holds named⟩

theorem answers_answerTree {decls : List ConceptDecl} (built : Schema.build decls = .ok schema)
    (twin : Twin schema paired base ground run other) {request : TreeRequest}
    (own : Fresh base.nextId (BuildRequest.tree request).nodes run.forest) :
    Answers schema paired base ground run other (.tree request) (answerTree schema request)
      (answerTree schema request) := by
  have made {node : NodeId} {forest : Forest} (fresh : Fresh run.forest.nextId [node] forest) :
      base.nextId ≤ node ∧ node < forest.nextId :=
    fresh.since twin.reached node List.mem_cons_self
  match request with
  | .look =>
      intro answer after ran
      cases ran
      refine ⟨other.forest, other, rfl, ?_, twin, Nat.le_refl _, ?_⟩
      · exact (congrArg (·.veil base.nextId) twin.forest).trans twin.grafted.veil_onto
      · rintro node ⟨container, feature, new, member⟩
        exact ⟨twin.grafted.grows.inner new member, twin.grafted.grows.known.children member⟩
  | .create name =>
      refine (paces_createNode twin built name).answers fun answer forest node fresh named => ?_
      cases answer with
      | error error => cases named
      | ok created =>
          cases named
          exact made (fresh node rfl)
  | .createGeneric =>
      refine (paces_createGeneric twin).answers fun created forest node fresh named => ?_
      cases named
      exact made fresh
  | .createError message =>
      refine (paces_createError twin message).answers fun created forest node fresh named => ?_
      cases named
      exact made fresh
  | .edit change =>
      exact (paces_applyEdit twin own).answers fun _ _ _ _ named => by cases named

section

variable {first second : Engine} {decls : List ConceptDecl}
  (built : Schema.build decls = .ok first.schema)
  (same : second = { first with factories := second.factories })
  (nested : PacesNested first.schema paired recur following)
include built same nested

theorem answers_answerBuild (twin : Twin first.schema paired base ground run other)
    {request : BuildRequest} (own : Fresh base.nextId request.nodes run.forest) :
    Answers first.schema paired base ground run other request (first.answerBuild recur request)
      (second.answerBuild following request) := by
  have lower {parent : Option NodeId} (own : Fresh base.nextId parent.toList run.forest) :
      ∀ above ∈ parent, above < run.forest.nextId :=
    fun above is => (own above (by rw [Option.mem_def.mp is]; exact List.mem_cons_self)).2
  match request with
  | .tree request =>
      unfold answerBuild
      rw [same]
      exact answers_answerTree built twin own
  | .config =>
      unfold answerBuild
      rw [same]
      intro answer after ran
      cases ran
      exact ⟨first.config, other, rfl, rfl, twin, Nat.le_refl _, fun node named => by cases named⟩
  | .addIssue issue =>
      exact (paces_report twin issue).answers fun _ _ _ _ named => by cases named
  | .issues =>
      intro answer after ran
      cases ran
      exact ⟨other.issues, other, rfl, twin.issues, twin, Nat.le_refl _,
        fun node named => by cases named⟩
  | .takeIssues =>
      intro answer after ran
      cases ran
      exact ⟨other.issues, { other with issues := [] }, rfl, twin.issues,
        ⟨twin.grafted, twin.forest, rfl, twin.memos, twin.typed⟩, Nat.le_refl _,
        fun node named => by cases named⟩
  | .transform value parent =>
      refine (nested.transformValue twin twin.reached (lower own) value).answers
        fun answer forest node fresh named => ?_
      cases answer with
      | error error => cases named
      | ok made => exact fresh node (Option.mem_toList.mpr named)
  | .transformList value parent =>
      refine (nested.transformAll twin twin.reached (lower own) value).answers
        fun answer forest node fresh named => ?_
      cases answer with
      | error error => cases named
      | ok made => exact fresh node named
  | .transformNode foreign parent =>
      refine (nested.node twin twin.reached (lower own) foreign).answers
        fun answer forest node fresh named => ?_
      cases answer with
      | error error => cases named
      | ok made => exact fresh node (Option.mem_toList.mpr named)

/-- A confined program does on either ground what it does on the other. -/
theorem paces_program {yields : NodeId → α → Prop} {bound : NodeId} {program : Construction α}
    (confined : program.Confined base.nextId yields bound)
    (twin : Twin first.schema paired base ground run other) (known : bound ≤ run.forest.nextId) :
    Paces first.schema paired base ground
      (ifOk fun result forest => ∃ bound ≤ forest.nextId, yields bound result) run other
      (program.run (first.answerBuild recur)) (program.run (second.answerBuild following)) := by
  induction confined generalizing run other with
  | done allowed => exact paces_pure (Except.ok _) twin ⟨_, known, allowed⟩
  | fail error => exact paces_pure (Except.error error) twin trivial
  | @ask bound request next own blind later ih =>
      intro result after ended
      rw [Program.run, StateT.run_bind, Option.bind_eq_bind, Option.bind_eq_some_iff] at ended
      obtain ⟨⟨answer, between⟩, answered, ended⟩ := ended
      obtain ⟨otherAnswer, otherBetween, otherAnswered, alike, twin, grown, names⟩ :=
        answers_answerBuild built same nested twin (fun node member =>
          ⟨(own node member).1, Nat.lt_of_lt_of_le (own node member).2 known⟩) answer between
            answered
      -- The answers differ in what the program does not look at.
      have goesOn : next otherAnswer = next answer := by
        rw [← blind otherAnswer, alike, blind answer]
      obtain ⟨otherAfter, otherEnded, twinAfter, grownAfter, holds⟩ :=
        ih answer between.forest.nextId (Nat.le_trans known grown) names twin (Nat.le_refl _)
          result after ended
      refine ⟨otherAfter, ?_, twinAfter, Nat.le_trans grown grownAfter, holds⟩
      rw [Program.run, StateT.run_bind, otherAnswered]
      change ((next otherAnswer).run (second.answerBuild following)).run otherBetween = _
      rw [goesOn]
      exact otherEnded

end

end Engine

end TypedTree
