import TypedTree.Proofs.Transform.Failures
import TypedTree.Proofs.Transform.Modest
import TypedTree.Proofs.Transform.Upkeep

namespace TypedTree

namespace Engine

/-- The issue that is reported with a generic node. -/
def unmappedIssue (foreign : ForeignNode) : Issue :=
  ⟨.translation, .info, "Source node not mapped: " ++ foreign.typeName, foreign.range⟩

end Engine

/-- The issue is the one for this placeholder. -/
inductive Cell.Announced (cell : Cell) : Issue → Prop where
  | unmapped {foreign : ForeignNode} (generic : cell.concept = .generic)
      (origin : cell.origin = some (.foreign foreign)) (range : cell.range = foreign.range) :
      Announced cell (Engine.unmappedIssue foreign)
  | failed {foreign : ForeignNode} {message : String} (error : cell.concept = .error)
      (text : cell.errorMessage? = some message)
      (origin : cell.origin = some (.foreign foreign)) (range : cell.range = foreign.range) :
      Announced cell (Engine.failureIssue foreign message)

namespace Forest

variable {forest after : Forest} {nodes more : List NodeId} {issues others : List Issue}

def placeholders (forest : Forest) (nodes : List NodeId) : List Cell :=
  (nodes.filterMap forest.cell?).filter (·.concept.isPlaceholder)

/-- The issues are those for the placeholders among the nodes, in order. -/
def Reports (forest : Forest) (nodes : List NodeId) (issues : List Issue) : Prop :=
  List.Forall₂ Cell.Announced (forest.placeholders nodes) issues

theorem Reports.congr (reports : forest.Reports nodes issues)
    (same : ∀ node ∈ nodes, after.cell? node = forest.cell? node) :
    after.Reports nodes issues := by
  unfold Reports placeholders at *
  rwa [List.filterMap_congr same]

theorem Reports.append (first : forest.Reports nodes issues)
    (second : forest.Reports more others) : forest.Reports (nodes ++ more) (issues ++ others) := by
  unfold Reports placeholders at *
  rw [List.filterMap_append, List.filter_append]
  exact List.rel_append first second

theorem placeholders_cons_of_proper {node : NodeId} {cell : Cell}
    (found : forest.cell? node = some cell) (proper : cell.concept.isPlaceholder = false) :
    forest.placeholders (node :: nodes) = forest.placeholders nodes := by
  rw [placeholders, List.filterMap_cons_some found, List.filter_cons_of_neg (by simpa using proper)]
  rfl

theorem reports_singleton {node : NodeId} {cell : Cell} {issue : Issue}
    (found : forest.cell? node = some cell) (placeholder : cell.concept.isPlaceholder = true)
    (announced : cell.Announced issue) : forest.Reports [node] [issue] := by
  rw [Reports, placeholders, List.filterMap_cons_some found,
    List.filter_cons_of_pos (by simpa using placeholder)]
  exact .cons announced .nil

end Forest

namespace Engine

variable {engine : Engine} {recur : Recur} {factory : Factory} {foreign : ForeignNode}
  {floor base node : NodeId} {parent : Option NodeId} {roots others : List NodeId}
  {run middle start after : Run} {feature : Feature} {rest : List Feature}

/-- The trees at `roots` were made, and their placeholders were reported. Nothing made since
`floor` was changed. -/
structure Yields (floor : NodeId) (parent : Option NodeId) (roots : List NodeId)
    (run after : Run) : Prop where
  keeps : Forest.Keeps floor run.forest after.forest
  linked : ∀ root ∈ roots, ∀ above, parent = some above →
    after.forest.parentLink? root = some above
  plants : ∃ nodes issues, after.issues = run.issues ++ issues ∧
    after.forest.Planted run.forest.nextId roots nodes ∧ after.forest.Reports nodes issues

theorem yields_nothing (keeps : Forest.Keeps floor run.forest after.forest)
    (issues : after.issues = run.issues) : Yields floor parent [] run after where
  keeps := keeps
  linked := nofun
  plants := ⟨[], [], by rw [issues, List.append_nil], .nil _ _, .nil⟩

theorem Yields.append (above : floor ≤ run.forest.nextId)
    (first : Yields floor parent roots run middle)
    (second : Yields floor parent others middle after) :
    Yields floor parent (roots ++ others) run after := by
  obtain ⟨nodes, issues, reported, planted, reports⟩ := first.plants
  obtain ⟨more, further, reportedLater, plantedLater, reportsLater⟩ := second.plants
  have same : ∀ node ∈ nodes, after.forest.cell? node = middle.forest.cell? node := by
    intro node member
    obtain ⟨since, known⟩ := planted.within node member
    exact second.keeps.cells node (Nat.le_trans above since) known
  refine ⟨first.keeps.trans second.keeps, fun root member => ?_, ?_⟩
  · intro container given
    rcases List.mem_append.mp member with early | late
    · rw [Forest.parentLink?, same root (planted.mem_of_root early)]
      exact first.linked root early container given
    · exact second.linked root late container given
  · refine ⟨nodes ++ more, issues ++ further, ?_, ?_, (reports.congr same).append reportsLater⟩
    · rw [reportedLater, reported, List.append_assoc]
    · exact planted.extend same plantedLater first.keeps.nextId second.keeps.nextId

/-- A way to transform foreign nodes that accounts for what it makes. -/
def Accounts (engine : Engine) (floor : NodeId) (recur : Recur) : Prop :=
  ∀ foreign parent run result after, engine.Tidy run → floor ≤ run.forest.nextId →
    (recur foreign parent).run.run run = some (.ok result, after) →
    engine.Tidy after ∧ Yields floor parent result.toList run after

theorem Accounts.transformElements (accounts : engine.Accounts floor recur)
    {concept name : String} {values : List ForeignValue} {children : List NodeId}
    (tidy : engine.Tidy run) (above : floor ≤ run.forest.nextId)
    (ran : (transformElements recur node concept name values).run.run run =
      some (.ok children, after)) :
    engine.Tidy after ∧ Yields floor (some node) children run after := by
  induction values generalizing run children with
  | nil =>
      cases ran
      exact ⟨tidy, yields_nothing (.refl _ _) rfl⟩
  | cons value rest ih =>
      match value with
      | .null => exact ih tidy above ran
      | .node foreign =>
          obtain ⟨child, others, middle, begun, continued, rfl⟩ :=
            run_transformElements_node_iff.mp ran
          obtain ⟨tidyThen, first⟩ := accounts foreign (some node) run child middle tidy above begun
          obtain ⟨tidyAfter, second⟩ :=
            ih tidyThen (Nat.le_trans above first.keeps.nextId) continued
          exact ⟨tidyAfter, first.append above second⟩
      | .list items => cases ran
      | .scalar value => cases ran

/-- The node is being filled since `start`, when it was not there yet: what its features hold
is accounted for. -/
structure Wired (floor base node : NodeId) (parent : Option NodeId) (rest : List Feature)
    (start run : Run) : Prop where
  keeps : Forest.Keeps floor start.forest run.forest
  proper : ∃ cell, run.forest.cell? node = some cell ∧ cell.concept.isPlaceholder = false ∧
    ∀ above, parent = some above → cell.parent = some above
  held : ∃ nodes issues, run.issues = start.issues ++ issues ∧
    run.forest.Filling base node rest nodes ∧ run.forest.Reports nodes issues

theorem Wired.setMemo (wired : Wired floor base node parent rest start run) (memo : Memo) :
    Wired floor base node parent rest start { run with memo := memo } :=
  ⟨wired.keeps, wired.proper, wired.held⟩

section

variable (low : floor ≤ start.forest.nextId) (new : start.forest.nextId ≤ node)
  (wired : Wired floor base node parent (feature :: rest) start run)
include low new wired

theorem Wired.fill {children : List NodeId} {change : Slot → Slot}
    (yields : Yields floor (some node) children run middle)
    (holds : (middle.forest.modify node (·.changeSlot feature.name change)).childrenOf node
      feature.name = children) :
    Wired floor base node parent rest start
      { middle with forest := middle.forest.modify node (·.changeSlot feature.name change) } := by
  obtain ⟨cell, found, proper, linked⟩ := wired.proper
  obtain ⟨nodes, issues, reported, filling, reports⟩ := wired.held
  obtain ⟨more, further, reportedLater, planted, reportsLater⟩ := yields.plants
  have lower : floor ≤ node := Nat.le_trans low new
  have foundThen : middle.forest.cell? node = some cell :=
    (yields.keeps.cells node lower
      (Nat.lt_of_lt_of_le filling.older filling.reached)).trans found
  refine ⟨(wired.keeps.trans yields.keeps).modify new _, ?_, nodes ++ more, issues ++ further, ?_,
    filling.fill yields.keeps lower planted holds, ?_⟩
  · refine ⟨cell.changeSlot feature.name change, ?_, proper, linked⟩
    rw [Forest.cell?_modify, if_pos rfl, foundThen, Option.map_some]
  · rw [reportedLater, reported, List.append_assoc]
  · exact (reports.congr (filling.cell?_held yields.keeps lower _)).append
      (reportsLater.congr (filling.cell?_made planted _))

theorem Wired.setSlot {content : Slot} (bare : content.contained = []) :
    Wired floor base node parent rest start
      { run with forest := run.forest.modify node (·.setSlot feature.name content) } := by
  refine wired.fill low new (yields_nothing (.refl _ _) rfl) ?_
  rw [Forest.childrenOf_modify_self]
  cases run.forest.cell? node with
  | none => rfl
  | some cell =>
      rw [Option.map_some, Option.getD_some, Cell.childrenOf_changeSlot_self]
      cases cell.slot? feature.name with
      | none => rfl
      | some slot => exact bare

theorem Wired.take {children : List NodeId} {forest : Forest}
    (yields : Yields floor (some node) children run middle)
    (attached : forest = middle.forest.attach node feature.name children .replace)
    (holds : forest.childrenOf node feature.name = children) :
    Wired floor base node parent rest start { middle with forest := forest } := by
  obtain ⟨nodes, issues, _, filling, _⟩ := wired.held
  obtain ⟨more, further, _, planted, _⟩ := yields.plants
  -- The children have their links already and stand nowhere: only the slot of the node changes.
  rw [filling.attach yields.keeps (Nat.le_trans low new) planted
    (fun child member => yields.linked child member node rfl)] at attached
  subst attached
  exact wired.fill low new yields holds

theorem Wired.setAttribute {value : Option Value} (tidy : engine.Tidy run)
    (ran : (edit (.setAttribute node feature.name value)).run.run run = some (.ok (), after)) :
    engine.Tidy after ∧ Wired floor base node parent rest start after := by
  obtain ⟨forest, set, rfl⟩ := run_edit_eq_ok ran
  refine ⟨⟨tidy.typed.apply set, tidy.recalls⟩, ?_⟩
  obtain ⟨_, _, _, _, _, rfl⟩ := Forest.setAttribute_eq_ok_iff.mp set
  exact wired.setSlot low new rfl

theorem Wired.setReference {link : Option Reference} (tidy : engine.Tidy run)
    (ran : (edit (.setReference node feature.name link)).run.run run = some (.ok (), after)) :
    engine.Tidy after ∧ Wired floor base node parent rest start after := by
  obtain ⟨forest, set, rfl⟩ := run_edit_eq_ok ran
  refine ⟨⟨tidy.typed.apply set, tidy.recalls⟩, ?_⟩
  obtain ⟨_, _, _, _, _, rfl⟩ := Forest.setReference_eq_ok_iff.mp set
  exact wired.setSlot low new rfl

theorem Wired.setChild {child : Option NodeId} (tidy : engine.Tidy middle)
    (yields : Yields floor (some node) child.toList run middle)
    (ran : (edit (.setChild node feature.name child)).run.run middle = some (.ok (), after)) :
    engine.Tidy after ∧ Wired floor base node parent rest start after := by
  obtain ⟨forest, set, rfl⟩ := run_edit_eq_ok ran
  obtain ⟨_, _, _, _, _, _, _, attached⟩ := Forest.setChild_eq_ok_iff.mp set
  exact ⟨⟨tidy.typed.apply set, tidy.recalls⟩,
    wired.take low new yields attached (Forest.childrenOf_setChild tidy.typed.conforming set)⟩

theorem Wired.setChildren {children : List NodeId} (tidy : engine.Tidy middle)
    (yields : Yields floor (some node) children run middle)
    (ran : (edit (.setChildren node feature.name children)).run.run middle = some (.ok (), after)) :
    engine.Tidy after ∧ Wired floor base node parent rest start after := by
  obtain ⟨forest, set, rfl⟩ := run_edit_eq_ok ran
  obtain ⟨_, _, _, _, _, _, _, _, attached⟩ := Forest.setChildren_eq_ok_iff.mp set
  exact ⟨⟨tidy.typed.apply set, tidy.recalls⟩,
    wired.take low new yields attached (Forest.childrenOf_setChildren tidy.typed.conforming set)⟩

theorem Wired.assign (accounts : engine.Accounts floor recur) (tidy : engine.Tidy run)
    {concept : String} {value : ForeignValue}
    (ran : (assign recur node concept feature value).run.run run = some (.ok (), after)) :
    engine.Tidy after ∧ Wired floor base node parent rest start after := by
  have above : floor ≤ run.forest.nextId := Nat.le_trans low wired.keeps.nextId
  have nothing : Yields floor (some node) [] run run := yields_nothing (.refl _ _) rfl
  unfold Engine.assign at ran
  match type : feature.type with
  | .attribute =>
      rw [type] at ran
      cases value with
      | list items => cases ran
      | _ => exact wired.setAttribute low new tidy ran
  | .reference target =>
      rw [type] at ran
      cases value with
      | list items => cases ran
      | _ => exact wired.setReference low new tidy ran
  | .child target =>
      rw [type] at ran
      cases value with
      | null =>
          refine wired.setChild low new tidy ?_ ran
          exact nothing
      | node foreign =>
          obtain ⟨child, middle, made, ran⟩ := run_bind_eq_ok ran
          obtain ⟨tidyThen, yields⟩ := accounts _ _ _ _ _ tidy above made
          exact wired.setChild low new tidyThen yields ran
      | _ => cases ran
  | .children target =>
      rw [type] at ran
      cases value with
      | null => exact wired.setChildren low new tidy nothing ran
      | list items =>
          obtain ⟨children, middle, made, ran⟩ := run_bind_eq_ok ran
          obtain ⟨tidyThen, yields⟩ := accounts.transformElements tidy above made
          exact wired.setChildren low new tidyThen yields ran
      | _ => cases ran

end

theorem Wired.assignAll (low : floor ≤ start.forest.nextId) (new : start.forest.nextId ≤ node)
    (accounts : engine.Accounts floor recur) {concept : String} {plan : Plan}
    (wired : Wired floor base node parent (plan.map Prod.fst) start run) (tidy : engine.Tidy run)
    (ran : (assignAll recur node concept foreign plan).run.run run = some (.ok (), after)) :
    Wired floor base node parent [] start after := by
  induction plan generalizing run with
  | nil =>
      cases ran
      exact wired
  | cons planned plan ih =>
      obtain ⟨_, middle, assigned, ran⟩ := run_bind_eq_ok ran
      obtain ⟨tidyThen, filled⟩ := wired.assign low new accounts tidy assigned
      exact ih filled tidyThen ran

/-- A node that is filled is the root of a tree whose placeholders are reported. -/
theorem Wired.yields (new : start.forest.nextId ≤ node)
    (wired : Wired floor base node parent rest start run) :
    Yields floor parent [node] start run := by
  obtain ⟨cell, found, proper, linked⟩ := wired.proper
  obtain ⟨nodes, issues, reported, filling, reports⟩ := wired.held
  have known : node < run.forest.nextId := Nat.lt_of_lt_of_le filling.older filling.reached
  refine ⟨wired.keeps, fun root isRoot above given => ?_, node :: nodes, issues, reported,
    filling.planted.over filling.older new known, ?_⟩
  · cases List.mem_singleton.mp isRoot
    rw [Forest.parentLink?, found]
    exact linked above given
  · rw [Forest.Reports, Forest.placeholders_cons_of_proper found proper]
    exact reports

/-- A new node that was put under its parent is ready to be filled. -/
theorem wired_adopted {made : Run} {concept : Concept} (tidy : engine.Tidy made)
    (keeps : Forest.Keeps floor run.forest made.forest) (issues : made.issues = run.issues)
    (new : New node run made) (kind : made.forest.concept? node = some concept)
    (coming : rest.Sublist concept.features) (foreign : ForeignNode) (parent : Option NodeId) :
    Wired floor made.forest.nextId node parent rest run
      { made with
        forest := attachMetadata engine.source node foreign parent made.forest } := by
  obtain ⟨cell, found, proper, childless⟩ := new.proper
  have isConcept : cell.concept = concept := by simpa [Forest.concept?, found] using kind
  have conforms := tidy.typed.conforming node cell found
  have adopted := Forest.cell?_attachMetadata_self found engine.source foreign parent
  have filling := Forest.filling_childless adopted conforms childless (isConcept ▸ coming)
  rw [attachMetadata, Forest.nextId_modify] at filling
  refine ⟨keeps.modify new.later _, ⟨_, adopted, proper, fun above given => ?_⟩, [], [], ?_,
    filling, .nil⟩
  · rw [given]
    rfl
  · rw [List.append_nil]
    exact issues

section

variable (orderly : engine.Orderly) (accounts : engine.Accounts floor recur)
  (low : floor ≤ run.forest.nextId)
include orderly accounts low

theorem yields_wire {made : Run} (tidy : engine.Tidy made)
    (registered : engine.factories.get? factory.sourceType = some factory)
    (keeps : Forest.Keeps floor run.forest made.forest) (issues : made.issues = run.issues)
    (new : New node run made)
    (ran : (engine.wire recur factory foreign node).run.run
      { made with
        forest := attachMetadata engine.source node foreign parent made.forest } =
      some (.ok (), after)) : Yields floor parent [node] run after := by
  obtain ⟨cell, found, proper, childless⟩ := new.proper
  have kind : made.forest.concept? node = some cell.concept := by simp [Forest.concept?, found]
  have kindThen : (attachMetadata engine.source node foreign parent made.forest).concept? node =
      some cell.concept := by
    rw [Forest.concept?, Forest.cell?_attachMetadata_self found, Option.map_some]
  have tidyThen : engine.Tidy { made with
      forest := attachMetadata engine.source node foreign parent made.forest } :=
    ⟨orderly.stable_typedIn.attachMetadata tidy.typed _ node foreign parent, tidy.recalls⟩
  unfold wire at ran
  rw [run_get_bind] at ran
  dsimp only at ran
  rw [kindThen] at ran
  dsimp only at ran
  split at ran
  · obtain ⟨memo, planned, tidyAfter⟩ := orderly.plan tidyThen registered kindThen proper
    rw [run_lift_bind planned] at ran
    have wired := wired_adopted tidy keeps issues new kind (factory.plan_sublist cell.concept)
      foreign parent
    exact (Wired.assignAll low new.later accounts (wired.setMemo memo) tidyAfter ran).yields
      new.later
  · cases ran
    exact (wired_adopted tidy keeps issues new kind (List.nil_sublist _) foreign parent).yields
      new.later

end

theorem run_substituteGeneric (allowed : engine.config.allowGeneric = true)
    (foreign : ForeignNode) (parent : Option NodeId) (run : Run) :
    (engine.substituteGeneric engine.adopt foreign parent).run.run run =
      some (.ok (some run.forest.nextId),
        { run with
          forest := attachMetadata engine.source run.forest.nextId foreign parent
            run.forest.createGeneric.2
          issues := run.issues ++ [unmappedIssue foreign] }) := by
  unfold substituteGeneric
  rw [if_pos allowed]
  rfl

/-- A placeholder that stands for a foreign node yields itself. -/
theorem yields_placeholder {forest : Forest} {cell : Cell} {issue : Issue}
    (keeps : Forest.Keeps floor run.forest forest) (since : run.forest.nextId ≤ node)
    (found : forest.cell? node = some cell) (placeholder : cell.concept.isPlaceholder = true)
    (childless : cell.children = []) (announced : cell.Announced issue)
    (linked : ∀ above, parent = some above → cell.parent = some above)
    (isForest : after.forest = forest) (issues : after.issues = run.issues ++ [issue]) :
    Yields floor parent [node] run after := by
  subst isForest
  have known : node < after.forest.nextId :=
    Forest.lt_nextId_of_isAlive (by simp [Forest.isAlive, found])
  refine ⟨keeps, fun root isRoot above given => ?_, [node], [issue], issues,
    .single since known ?_, Forest.reports_singleton found placeholder announced⟩
  · cases List.mem_singleton.mp isRoot
    rw [Forest.parentLink?, found]
    exact linked above given
  · simpa [Forest.children, found] using childless

theorem yields_substituteGeneric (allowed : engine.config.allowGeneric = true)
    {result : Option NodeId}
    (ran : (engine.substituteGeneric engine.adopt foreign parent).run.run run =
      some (.ok result, after)) : Yields floor parent result.toList run after := by
  rw [run_substituteGeneric allowed] at ran
  cases ran
  have made : run.forest.createGeneric.2.cell? run.forest.nextId = some (.blank .generic) :=
    run.forest.cell?_add_self (.blank .generic)
  have found := Forest.cell?_attachMetadata_self made engine.source foreign parent
  refine yields_placeholder (((Forest.Keeps.refl _ _).add _).modify (Nat.le_refl _) _)
    (Nat.le_refl _) found rfl rfl (.unmapped rfl rfl rfl) (fun above given => ?_) rfl rfl
  rw [given]
  rfl

theorem yields_substituteError {made : Run} {message : String} {result : Option NodeId}
    (keeps : Forest.Keeps floor run.forest made.forest) (issues : made.issues = run.issues)
    (ran : (substituteError engine.adopt run.forest.nextId message foreign parent).run.run made =
      some (.ok result, after)) : Yields floor parent result.toList run after := by
  rw [run_substituteError] at ran
  cases ran
  have kept := keeps.discardSince
  have found := Forest.cell?_attachMetadata_self
    ((made.forest.discardSince run.forest.nextId).cell?_createError message) engine.source foreign
    parent
  refine yields_placeholder ((kept.add _).modify kept.nextId _) kept.nextId found
    rfl rfl (.failed rfl rfl rfl rfl) (fun above given => ?_) rfl ?_
  · rw [given]
    rfl
  · exact congrArg (· ++ [failureIssue foreign message]) issues

section

variable {fuel : Nat} (orderly : engine.Orderly)
  (accounts : engine.Accounts floor (engine.transformNode fuel)) (tidy : engine.Tidy run)
  (above : floor ≤ run.forest.nextId) {result : Option NodeId}
include orderly accounts tidy above

theorem yields_adopted (isModest : engine.Modest floor factory)
    (registered : engine.factories.get? factory.sourceType = some factory) {made : Run}
    (constructed : (engine.construct (engine.transformNode fuel) factory foreign).run run =
      some (.ok (some node), made))
    (ran : (do
      engine.adopt node foreign parent
      engine.wire (engine.transformNode fuel) factory foreign node
      engine.runHook factory foreign node
      return some node : EngineM (Option NodeId)).run.run made = some (.ok result, after)) :
    Yields floor parent result.toList run after := by
  have typed := holds_of_construct orderly.stable_typedIn tidy.typed constructed
  have keeps := isModest.keeps tidy.typed above constructed
  have new := isModest.makes tidy.typed above constructed
  obtain ⟨forest, rfl⟩ := forest_of_detached (isModest.detached foreign) constructed
  obtain ⟨_, adopted, isAdopted, ran⟩ := run_lift_bind_eq_some ran
  cases isAdopted
  obtain ⟨_, finished, filled, ran⟩ := run_bind_eq_ok ran
  obtain ⟨_, last, hooked, ran⟩ := run_bind_eq_ok ran
  rw [runHook, isModest.unfinished] at hooked
  cases hooked
  cases ran
  exact yields_wire orderly accounts above ⟨typed, tidy.recalls⟩ registered keeps rfl new filled

theorem yields_transformNode (lenient : engine.config = .lenient)
    (modest : ∀ type factory, engine.factories.get? type = some factory →
      engine.Modest floor factory)
    (ran : (engine.transformNode (fuel + 1) foreign parent).run.run run =
      some (.ok result, after)) : Yields floor parent result.toList run after := by
  obtain ⟨found, memo, looked, isFound, tidyThen⟩ := orderly.factory tidy foreign
  -- What is remembered plays no part in what a step yields.
  suffices yields : Yields floor parent result.toList { run with memo := memo } after from
    ⟨yields.keeps, yields.linked, yields.plants⟩
  rw [transformNode] at ran
  unfold transformWith at ran
  rw [run_lift_bind looked] at ran
  cases found with
  | none => exact yields_substituteGeneric (by rw [lenient]; rfl) ran
  | some factory =>
      have registered := isFound factory rfl
      have isModest := modest factory.sourceType factory registered
      dsimp only at ran
      rw [run_get_bind] at ran
      obtain ⟨answer, made, constructed, ran⟩ := run_lift_bind_eq_some ran
      have keeps := isModest.keeps tidyThen.typed above constructed
      obtain ⟨forest, rfl⟩ := forest_of_detached (isModest.detached foreign) constructed
      cases answer with
      | ok answer =>
          cases answer with
          | none =>
              cases ran
              exact yields_nothing keeps rfl
          | some node =>
              exact yields_adopted orderly accounts tidyThen above isModest registered constructed
                ran
      | error error =>
          cases error with
          | factory message =>
              dsimp only at ran
              rw [if_pos (by rw [lenient]; rfl)] at ran
              exact yields_substituteError keeps rfl ran
          | _ => cases ran

end

theorem accounts_transformNode (orderly : engine.Orderly) (lenient : engine.config = .lenient)
    (modest : ∀ type factory, engine.factories.get? type = some factory →
      engine.Modest floor factory) (fuel : Nat) :
    engine.Accounts floor (engine.transformNode fuel) := by
  induction fuel with
  | zero =>
      intro foreign parent run result after tidy above ran
      cases ran
  | succ fuel ih =>
      intro foreign parent run result after tidy above ran
      exact ⟨tidy.of_simulates (orderly.simulatesRecur (fuel + 1) foreign parent) ran,
        yields_transformNode orderly ih tidy above lenient modest ran⟩

theorem Accounts.transformValue (accounts : engine.Accounts floor recur) {value : ForeignValue}
    {result : Option NodeId} (tidy : engine.Tidy run) (above : floor ≤ run.forest.nextId)
    (ran : (transformValue recur value parent).run.run run = some (.ok result, after)) :
    Yields floor parent result.toList run after := by
  cases value with
  | null =>
      cases ran
      exact yields_nothing (.refl _ _) rfl
  | node foreign => exact (accounts foreign parent run result after tidy above ran).2
  | list items => cases ran
  | scalar value => cases ran

end Engine

namespace Transformer.Session

variable {decls : List ConceptDecl} {schema : Schema} {session : Session}

/-- A transformer is in a session of whatever calls, and its constructors only make new nodes.
If a call makes a tree, then the issues it adds are those for the placeholders of the tree, in
the order of a walk. If it makes none, it adds no issue. -/
theorem issues_of_transform (built : Schema.build decls = .ok schema) (source : Option Source)
    {calls : List Call} {replies : List Reply}
    (reached : (new schema .lenient source .memoized).run Engine.transformNode calls =
      some (replies, session))
    (modest : ∀ type factory, session.transformer.engine.factories.get? type = some factory →
      session.transformer.engine.Modest session.forest.nextId factory)
    (fuel : Nat) (value : ForeignValue) (parent : Option NodeId)
    {outcome : Outcome (Option NodeId)}
    (ended : session.transformer.transform fuel session.forest value parent = some outcome) :
    (∀ root, outcome.result = .ok (some root) →
      ∃ issues, outcome.transformer.issues = session.transformer.issues ++ issues ∧
        List.Forall₂ Cell.Announced
          (outcome.forest.placeholders (outcome.forest.walk root)) issues) ∧
    (outcome.result = .ok none → outcome.transformer.issues = session.transformer.issues) := by
  have kept := (kept_new built Lookups.reliable_memoized .lenient source).run reached
  have lenient : session.transformer.engine.config = .lenient := by
    rw [kept.engine]
    rfl
  have accounts := Engine.accounts_transformNode kept.orderly lenient modest fuel
  obtain ⟨run, ran, same⟩ := perform_eq_some ended
  have accounted (result : Option NodeId) (succeeded : outcome.result = .ok result) :
      Engine.Yields session.forest.nextId parent result.toList session.state run := by
    rw [succeeded] at ran
    exact accounts.transformValue kept.tidy (Nat.le_refl _) ran
  refine ⟨fun root succeeded => ?_, fun succeeded => ?_⟩
  · obtain ⟨nodes, issues, reported, planted, reports⟩ := (accounted _ succeeded).plants
    have walk : run.forest.walk root = nodes :=
      planted.toTrees.walk_eq planted.distinct fun inner member => (planted.within inner member).2
    rw [same]
    exact ⟨issues, reported, walk ▸ reports⟩
  · obtain ⟨nodes, issues, reported, planted, reports⟩ := (accounted _ succeeded).plants
    obtain rfl : nodes = [] := (planted.walk nodes.length (Nat.le_refl _)).symm
    cases reports
    rw [same]
    exact reported.trans (List.append_nil _)

def coinDecls : List ConceptDecl :=
  let filled := ((ConceptDecl.named "Box").addFeature "items" (.children "Node")).mapLastFrom "items"
  [(filled.addFeature "lid" (.child "Node")).mapLastFrom "lid"]

/-- Fails instead of making a jar. -/
def jars : Factory :=
  { Factory.ofConcept "Jar" "Box" with construct := fun _ _ => .fail (.factory "boom") }

/-- There is no factory for coins. -/
def stocked (schema : Schema) : Session :=
  let fresh := new schema .lenient none .memoized
  let boxes := (∅ : Registry String Factory).insert "Box" (.ofConcept "Box" "Box")
  { fresh with
    transformer :=
      { fresh.transformer with
        engine := { fresh.transformer.engine with factories := boxes.insert "Jar" jars } } }

theorem modest_stocked {schema : Schema}
    (proper : (schema.concept? "Box").all (!·.isPlaceholder) = true) :
    ∀ type factory, (stocked schema).transformer.engine.factories.get? type = some factory →
      (stocked schema).transformer.engine.Modest 0 factory := by
  intro type factory registered
  change (Registry.insert _ _ _).get? type = _ at registered
  rw [Registry.get?_insert, Registry.get?_insert] at registered
  split at registered
  · cases registered
    exact Engine.modest_of_fails rfl rfl 0
  · split at registered
    · cases registered
      refine Engine.modest_ofConcept rfl rfl (fun concept declared => ?_) 0
      change schema.concept? "Box" = some concept at declared
      simpa [declared] using proper
    · cases registered

def coinBox : ForeignValue :=
  let coin := ForeignValue.node (.record "Coin" [] [] none none)
  let jar := ForeignValue.node (.record "Jar" [] [] none none)
  let inner := ForeignValue.node (.record "Box" [] [("lid", coin)] none none)
  .node (.record "Box" [] [("lid", jar), ("items", .list [jar, .null, inner])] none none)

/-- The first jar, the coin in the inner box, and the jar that is the lid. -/
theorem issues_of_transform_box :
    ∃ schema outcome, Schema.build coinDecls = .ok schema ∧
      (new schema .lenient none .memoized).run Engine.transformNode
        [.registerConcept "Box" "Box", .register jars] =
          some ([.registered (.ok ()), .registered (.ok ())], stocked schema) ∧
      (stocked schema).transformer.transform 3 ∅ coinBox none = some outcome ∧
      outcome.transformer.issues.map (·.severity) = [.error, .info, .error] ∧
      List.Forall₂ Cell.Announced (outcome.forest.placeholders (outcome.forest.walk 0))
        outcome.transformer.issues := by
  have evaluated : ((Schema.build coinDecls).toOption.any fun schema =>
      (schema.concept? "Box").all (!·.isPlaceholder) &&
      ((stocked schema).transformer.transform 3 ∅ coinBox none).any fun outcome =>
        decide (outcome.result = .ok (some 0) ∧
          outcome.transformer.issues.map (·.severity) = [.error, .info, .error])) = true := by
    decide +kernel
  cases built : Schema.build coinDecls with
  | error reason =>
      rw [built] at evaluated
      cases evaluated
  | ok schema =>
      rw [built, Except.toOption, Option.any_some, Bool.and_eq_true] at evaluated
      obtain ⟨proper, evaluated⟩ := evaluated
      obtain ⟨outcome, ended, checked⟩ := (Option.any_eq_true _ _).mp evaluated
      obtain ⟨result, severities⟩ := of_decide_eq_true checked
      have reached : (new schema .lenient none .memoized).run Engine.transformNode
          [.registerConcept "Box" "Box", .register jars] =
            some ([.registered (.ok ()), .registered (.ok ())], stocked schema) := rfl
      obtain ⟨issues, added, announced⟩ :=
        (issues_of_transform built none reached (modest_stocked proper) 3 coinBox none ended).1 0
          result
      have all : outcome.transformer.issues = issues := added
      rw [← all] at announced
      exact ⟨schema, outcome, rfl, reached, ended, severities, announced⟩

end Transformer.Session

end TypedTree
