import TypedTree.Proofs.Transform.Confinement
import TypedTree.Proofs.Transform.Insistence
import TypedTree.Transform.Recipe

namespace TypedTree

namespace Construction

variable {mark bound : NodeId} {α β : Type} {yields : NodeId → α → Prop}
  {last : NodeId → β → Prop}

theorem Confined.bind {program : Construction α} {next : α → Construction β}
    (confined : program.Confined mark yields bound)
    (later : ∀ result bound', bound ≤ bound' → yields bound' result →
      (next result).Confined mark last bound') :
    (program >>= next).Confined mark last bound := by
  induction confined with
  | done allowed => exact later _ _ (Nat.le_refl _) allowed
  | fail error => exact .fail error
  | ask own blind _ ih =>
      refine .ask own (fun answer => ?_) fun answer bound' grows names => ?_
      · exact congrArg (· >>= next) (blind answer)
      · exact ih answer bound' grows names fun result bound'' further =>
          later result bound'' (Nat.le_trans grows further)

/-- A request whose answer shows nothing of older nodes. -/
theorem confined_request (request : BuildRequest)
    (own : ∀ node ∈ request.nodes, mark ≤ node ∧ node < bound)
    (plain : ∀ answer, request.shown mark answer = answer) :
    Confined mark (fun bound answer => ∀ node, request.Names mark answer node →
      mark ≤ node ∧ node < bound) bound (Program.request request) :=
  .ask own (fun answer => by rw [plain answer]) fun _ _ _ names => .done names

theorem confined_ofExcept {answer : Except TransformError α}
    (allowed : ∀ result, answer = .ok result → yields bound result) :
    Confined mark yields bound (Program.ofExcept answer) := by
  cases answer with
  | error error => exact .fail error
  | ok result => exact .done (allowed result rfl)

theorem confined_create (concept : String) :
    (Construction.create concept).Confined mark
      (fun bound node => mark ≤ node ∧ node < bound) bound := by
  refine (confined_request (.tree (.create concept)) (fun _ member => by cases member)
    fun _ => rfl).bind fun answer bound' _ names => confined_ofExcept fun node made => ?_
  cases answer with
  | error error => cases made
  | ok created =>
      cases made
      exact names node rfl

theorem confined_edit {edit : Edit} (own : ∀ node ∈ edit.nodes, mark ≤ node ∧ node < bound) :
    (Construction.edit edit).Confined mark (fun _ _ => True) bound :=
  (confined_request (.tree (.edit edit)) own fun _ => rfl).bind
    fun _ _ _ _ => confined_ofExcept fun _ _ => trivial

/-- An edit of one node, which mentions no other. -/
theorem confined_edit_self {edit : Edit} {node : NodeId} (only : edit.nodes = [node])
    (new : mark ≤ node) (known : node < bound) :
    (Construction.edit edit).Confined mark (fun _ _ => True) bound := by
  refine confined_edit fun inner member => ?_
  rw [only] at member
  cases List.mem_singleton.mp member
  exact ⟨new, known⟩

theorem confined_transform {parent : Option NodeId} (value : ForeignValue)
    (own : ∀ node ∈ parent.toList, mark ≤ node ∧ node < bound) :
    (Construction.transform value parent).Confined mark
      (fun bound made => ∀ node, made = some node → mark ≤ node ∧ node < bound) bound := by
  refine (confined_request (.transform value parent) own fun _ => rfl).bind
    fun answer bound' _ names => confined_ofExcept fun made is => ?_
  subst is
  exact names

theorem confined_transformList {parent : Option NodeId} (value : ForeignValue)
    (own : ∀ node ∈ parent.toList, mark ≤ node ∧ node < bound) :
    (Construction.transformList value parent).Confined mark
      (fun bound made => ∀ node ∈ made, mark ≤ node ∧ node < bound) bound := by
  refine (confined_request (.transformList value parent) own fun _ => rfl).bind
    fun answer bound' _ names => confined_ofExcept fun made is => ?_
  subst is
  exact names

/-- A program that looks at its own nodes only. -/
theorem confined_look {next : Forest → Construction α}
    (blind : ∀ forest, next (forest.veil mark) = next forest)
    (later : ∀ forest bound', bound ≤ bound' → (next forest).Confined mark yields bound') :
    (Construction.look >>= next).Confined mark yields bound :=
  .ask (fun _ member => by cases member) blind fun forest bound' grows _ =>
    later forest bound' grows

theorem Propagates.bind {error : TransformError} {program : Construction α}
    (propagates : program.Propagates error) (next : α → Construction β) :
    (program >>= next).Propagates error := by
  induction program with
  | done result => exact propagates.elim
  | fail reason => exact propagates
  | ask request following ih =>
      exact ⟨propagates.1, fun answer => ih answer (propagates.2 answer)⟩

theorem HandsOn.bind {program : Construction α} {next : α → Construction β}
    (handsOn : program.HandsOn) (later : ∀ result, (next result).HandsOn) :
    (program >>= next).HandsOn := by
  induction handsOn with
  | done result => exact later result
  | fail error => exact .fail error
  | ask stops _ ih =>
      exact .ask (fun answer error failed => (stops answer error failed).bind next) ih

theorem handsOn_ofExcept (answer : Except TransformError α) :
    HandsOn (Program.ofExcept answer) := by
  cases answer with
  | error error => exact .fail error
  | ok result => exact .done result

theorem handsOn_request {request : BuildRequest} (plain : request.isNested = false) :
    HandsOn (Program.request request) := by
  refine .ask (fun answer error failed => ?_) fun answer => .done answer
  cases request with
  | transform | transformList | transformNode => cases plain
  | tree | config | addIssue | issues | takeIssues => cases failed

theorem handsOn_create (concept : String) : (Construction.create concept).HandsOn :=
  (handsOn_request rfl).bind fun _ => handsOn_ofExcept _

theorem handsOn_edit (edit : Edit) : (Construction.edit edit).HandsOn :=
  (handsOn_request rfl).bind fun _ => handsOn_ofExcept _

theorem handsOn_transform (value : ForeignValue) (parent : Option NodeId) :
    (Construction.transform value parent).HandsOn := by
  refine .ask (fun answer error failed => ?_) fun answer => handsOn_ofExcept answer
  cases answer with
  | error _ =>
      cases failed
      rfl
  | ok _ => cases failed

theorem handsOn_transformList (value : ForeignValue) (parent : Option NodeId) :
    (Construction.transformList value parent).HandsOn := by
  refine .ask (fun answer error failed => ?_) fun answer => handsOn_ofExcept answer
  cases answer with
  | error _ =>
      cases failed
      rfl
  | ok _ => cases failed

end Construction

namespace Forest

variable {forest : Forest} {mark node : NodeId}

theorem cell?_veil_of_le (new : mark ≤ node) :
    (forest.veil mark).cell? node = forest.cell? node := by
  rw [cell?_veil, if_neg (Nat.not_lt.mpr new)]

theorem concept?_veil (new : mark ≤ node) :
    (forest.veil mark).concept? node = forest.concept? node := by
  rw [concept?, cell?_veil_of_le new, concept?]

theorem children_veil (new : mark ≤ node) :
    (forest.veil mark).children node = forest.children node := by
  rw [children, cell?_veil_of_le new, children]

end Forest

namespace Wire

open Construction

section

variable {mark bound node : NodeId} (new : mark ≤ node) (known : node < bound)
include new known

theorem confined_addEach (feature : String) {children : List NodeId}
    (own : ∀ child ∈ children, mark ≤ child ∧ child < bound) :
    (addEach node feature children).Confined mark (fun _ _ => True) bound := by
  induction children generalizing bound with
  | nil => exact .done trivial
  | cons child rest ih =>
      obtain ⟨first, others⟩ := List.forall_mem_cons.mp own
      refine (confined_edit fun inner member => ?_).bind fun _ bound' grows _ =>
        ih (Nat.lt_of_lt_of_le known grows) fun inner member =>
          ⟨(others inner member).1, Nat.lt_of_lt_of_le (others inner member).2 grows⟩
      rcases List.mem_cons.mp member with rfl | listed
      · exact ⟨new, known⟩
      · cases List.mem_singleton.mp listed
        exact first

theorem confined_apply (wire : Wire) (foreign : ForeignNode) (rules : ExtractionRules) :
    (wire.apply node foreign rules).Confined mark (fun _ _ => True) bound := by
  refine confined_look (fun forest => by rw [Forest.concept?_veil new]) fun forest bound' grows => ?_
  have known := Nat.lt_of_lt_of_le known grows
  cases forest.concept? node with
  | none => exact .done trivial
  | some concept =>
      have parents : ∀ above ∈ (if wire.orphan then none else some node).toList,
          mark ≤ above ∧ above < bound' := by
        intro above member
        split at member
        · cases member
        · cases List.mem_singleton.mp member
          exact ⟨new, known⟩
      have own {bound'' : NodeId} (further : bound' ≤ bound'') {children : List NodeId}
          (made : ∀ child ∈ children, mark ≤ child ∧ child < bound'') :
          ∀ inner ∈ node :: children, mark ≤ inner ∧ inner < bound'' :=
        List.forall_mem_cons.mpr ⟨⟨new, Nat.lt_of_lt_of_le known further⟩, made⟩
      dsimp only
      split
      · refine (confined_transform _ parents).bind fun child bound'' further made => ?_
        exact confined_edit (own further fun inner member =>
          made inner (Option.mem_toList.mp member))
      · refine (confined_transformList _ parents).bind fun children bound'' further made => ?_
        exact confined_edit (own further made)
      · refine (confined_transformList _ parents).bind fun children bound'' further made => ?_
        exact confined_addEach new (Nat.lt_of_lt_of_le known further) _ made
      · exact confined_edit_self rfl new known

theorem confined_applyEach (foreign : ForeignNode) (rules : ExtractionRules)
    (wires : List Wire) :
    (applyEach node foreign rules wires).Confined mark (fun _ _ => True) bound := by
  induction wires generalizing bound with
  | nil => exact .done trivial
  | cons wire rest ih =>
      exact (confined_apply new known wire foreign rules).bind fun _ bound' grows _ =>
        ih (Nat.lt_of_lt_of_le known grows)

end

variable (node : NodeId) (foreign : ForeignNode) (rules : ExtractionRules)

theorem handsOn_addEach (feature : String) (children : List NodeId) :
    (addEach node feature children).HandsOn := by
  induction children with
  | nil => exact .done ()
  | cons child rest ih => exact (handsOn_edit _).bind fun _ => ih

theorem handsOn_apply (wire : Wire) : (wire.apply node foreign rules).HandsOn := by
  refine (handsOn_request rfl).bind fun forest => ?_
  cases forest.concept? node with
  | none => exact .done ()
  | some concept =>
      dsimp only
      split
      · exact (handsOn_transform _ _).bind fun _ => handsOn_edit _
      · exact (handsOn_transformList _ _).bind fun _ => handsOn_edit _
      · exact (handsOn_transformList _ _).bind fun children => handsOn_addEach node _ children
      · exact handsOn_edit _

theorem handsOn_applyEach (wires : List Wire) :
    (applyEach node foreign rules wires).HandsOn := by
  induction wires with
  | nil => exact .done ()
  | cons wire rest ih => exact (handsOn_apply node foreign rules wire).bind fun _ => ih

end Wire

namespace NodeRecipe

open Construction

section

variable {mark bound node : NodeId} (new : mark ≤ node) (known : node < bound)
include new known

theorem confined_setAttributes (attributes : List (String × Value)) :
    (setAttributes node attributes).Confined mark (fun _ _ => True) bound := by
  induction attributes generalizing bound with
  | nil => exact .done trivial
  | cons entry rest ih =>
      exact (confined_edit_self rfl new known).bind fun _ bound' grows _ =>
        ih (Nat.lt_of_lt_of_le known grows)

end

theorem confined_construct {recipe : NodeRecipe} (unnamed : recipe.origin = none)
    (foreign : ForeignNode) (rules : ExtractionRules) (mark bound : NodeId) :
    (recipe.construct foreign rules).Confined mark
      (fun bound node => mark ≤ node ∧ node < bound) bound := by
  unfold construct
  rw [unnamed]
  refine (confined_create recipe.concept).bind fun node bound _ ⟨new, known⟩ => ?_
  refine (confined_edit_self rfl new known).bind fun _ bound grows _ => ?_
  have known := Nat.lt_of_lt_of_le known grows
  refine (confined_edit_self rfl new known).bind fun _ bound grows _ => ?_
  have known := Nat.lt_of_lt_of_le known grows
  refine (confined_setAttributes new known _).bind fun _ bound grows _ => ?_
  have known := Nat.lt_of_lt_of_le known grows
  refine (Wire.confined_applyEach new known foreign rules _).bind fun _ bound grows _ => ?_
  exact .done ⟨new, Nat.lt_of_lt_of_le known grows⟩

theorem handsOn_setAttributes (node : NodeId) (attributes : List (String × Value)) :
    (setAttributes node attributes).HandsOn := by
  induction attributes with
  | nil => exact .done ()
  | cons entry rest ih => exact (handsOn_edit _).bind fun _ => ih

theorem handsOn_setOrigin (node : NodeId) (address : Option String) :
    (setOrigin node address).HandsOn := by
  cases address with
  | none => exact .done ()
  | some address =>
      refine (handsOn_request rfl).bind fun forest => ?_
      cases forest.find? address with
      | none => exact .fail _
      | some origin => exact handsOn_edit _

theorem handsOn_construct (recipe : NodeRecipe) (foreign : ForeignNode)
    (rules : ExtractionRules) : (recipe.construct foreign rules).HandsOn := by
  refine (handsOn_create recipe.concept).bind fun node => ?_
  refine (handsOn_edit _).bind fun _ => (handsOn_edit _).bind fun _ => ?_
  refine (handsOn_setOrigin node recipe.origin).bind fun _ => ?_
  refine (handsOn_setAttributes node recipe.attributes).bind fun _ => ?_
  exact (Wire.handsOn_applyEach node foreign rules recipe.wires).bind fun _ => .done _

end NodeRecipe

namespace Recipe

open Construction

/-- The recipe names no node that is there already. -/
inductive MakesNew : Recipe → Prop where
  | nothing : MakesNew .nothing
  | fail (message : String) : MakesNew (.fail message)
  | generic : MakesNew .generic
  | errorNode (message : String) : MakesNew (.errorNode message)
  | delegate (path : String) : MakesNew (.delegate path)
  | report {next : Recipe} (issue : Issue) (later : MakesNew next) :
      MakesNew (.report issue next)
  | switch {cases : List (String × Recipe)} {fallback : Recipe} (path : String)
      (each : ∀ choice ∈ cases, MakesNew choice.2) (otherwise : MakesNew fallback) :
      MakesNew (.switch path cases fallback)
  | create {node : NodeRecipe} (unnamed : node.origin = none) : MakesNew (.create node)

/-- What holds of every choice and of the fallback holds of the recipe that is followed. -/
theorem constructCase_of {holds : Construction (Option NodeId) → Prop} {key : String}
    {cases : List (String × Recipe)} {foreign : ForeignNode} {rules : ExtractionRules}
    {otherwise : Construction (Option NodeId)}
    (each : ∀ choice ∈ cases, holds (choice.2.construct foreign rules))
    (fallback : holds otherwise) : holds (constructCase key cases foreign rules otherwise) := by
  induction cases with
  | nil => exact fallback
  | cons choice rest ih =>
      obtain ⟨first, others⟩ := List.forall_mem_cons.mp each
      unfold constructCase
      split
      · exact first
      · exact ih others

theorem confined_construct {recipe : Recipe} (makesNew : recipe.MakesNew)
    (foreign : ForeignNode) (rules : ExtractionRules) (mark bound : NodeId) :
    (recipe.construct foreign rules).Confined mark
      (fun bound made => ∀ node, made = some node → mark ≤ node ∧ node < bound) bound := by
  have made {bound node : NodeId} (own : mark ≤ node ∧ node < bound) (inner : NodeId)
      (is : some node = some inner) : mark ≤ inner ∧ inner < bound := by
    cases is
    exact own
  induction makesNew generalizing bound with
  | nothing => exact .done fun _ is => by cases is
  | fail message => exact .fail _
  | generic =>
      exact (confined_request (.tree .createGeneric) (fun _ member => by cases member)
        fun _ => rfl).bind fun node _ _ names => .done (made (names node rfl))
  | errorNode message =>
      exact (confined_request (.tree (.createError message)) (fun _ member => by cases member)
        fun _ => rfl).bind fun node _ _ names => .done (made (names node rfl))
  | delegate path => exact confined_transform _ fun _ member => by cases member
  | report issue _ ih =>
      exact (confined_request (.addIssue issue) (fun _ member => by cases member)
        fun _ => rfl).bind fun _ bound' _ _ => ih bound'
  | switch path _ _ each otherwise =>
      exact constructCase_of (fun choice member => each choice member bound) (otherwise bound)
  | create unnamed =>
      exact (NodeRecipe.confined_construct unnamed foreign rules mark bound).bind
        fun node _ _ own => .done (made own)

mutual
theorem handsOn_construct (foreign : ForeignNode) (rules : ExtractionRules) :
    (recipe : Recipe) → (recipe.construct foreign rules).HandsOn
  | .nothing => .done none
  | .fail _ => .fail _
  | .generic => (handsOn_request rfl).bind fun _ => .done _
  | .errorNode _ => (handsOn_request rfl).bind fun _ => .done _
  | .existing handle => by
      refine (handsOn_request rfl).bind fun forest => ?_
      cases forest.handles.get? handle with
      | none => exact .fail _
      | some node => exact .done _
  | .delegate _ => handsOn_transform _ _
  | .report _ next => (handsOn_request rfl).bind fun _ => handsOn_construct foreign rules next
  | .switch _ cases fallback =>
      constructCase_of (handsOn_choices foreign rules cases)
        (handsOn_construct foreign rules fallback)
  | .create node => (node.handsOn_construct foreign rules).bind fun _ => .done _

theorem handsOn_choices (foreign : ForeignNode) (rules : ExtractionRules) :
    (cases : List (String × Recipe)) →
      ∀ choice ∈ cases, (choice.2.construct foreign rules).HandsOn
  | [] => fun _ member => by cases member
  | (_, recipe) :: rest =>
      List.forall_mem_cons.mpr
        ⟨handsOn_construct foreign rules recipe, handsOn_choices foreign rules rest⟩
end

end Recipe

namespace Finishing

variable {α β : Type}

theorem toConstruction_bind (hook : Finishing α) (next : α → Finishing β) :
    (hook >>= next).toConstruction = hook.toConstruction >>= fun result =>
      (next result).toConstruction := by
  induction hook with
  | done result => rfl
  | fail error => rfl
  | ask request following ih => exact congrArg (Program.ask (BuildRequest.tree request)) (funext ih)

theorem toConstruction_edit (edit : Edit) :
    (Finishing.edit edit).toConstruction = Construction.edit edit := by
  refine congrArg (Program.ask (BuildRequest.tree (.edit edit))) (funext fun answer => ?_)
  cases answer with
  | error error => rfl
  | ok done => rfl

theorem failsOnly_edit {kind : TransformError → Prop} (allowed : ∀ error, kind (.edit error))
    (edit : Edit) : (Finishing.edit edit).FailsOnly kind := by
  refine .ask fun answer => ?_
  cases answer with
  | error error => exact .fail (allowed error)
  | ok done => exact .done ()

end Finishing

namespace Program

theorem FailsOnly.bind {Q : Type} {Answer : Q → Type} {ε α β : Type} {kind : ε → Prop}
    {program : Program Q Answer ε α} {next : α → Program Q Answer ε β}
    (failsOnly : program.FailsOnly kind) (later : ∀ result, (next result).FailsOnly kind) :
    (program >>= next).FailsOnly kind := by
  induction failsOnly with
  | done result => exact later result
  | fail allowed => exact .fail allowed
  | ask _ ih => exact .ask ih

end Program

namespace FinishRecipe

open Construction

theorem confined_finish (recipe : FinishRecipe) {mark bound node : NodeId} (new : mark ≤ node)
    (known : node < bound) (foreign : ForeignNode) :
    (recipe.finish node foreign).toConstruction.Confined mark (fun _ _ => True) bound := by
  cases recipe with
  | fail message => exact .fail _
  | count feature =>
      unfold finish
      rw [Finishing.toConstruction_bind]
      refine confined_look (fun forest => by rw [Forest.children_veil new])
        fun forest bound' grows => ?_
      rw [Finishing.toConstruction_edit]
      exact confined_edit_self rfl new (Nat.lt_of_lt_of_le known grows)
  | set feature value =>
      unfold finish
      rw [Finishing.toConstruction_edit]
      exact confined_edit_self rfl new known

theorem confined_finishAll (recipes : List FinishRecipe) {mark bound node : NodeId}
    (new : mark ≤ node) (known : node < bound) (foreign : ForeignNode) :
    (finishAll recipes node foreign).toConstruction.Confined mark (fun _ _ => True) bound := by
  induction recipes generalizing bound with
  | nil => exact .done trivial
  | cons recipe rest ih =>
      unfold finishAll
      rw [Finishing.toConstruction_bind]
      exact (recipe.confined_finish new known foreign).bind fun _ bound' grows _ =>
        ih (Nat.lt_of_lt_of_le known grows)

/-- Only the recipe that fails on purpose fails with an error that may be contained. -/
theorem failsOnly_finishAll {config : TransformConfig} {recipes : List FinishRecipe}
    (lasting : ∀ message, .fail message ∈ recipes → config.containFailures = false)
    (node : NodeId) (foreign : ForeignNode) :
    (finishAll recipes node foreign).FailsOnly config.Lasting := by
  have edits (edit : Edit) : (Finishing.edit edit).FailsOnly config.Lasting :=
    Finishing.failsOnly_edit (fun _ _ => rfl) edit
  induction recipes with
  | nil => exact .done ()
  | cons recipe rest ih =>
      refine Program.FailsOnly.bind ?_ fun _ =>
        ih fun message member => lasting message (List.mem_cons_of_mem recipe member)
      cases recipe with
      | fail message =>
          refine .fail fun contained => ?_
          rw [lasting message List.mem_cons_self] at contained
          cases contained
      | count feature => exact .ask fun forest => edits _
      | set feature value => exact edits _

end FinishRecipe

namespace Factory

open Construction

theorem confined_ofConcept (type concept : String) (foreign : ForeignNode)
    (rules : ExtractionRules) (mark : NodeId) :
    ((ofConcept type concept).construct foreign rules).Confined mark
      (fun bound made => ∀ node, made = some node → mark ≤ node ∧ node < bound) mark := by
  refine (confined_create concept).bind fun node bound _ own => .done fun inner is => ?_
  cases is
  exact own

theorem handsOn_ofConcept (type concept : String) (foreign : ForeignNode)
    (rules : ExtractionRules) : ((ofConcept type concept).construct foreign rules).HandsOn :=
  (handsOn_create concept).bind fun _ => .done _

variable {factory : Factory} {recipes : List FinishRecipe}
  (finishes : factory.finish = some (FinishRecipe.finishAll recipes))
include finishes

theorem confined_of_finishAll
    (constructs : ∀ foreign mark, (factory.construct foreign factory.rules).Confined mark
      (fun bound made => ∀ node, made = some node → mark ≤ node ∧ node < bound) mark) :
    factory.Confined where
  constructs := constructs
  finishes hook isHook foreign mark bound node new known := by
    cases finishes.symm.trans isHook
    exact FinishRecipe.confined_finishAll recipes new known foreign

theorem handsOn_of_finishAll {config : TransformConfig}
    (constructs : ∀ foreign, (factory.construct foreign factory.rules).HandsOn)
    (lasting : ∀ message, .fail message ∈ recipes → config.containFailures = false) :
    factory.HandsOn config where
  constructs := constructs
  finishes hook isHook node foreign := by
    cases finishes.symm.trans isHook
    exact FinishRecipe.failsOnly_finishAll lasting node foreign

end Factory

end TypedTree
