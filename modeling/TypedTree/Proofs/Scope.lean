import TypedTree.Proofs.Text.Lowercase
import TypedTree.Scope

namespace TypedTree

/-! # Scopes and what was defined in them

A scope keeps its bindings by name, in the form in which it compares names, and a scope around
it may compare them in another form. What a name means can be read off a plain log all the
same: the definitions of all scopes, from the innermost outwards, in the order in which they
were made. The first one that fits is what is found.
-/

namespace Frame

variable {frame : Frame} {name key : String} {node : NodeId}

/-- The nodes bound to a name in the form in which the frame compares it. -/
def bound (frame : Frame) (key : String) : List NodeId := (frame.symbols.get? key).getD []

def defineEach (frame : Frame) (bindings : List (String × NodeId)) : Frame :=
  bindings.foldl (fun frame binding => frame.define binding.1 binding.2) frame

theorem ignoreCase_defineEach (frame : Frame) (bindings : List (String × NodeId)) :
    (frame.defineEach bindings).ignoreCase = frame.ignoreCase := by
  induction bindings generalizing frame with
  | nil => rfl
  | cons binding rest ih => exact ih (frame.define binding.1 binding.2)

theorem bound_define (frame : Frame) (name : String) (node : NodeId) (key : String) :
    (frame.define name node).bound key =
      frame.bound key ++ if frame.fold name = key then [node] else [] := by
  rw [bound, define, Registry.get?_insert]
  by_cases here : key = frame.fold name
  · rw [if_pos here, if_pos here.symm, Option.getD_some, here, bound]
  · rw [if_neg here, if_neg (Ne.symm here), List.append_nil, bound]

/-- The frame regroups its bindings, but keeps the order of those with one name. -/
theorem bound_defineEach (frame : Frame) (bindings : List (String × NodeId)) (key : String) :
    (frame.defineEach bindings).bound key =
      frame.bound key ++
        (bindings.filter fun binding => frame.fold binding.1 = key).map Prod.snd := by
  induction bindings generalizing frame with
  | nil => exact (List.append_nil _).symm
  | cons binding rest ih =>
      refine (ih (frame.define binding.1 binding.2)).trans ?_
      rw [bound_define, List.append_assoc]
      by_cases here : frame.fold binding.1 = key
      · rw [if_pos here, List.filter_cons_of_pos (by simpa using here)]
        rfl
      · rw [if_neg here, List.filter_cons_of_neg (by simpa using here)]
        rfl

theorem keys_define (frame : Frame) (name : String) (node : NodeId) :
    (frame.define name node).symbols.keys =
      if frame.fold name ∈ frame.symbols.keys then frame.symbols.keys
      else frame.symbols.keys ++ [frame.fold name] :=
  Registry.keys_insert _ _ _

theorem size_define (frame : Frame) (name : String) (node : NodeId) :
    (frame.define name node).size = frame.size + 1 := by
  rw [size, size, define, Registry.insert]
  split
  · next known =>
      obtain ⟨old, found⟩ := Option.isSome_iff_exists.mp (Registry.get?_isSome_iff.mpr known)
      obtain ⟨first, last, entries⟩ := List.append_of_mem (Registry.mem_entries_iff.mpr found)
      rw [Registry.values, Registry.entries_modify entries, Registry.values, entries, found]
      simp only [List.map_append, List.map_cons, List.flatten_append, List.flatten_cons,
        List.length_append, Option.getD_some, List.length_singleton]
      omega
  · next unknown =>
      rw [Registry.get?_eq_none_iff.mpr unknown]
      simp [Registry.values]

end Frame

namespace Scope

/-- What is done to make a scope, and to make those around it. A node that is bound under its
own name has the name it has in the forest at that time. -/
inductive Assembly where
  | new (ignoreCase : Bool)
  | define (scope : Assembly) (forest : Forest) (node : NodeId)
  | defineAs (scope : Assembly) (name : String) (node : NodeId)
  | defineAll (scope : Assembly) (forest : Forest) (nodes : List NodeId)
  | within (scope parent : Assembly)

/-- The definitions made in one scope, with the names as they were given. -/
structure Journal where
  ignoreCase : Bool
  definitions : List (String × NodeId)

/-- A definition and the way in which its scope compares names. -/
structure Entry where
  ignoreCase : Bool
  name : String
  node : NodeId

def comparable (ignoreCase : Bool) (name : String) : String :=
  if ignoreCase then Text.lowercase name else name

def Entry.answers (entry : Entry) (name : String) : Bool :=
  comparable entry.ignoreCase entry.name = comparable entry.ignoreCase name

namespace Journal

def add (journal : Journal) (more : List (String × NodeId)) : Journal :=
  { journal with definitions := journal.definitions ++ more }

def entries (journal : Journal) : List Entry :=
  journal.definitions.map fun (name, node) => ⟨journal.ignoreCase, name, node⟩

/-- The names that definitions were made for, each where it came first. -/
def names (journal : Journal) : List String :=
  (journal.definitions.map fun definition =>
    comparable journal.ignoreCase definition.1).eraseDups

def frame (journal : Journal) : Frame := (Frame.new journal.ignoreCase).defineEach journal.definitions

theorem frame_add (journal : Journal) (more : List (String × NodeId)) :
    (journal.add more).frame = journal.frame.defineEach more := List.foldl_append

theorem fold_frame (journal : Journal) (name : String) :
    journal.frame.fold name = comparable journal.ignoreCase name := by
  rw [Frame.fold, frame, Frame.ignoreCase_defineEach]
  rfl

/-- The journal without its last definition, for inductions from the first one on. -/
theorem induction_on {holds : Journal → Prop} (journal : Journal)
    (new : ∀ ignoreCase, holds ⟨ignoreCase, []⟩)
    (define : ∀ journal name node, holds journal → holds (journal.add [(name, node)])) :
    holds journal := by
  obtain ⟨ignoreCase, definitions⟩ := journal
  have each : ∀ reversed : List (String × NodeId), holds ⟨ignoreCase, reversed.reverse⟩ := by
    intro reversed
    induction reversed with
    | nil => exact new ignoreCase
    | cons definition rest ih =>
        rw [List.reverse_cons]
        exact define ⟨ignoreCase, rest.reverse⟩ definition.1 definition.2 ih
  rw [← List.reverse_reverse definitions]
  exact each definitions.reverse

theorem find?_frame (journal : Journal) (fits : NodeId → Bool) (name : String) :
    journal.frame.find? fits name =
      (journal.entries.find? fun entry => entry.answers name && fits entry.node).map (·.node) := by
  have regrouped : journal.frame.bound (comparable journal.ignoreCase name) =
      (journal.definitions.filter fun definition =>
        comparable journal.ignoreCase definition.1 = comparable journal.ignoreCase name).map
          Prod.snd :=
    (Frame.new journal.ignoreCase).bound_defineEach journal.definitions _
  change (journal.frame.bound (journal.frame.fold name)).find? fits = _
  rw [fold_frame, regrouped, List.find?_map, List.find?_filter, entries, List.find?_map,
    Option.map_map]
  congr 2
  funext definition
  simp [Entry.answers]

theorem keys_frame (journal : Journal) : journal.frame.symbols.keys = journal.names := by
  induction journal using induction_on with
  | new ignoreCase => rfl
  | define journal name node ih =>
      rw [frame_add]
      change (journal.frame.define name node).symbols.keys = _
      rw [Frame.keys_define, ih, fold_frame]
      simp only [names, add, List.map_append, List.map_cons, List.map_nil, List.eraseDups_append,
        List.mem_eraseDups]
      split
      · next known => rw [List.removeAll, List.filter_cons_of_neg (by simpa using known)]; simp
      · next unknown =>
          rw [List.removeAll, List.filter_cons_of_pos (by simpa using unknown)]
          simp [List.eraseDups_cons]

theorem size_frame (journal : Journal) : journal.frame.size = journal.definitions.length := by
  induction journal using induction_on with
  | new ignoreCase => rfl
  | define journal name node ih =>
      rw [frame_add]
      change (journal.frame.define name node).size = _
      rw [Frame.size_define, ih, add, List.length_append, List.length_singleton]

end Journal

/-- What `define` binds: the node under its own name, if it has one. -/
def ownDefinition? (forest : Forest) (node : NodeId) : Option (String × NodeId) :=
  ((forest.cell? node).bind (·.name?)).map fun name => (name, node)

namespace Assembly

def build : Assembly → Scope
  | .new ignoreCase => .new ignoreCase
  | .define scope forest node => scope.build.define forest node
  | .defineAs scope name node => scope.build.defineAs name node
  | .defineAll scope forest nodes => scope.build.defineAll forest nodes
  | .within scope parent => scope.build.withParent parent.build

/-- What was defined in the innermost scope. -/
def journal : Assembly → Journal
  | .new ignoreCase => ⟨ignoreCase, []⟩
  | .define scope forest node => scope.journal.add (ownDefinition? forest node).toList
  | .defineAs scope name node => scope.journal.add [(name, node)]
  | .defineAll scope forest nodes => scope.journal.add (nodes.filterMap (ownDefinition? forest))
  | .within scope _ => scope.journal

/-- What was defined in the scopes around it, nearest first. -/
def enclosing : Assembly → List Journal
  | .new _ => []
  | .define scope _ _ | .defineAs scope _ _ | .defineAll scope _ _ => scope.enclosing
  | .within _ parent => parent.journal :: parent.enclosing

/-- All definitions, those of the innermost scope first. -/
def log (assembly : Assembly) : List Entry :=
  (assembly.journal :: assembly.enclosing).flatMap Journal.entries

end Assembly

theorem define_eq (scope : Scope) (forest : Forest) (node : NodeId) :
    scope.define forest node =
      { scope with inner := scope.inner.defineEach (ownDefinition? forest node).toList } := by
  unfold define ownDefinition?
  cases (forest.cell? node).bind (·.name?) <;> rfl

theorem defineAll_eq (scope : Scope) (forest : Forest) (nodes : List NodeId) :
    scope.defineAll forest nodes =
      { scope with inner := scope.inner.defineEach (nodes.filterMap (ownDefinition? forest)) } := by
  induction nodes generalizing scope with
  | nil => rfl
  | cons node rest ih =>
      refine (ih (scope.define forest node)).trans ?_
      rw [define_eq, List.filterMap_cons]
      cases ownDefinition? forest node <;> rfl

namespace Assembly

theorem build_eq (assembly : Assembly) :
    assembly.build = ⟨assembly.journal.frame, assembly.enclosing.map Journal.frame⟩ := by
  induction assembly with
  | new ignoreCase => rfl
  | define scope forest node ih =>
      rw [build, define_eq, ih, journal, Journal.frame_add, enclosing]
  | defineAs scope name node ih =>
      rw [build, ih, journal, Journal.frame_add, enclosing]
      rfl
  | defineAll scope forest nodes ih =>
      rw [build, defineAll_eq, ih, journal, Journal.frame_add, enclosing]
  | within scope parent ih parentIH =>
      rw [build, ih, parentIH, journal, enclosing]
      rfl

theorem resolve_build (assembly : Assembly) (forest : Forest) (name : String)
    (required : Option String) :
    assembly.build.resolve forest name required =
      (assembly.log.find? fun entry =>
        entry.answers name && required.all fun concept => forest.isA entry.node concept).map
          (·.node) := by
  rw [resolve, build_eq, log, List.find?_flatMap]
  change ((assembly.journal :: assembly.enclosing).map Journal.frame).findSome? _ = _
  rw [List.findSome?_map, List.map_findSome?]
  congr 1
  funext journal
  exact journal.find?_frame _ name

/-- A scope means what its log says: a name stands for the node of the first definition that
answers to it and is what is required, and definitions of other nodes might as well not be
there. -/
theorem build_follows_log (assembly : Assembly) :
    (∀ forest name required,
      assembly.build.resolve forest name required =
        (assembly.log.find? fun entry =>
          entry.answers name && required.all fun concept => forest.isA entry.node concept).map
            (·.node)) ∧
    (∀ forest name concept,
      assembly.build.resolve forest name (some concept) =
        ((assembly.log.filter fun entry => forest.isA entry.node concept).find?
          (·.answers name)).map (·.node)) ∧
    (∀ forest name,
      assembly.build.contains forest name = (assembly.build.resolve forest name none).isSome ∧
      assembly.build.contains forest name = assembly.log.any (·.answers name)) ∧
    assembly.build.size = assembly.journal.definitions.length ∧
    assembly.build.names = assembly.journal.names := by
  refine ⟨assembly.resolve_build, fun forest name concept => ?_, fun forest name => ?_, ?_, ?_⟩
  · rw [resolve_build, List.find?_filter]
    congr 2
    funext entry
    simp [Bool.and_comm]
  · refine ⟨rfl, ?_⟩
    rw [contains, resolve_build, Option.isSome_map, Bool.eq_iff_iff, List.find?_isSome]
    simp
  · rw [size, build_eq]
    exact assembly.journal.size_frame
  · rw [names, build_eq]
    exact assembly.journal.keys_frame

/-- A scope of its own that tells case apart finds nothing but what was defined under the name
as it is spelled. -/
theorem mem_definitions_of_resolve {assembly : Assembly} {forest : Forest} {name : String}
    {required : Option String} {node : NodeId} (sensitive : assembly.journal.ignoreCase = false)
    (alone : assembly.enclosing = [])
    (found : assembly.build.resolve forest name required = some node) :
    (name, node) ∈ assembly.journal.definitions := by
  rw [resolve_build, log, alone, List.flatMap_singleton] at found
  obtain ⟨entry, isFirst, rfl⟩ := Option.map_eq_some_iff.mp found
  have fits := List.find?_some isFirst
  obtain ⟨⟨spelled, bound⟩, defined, rfl⟩ := List.mem_map.mp (List.mem_of_find?_eq_some isFirst)
  have answers := ((Bool.and_eq_true _ _).mp fits).1
  have same : spelled = name := by simpa [Entry.answers, comparable, sensitive] using answers
  exact same ▸ defined

end Assembly

variable {scope : Scope} {first second : String}

theorem fold_of_equalButForCase {frame : Frame} (same : Text.EqualButForCase first second)
    (ignores : frame.ignoreCase = true) : frame.fold first = frame.fold second := by
  rw [Frame.fold, Frame.fold, ignores, if_pos rfl, if_pos rfl, same.lowercase_eq]

theorem resolve_of_equalButForCase (same : Text.EqualButForCase first second)
    (ignores : ∀ frame ∈ scope.frames, frame.ignoreCase = true) (forest : Forest)
    (required : Option String) :
    scope.resolve forest first required = scope.resolve forest second required := by
  unfold resolve
  generalize scope.frames = frames at *
  induction frames with
  | nil => rfl
  | cons frame rest ih =>
      have here := fold_of_equalButForCase same (ignores frame List.mem_cons_self)
      have later := ih fun other member => ignores other (List.mem_cons_of_mem frame member)
      dsimp only at later ⊢
      rw [List.findSome?_cons, List.findSome?_cons, later, Frame.find?, Frame.find?, here]

/-- Where no scope tells case apart, names that differ in the case of letters of ASCII are the
same name, whatever else is in them. A scope that does, and has none around it, takes names by
their spelling. -/
theorem blind_to_case (same : Text.EqualButForCase first second) :
    (∀ scope : Scope, (∀ frame ∈ scope.frames, frame.ignoreCase = true) →
      (∀ node, scope.defineAs first node = scope.defineAs second node) ∧
      ∀ forest,
        (∀ required,
          scope.resolve forest first required = scope.resolve forest second required) ∧
        scope.contains forest first = scope.contains forest second) ∧
    ∀ assembly : Assembly, assembly.journal.ignoreCase = false → assembly.enclosing = [] →
      ∀ forest name required node,
        assembly.build.resolve forest name required = some node →
          (name, node) ∈ assembly.journal.definitions := by
  refine ⟨fun scope ignores => ⟨fun node => ?_, fun forest => ⟨fun required => ?_, ?_⟩⟩, ?_⟩
  · rw [defineAs, defineAs, Frame.define, Frame.define,
      fold_of_equalButForCase same (ignores scope.inner List.mem_cons_self)]
  · exact resolve_of_equalButForCase same ignores forest required
  · rw [contains, contains, resolve_of_equalButForCase same ignores]
  · intro assembly sensitive alone forest name required node found
    exact assembly.mem_definitions_of_resolve sensitive alone found

/-- The capital sigma ends a word after a letter of either case. -/
theorem blind_to_case_sigma :
    let outer := (Scope.new true).defineAs "A\u03a3" 0
    let scope := (Scope.new true).withParent outer
    let plain := Assembly.defineAs (.new false) "a\u03a3" 1
    Text.EqualButForCase "A\u03a3" "a\u03a3" ∧
      outer.names = ["a\u03c2"] ∧
      scope.defineAs "A\u03a3" 2 = scope.defineAs "a\u03a3" 2 ∧
      scope.resolve ∅ "a\u03a3" none = some 0 ∧ scope.contains ∅ "a\u03a3" = true ∧
      plain.build.resolve ∅ "a\u03a3" none = some 1 ∧
      ("a\u03a3", 1) ∈ plain.journal.definitions := by
  intro outer scope plain
  have same : Text.EqualButForCase "A\u03a3" "a\u03a3" := by decide
  obtain ⟨ignoring, spelling⟩ := blind_to_case same
  obtain ⟨defines, finds⟩ := ignoring scope (by decide)
  have here : scope.resolve ∅ "A\u03a3" none = some 0 := by decide +kernel
  have there : plain.build.resolve ∅ "a\u03a3" none = some 1 := by decide +kernel
  refine ⟨same, by decide +kernel, defines 2, ((finds ∅).1 none).symm.trans here, ?_, there,
    spelling plain rfl rfl ∅ _ none 1 there⟩
  exact (finds ∅).2.symm.trans (by rw [contains, here]; rfl)

end Scope

end TypedTree
