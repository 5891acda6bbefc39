import TypedTree.Identity.Provider
import TypedTree.Proofs.Forest.Lifetime

namespace TypedTree

/-! # What a caching provider answers

A caching provider is followed through a history of questions, between which the forest
changes and nodes come and go. The wrapped provider may be any, with a memory of its own;
what it is asked and what it says is written down. `Faithful` ties the cache to the past of
the history: an answer is kept for as long as its node lives, and it is the first one that
was found for this very node, whatever node has its address later.
-/

variable {κ μ : Type} [DecidableEq κ]

/-- A node that was asked about, and the answer. -/
abbrev Reply := NodeId × Except IdError String

/-- The first identifier that was found for a node. -/
def firstFound (replies : List Reply) (node : NodeId) : Option String :=
  replies.findSome? fun reply => if reply.1 = node then reply.2.toOption else none

section Replies

variable {replies : List Reply} {node other : NodeId} {answer : Except IdError String}
  {found : String}

theorem firstFound_append_singleton :
    firstFound (replies ++ [(other, answer)]) node =
      (firstFound replies node).or (if other = node then answer.toOption else none) := by
  simp [firstFound, List.findSome?_append]

theorem mem_of_firstFound (first : firstFound replies node = some found) :
    (node, .ok found) ∈ replies := by
  obtain ⟨⟨other, answer⟩, member, here⟩ := List.exists_of_findSome?_eq_some first
  by_cases same : other = node
  · subst same
    cases answer with
    | error reason => simp [Except.toOption] at here
    | ok said =>
        simp only [if_true, Except.toOption, Option.some.injEq] at here
        exact here ▸ member
  · simp [same] at here

theorem toOption_of_firstFound_eq_none (none : firstFound replies node = none)
    (member : (node, answer) ∈ replies) : answer.toOption = .none := by
  simpa using List.findSome?_eq_none_iff.mp none (node, answer) member

end Replies

namespace Cache

variable {cache : Cache κ} {address : κ} {node : NodeId} {found : String}

theorem find?_eq_some_iff :
    cache.find? address node = some found ↔ cache.ids.get? address = some (node, found) := by
  unfold find?
  cases cache.ids.get? address with
  | none => simp
  | some entry =>
      obtain ⟨held, kept⟩ := entry
      by_cases same : held = node <;> simp [Option.filter, same]

theorem get?_note {key : κ} {answer : Except IdError String} :
    (cache.note address node answer).ids.get? key =
      if key = address then (answer.toOption.map (Prod.mk node)).or (cache.ids.get? key)
      else cache.ids.get? key := by
  cases answer with
  | error reason => simp [note, Except.toOption]
  | ok found => simp [note, Except.toOption, Registry.get?_insert]

end Cache

namespace Naming

/-- Writes down the questions and the answers. -/
def logged (naming : Naming (Forest × μ)) : Naming (Forest × μ × List Reply) where
  id node := fun (forest, memory, asked) =>
    let (answer, forest, memory) := naming.id node (forest, memory)
    (answer, forest, memory, asked ++ [(node, answer)])
  idAt node place := fun (forest, memory, asked) =>
    let (answer, forest, memory) := naming.idAt node place (forest, memory)
    (answer, forest, memory, asked)

/-- Questions do not bring back nodes that are gone. -/
structure Lasting (naming : Naming (Forest × μ)) : Prop where
  id : ∀ node (state : Forest × μ), state.1.Later (naming.id node state).2.1
  idAt : ∀ node place (state : Forest × μ), state.1.Later (naming.idAt node place state).2.1

end Naming

inductive IdCall where
  | id (node : NodeId)
  | cached (node : NodeId)
  | idAt (node : NodeId) (place : Coordinates)
  | operate (operation : Operation)

/-- The node that a question is about. -/
def IdCall.node? : IdCall → Option NodeId
  | .id node | .cached node | .idAt node _ => some node
  | .operate _ => none

/-- Where a history has come to. -/
structure Course (κ μ : Type) where
  cache : Cache κ
  forest : Forest
  memory : μ
  /-- What the wrapped provider was asked. -/
  asked : List Reply
  /-- What the caching provider was asked. -/
  answered : List Reply

namespace Course

variable {schema : Schema} {address : NodeId → κ} {inner : Naming (Forest × μ)}
  {course : Course κ μ} {node : NodeId} {found : String}

def start (forest : Forest) (memory : μ) : Course κ μ := ⟨.empty, forest, memory, [], []⟩

def step (schema : Schema) (address : NodeId → κ) (inner : Naming (Forest × μ))
    (course : Course κ μ) : IdCall → Course κ μ
  | .id node =>
      let (answer, cache, forest, memory, asked) := (inner.logged.caching address).id node
        (course.cache, course.forest, course.memory, course.asked)
      ⟨cache, forest, memory, asked, course.answered ++ [(node, answer)]⟩
  | .cached _ => course
  | .idAt node place =>
      let (_, cache, forest, memory, asked) := (inner.logged.caching address).idAt node place
        (course.cache, course.forest, course.memory, course.asked)
      ⟨cache, forest, memory, asked, course.answered⟩
  | .operate operation => { course with forest := course.forest.perform schema operation }

def run (schema : Schema) (address : NodeId → κ) (inner : Naming (Forest × μ))
    (course : Course κ μ) (calls : List IdCall) : Course κ μ :=
  calls.foldl (step schema address inner) course

theorem step_id_of_find? (kept : course.cache.find? (address node) node = some found) :
    course.step schema address inner (.id node) =
      { course with answered := course.answered ++ [(node, .ok found)] } := by
  simp only [step, Naming.caching, kept]

theorem step_id_of_not_find? (missing : course.cache.find? (address node) node = none) :
    course.step schema address inner (.id node) =
      let said := inner.id node (course.forest, course.memory)
      { cache := course.cache.note (address node) node said.1
        forest := said.2.1
        memory := said.2.2
        asked := course.asked ++ [(node, said.1)]
        answered := course.answered ++ [(node, said.1)] } := by
  simp only [step, Naming.caching, missing, Naming.logged]

theorem step_idAt (place : Coordinates) :
    course.step schema address inner (.idAt node place) =
      let said := inner.idAt node place (course.forest, course.memory)
      { course with forest := said.2.1, memory := said.2.2 } := rfl

structure Faithful (address : NodeId → κ) (course : Course κ μ) : Prop where
  /-- An answer is kept for the node that it was given for. -/
  kept : ∀ {key node found}, course.cache.ids.get? key = some (node, found) →
    key = address node ∧ firstFound course.asked node = some found
  /-- It is kept while the node lives. -/
  present : ∀ {node found}, firstFound course.asked node = some found →
    course.forest.isAlive node = true →
    course.cache.ids.get? (address node) = some (node, found)
  known : ∀ reply ∈ course.asked, reply.1 < course.forest.nextId
  /-- A node is asked about again only if there was no answer yet. -/
  retried : course.asked.Pairwise fun earlier later =>
    earlier.1 = later.1 → earlier.2.toOption = none
  found : ∀ {node found}, (node, .ok found) ∈ course.answered ↔
    firstFound course.asked node = some found
  failed : ∀ {node error}, (node, .error error) ∈ course.answered ↔
    (node, .error error) ∈ course.asked
  counted : course.cache.calls = course.asked.length

theorem faithful_start (forest : Forest) (memory : μ) :
    Faithful address (start forest memory) where
  kept found := by cases found
  present found := by cases found
  known _ member := by cases member
  retried := .nil
  found := by simp [start, firstFound]
  failed := by simp [start]
  counted := rfl

theorem Faithful.find?_eq (faithful : Faithful address course)
    (alive : course.forest.isAlive node = true) :
    course.cache.find? (address node) node = firstFound course.asked node := by
  ext found
  rw [Cache.find?_eq_some_iff]
  exact ⟨fun entry => (faithful.kept entry).2, fun first => faithful.present first alive⟩

/-- Neither a new memory nor a later forest is a matter of the cache. -/
theorem Faithful.later (faithful : Faithful address course) {forest : Forest}
    (later : course.forest.Later forest) (memory : μ) :
    Faithful address { course with forest := forest, memory := memory } where
  kept := faithful.kept
  present {node found} first alive := by
    have known := faithful.known _ (mem_of_firstFound first)
    exact faithful.present first (later.alive node known alive)
  known reply member := Nat.lt_of_lt_of_le (faithful.known reply member) later.nextId
  retried := faithful.retried
  found := faithful.found
  failed := faithful.failed
  counted := faithful.counted

/-- No two nodes that are there have one address. -/
def Apart (address : NodeId → κ) (forest : Forest) : Prop :=
  ∀ first second, forest.isAlive first = true → forest.isAlive second = true →
    address first = address second → first = second

instance (address : NodeId → κ) (forest : Forest) : Decidable (Apart address forest) :=
  decidable_of_iff (∀ first < forest.nextId, ∀ second < forest.nextId,
      forest.isAlive first = true → forest.isAlive second = true →
        address first = address second → first = second)
    ⟨fun apart first second there also =>
      apart first (Forest.lt_nextId_of_isAlive there) second (Forest.lt_nextId_of_isAlive also)
        there also, fun apart first _ second _ => apart first second⟩

theorem Faithful.hit (faithful : Faithful address course)
    (kept : course.cache.find? (address node) node = some found) :
    Faithful address { course with answered := course.answered ++ [(node, .ok found)] } := by
  have first := (faithful.kept (Cache.find?_eq_some_iff.mp kept)).2
  refine { faithful with found := ?_, failed := ?_ }
  · intro other said
    rw [List.mem_append, faithful.found, List.mem_singleton, Prod.mk.injEq, Except.ok.injEq]
    refine ⟨fun either => either.elim id fun same => ?_, Or.inl⟩
    rw [same.1, same.2]
    exact first
  · intro other error
    simp [faithful.failed]

/-- What the wrapped provider says about a node without an answer so far. -/
theorem Faithful.miss (faithful : Faithful address course)
    (apart : Apart address course.forest) (alive : course.forest.isAlive node = true)
    (missing : course.cache.find? (address node) node = none) (answer : Except IdError String) :
    Faithful address
      { course with
        cache := course.cache.note (address node) node answer
        asked := course.asked ++ [(node, answer)]
        answered := course.answered ++ [(node, answer)] } := by
  have new : firstFound course.asked node = none := by rwa [← faithful.find?_eq alive]
  have others {other : NodeId} (different : other ≠ node) :
      firstFound (course.asked ++ [(node, answer)]) other = firstFound course.asked other := by
    simp [firstFound_append_singleton, Ne.symm different]
  have self : firstFound (course.asked ++ [(node, answer)]) node = answer.toOption := by
    simp [firstFound_append_singleton, new]
  refine
    { kept := ?kept, present := ?present, known := ?known, retried := ?retried, found := ?found
      failed := ?failed, counted := ?counted }
  case kept =>
    intro key other said entry
    have old (entry : course.cache.ids.get? key = some (other, said)) : key = address other ∧
        firstFound (course.asked ++ [(node, answer)]) other = some said := by
      obtain ⟨place, first⟩ := faithful.kept entry
      exact ⟨place, by rw [firstFound_append_singleton, first]; rfl⟩
    rw [Cache.get?_note] at entry
    split at entry
    case isFalse => exact old entry
    case isTrue here =>
      cases given : answer.toOption with
      | none =>
          rw [given] at entry
          exact old entry
      | some found =>
          rw [given] at entry
          cases entry
          exact ⟨here, self.trans given⟩
  case present =>
    intro other said first there
    rw [Cache.get?_note]
    by_cases same : other = node
    · subst same
      rw [if_pos rfl, ← self, first]
      rfl
    · -- two nodes that are both there share no address, so the entry is not overwritten
      rw [others same] at first
      have elsewhere : address other ≠ address node := fun here =>
        same (apart other node there alive here)
      rw [if_neg elsewhere]
      exact faithful.present first there
  case known =>
    refine List.forall_mem_append.mpr ⟨faithful.known, List.forall_mem_singleton.mpr ?_⟩
    exact Forest.lt_nextId_of_isAlive alive
  case retried =>
    refine List.pairwise_append.mpr ⟨faithful.retried, List.pairwise_singleton _ _, ?_⟩
    rintro ⟨other, earlier⟩ member later last rfl
    cases List.mem_singleton.mp last
    exact toOption_of_firstFound_eq_none new member
  case found =>
    intro other said
    rw [List.mem_append, faithful.found, List.mem_singleton]
    by_cases same : other = node
    · subst same
      rw [new, self]
      cases answer <;> simp [Except.toOption, eq_comm]
    · simp [same, others same]
  case failed =>
    intro other error
    simp only [List.mem_append, faithful.failed]
  case counted => cases answer <;> simp [Cache.note, faithful.counted]

/-- The questions are about nodes that are there, and addresses tell nodes apart at any
time. -/
def Orderly (schema : Schema) (address : NodeId → κ) (inner : Naming (Forest × μ)) :
    Course κ μ → List IdCall → Prop
  | course, [] => Apart address course.forest
  | course, call :: calls =>
      Apart address course.forest ∧
        (∀ node ∈ call.node?, course.forest.isAlive node = true) ∧
        Orderly schema address inner (course.step schema address inner call) calls

instance : ∀ (course : Course κ μ) (calls : List IdCall),
    Decidable (Orderly schema address inner course calls)
  | course, [] => inferInstanceAs (Decidable (Apart address course.forest))
  | course, call :: calls =>
      have := instDecidableOrderly (course.step schema address inner call) calls
      inferInstanceAs (Decidable (_ ∧ _ ∧ _))

theorem Faithful.step (faithful : Faithful address course) (lasting : inner.Lasting)
    (apart : Apart address course.forest) {call : IdCall}
    (handled : ∀ node ∈ call.node?, course.forest.isAlive node = true) :
    Faithful address (course.step schema address inner call) := by
  match call with
  | .id node =>
      cases kept : course.cache.find? (address node) node with
      | some found =>
          rw [step_id_of_find? kept]
          exact faithful.hit kept
      | none =>
          rw [step_id_of_not_find? kept]
          have missed := faithful.miss apart (handled node rfl) kept
            (inner.id node (course.forest, course.memory)).1
          exact missed.later (lasting.id node (course.forest, course.memory)) _
  | .cached node => exact faithful
  | .idAt node place =>
      rw [step_idAt]
      exact faithful.later (lasting.idAt node place (course.forest, course.memory)) _
  | .operate operation => exact faithful.later (Forest.later_perform schema operation) _

theorem Faithful.run (faithful : Faithful address course) (lasting : inner.Lasting)
    {calls : List IdCall} (orderly : Orderly schema address inner course calls) :
    Faithful address (course.run schema address inner calls) := by
  induction calls generalizing course with
  | nil => exact faithful
  | cons call calls ih =>
      obtain ⟨apart, handled, rest⟩ := orderly
      exact ih (faithful.step lasting apart handled) rest

/-- A provider that does not change its mind is repeated in all answers. -/
theorem Faithful.answered_run (faithful : Faithful address course) (lasting : inner.Lasting)
    {calls : List IdCall} (orderly : Orderly schema address inner course calls)
    {say : NodeId → Except IdError String}
    (steady : ∀ earlier later node, calls = earlier ++ .id node :: later →
      (inner.id node ((course.run schema address inner earlier).forest,
        (course.run schema address inner earlier).memory)).1 = say node)
    (before : ∀ reply ∈ course.answered, reply.2 = say reply.1) :
    ∀ reply ∈ (course.run schema address inner calls).answered, reply.2 = say reply.1 := by
  induction calls generalizing course with
  | nil => exact before
  | cons call calls ih =>
      obtain ⟨apart, handled, rest⟩ := orderly
      refine ih (faithful.step lasting apart handled) rest (fun earlier later node split => ?_) ?_
      · exact steady (call :: earlier) later node (by rw [split]; rfl)
      · match call with
        | .id node =>
            cases kept : course.cache.find? (address node) node with
            | some found =>
                have given := faithful.found.mpr (faithful.kept (Cache.find?_eq_some_iff.mp kept)).2
                rw [step_id_of_find? kept]
                exact List.forall_mem_append.mpr
                  ⟨before, List.forall_mem_singleton.mpr (before _ given)⟩
            | none =>
                rw [step_id_of_not_find? kept]
                exact List.forall_mem_append.mpr
                  ⟨before, List.forall_mem_singleton.mpr (steady [] calls node rfl)⟩
        | .cached node => exact before
        | .idAt node place => exact before
        | .operate operation => exact before

/-- How a caching provider stands to the wrapped one. -/
structure Transparent (address : NodeId → κ) (inner : Naming (Forest × μ))
    (course : Course κ μ) : Prop where
  /-- An identifier that was found for a node is given again, and nothing else happens. -/
  id_of_found : ∀ node found, course.forest.isAlive node = true →
    firstFound course.asked node = some found →
    (inner.caching address).id node (course.cache, course.forest, course.memory) =
      (.ok found, course.cache, course.forest, course.memory)
  /-- Before that, the wrapped provider is asked, and the answer is its answer. -/
  id_of_not_found : ∀ node, course.forest.isAlive node = true →
    firstFound course.asked node = none →
    (inner.caching address).id node (course.cache, course.forest, course.memory) =
      ((inner.id node (course.forest, course.memory)).1,
        course.cache.note (address node) node (inner.id node (course.forest, course.memory)).1,
        (inner.id node (course.forest, course.memory)).2)
  /-- The wrapped provider is asked about a node again only after failures. -/
  retried : course.asked.Pairwise fun earlier later =>
    earlier.1 = later.1 → earlier.2.toOption = none
  /-- What was answered for a node is what the wrapped provider said about this node. -/
  found : ∀ node found, (node, .ok found) ∈ course.answered ↔
    firstFound course.asked node = some found
  failed : ∀ node error, (node, .error error) ∈ course.answered ↔
    (node, .error error) ∈ course.asked
  /-- The cache holds what was answered. -/
  cached : ∀ node found, course.forest.isAlive node = true →
    (course.cache.find? (address node) node = some found ↔ (node, .ok found) ∈ course.answered)
  counted : course.cache.calls = course.asked.length
  /-- No cache is used for given coordinates. -/
  idAt : ∀ node place cache,
    (inner.caching address).idAt node place (cache, course.forest, course.memory) =
      ((inner.idAt node place (course.forest, course.memory)).1, cache,
        (inner.idAt node place (course.forest, course.memory)).2)

theorem Faithful.transparent (faithful : Faithful address course) :
    Transparent address inner course where
  id_of_found node found alive first := by
    rw [← faithful.find?_eq alive] at first
    simp only [Naming.caching, first]
  id_of_not_found node alive none := by
    rw [← faithful.find?_eq alive] at none
    simp only [Naming.caching, none]
  retried := faithful.retried
  found _ _ := faithful.found
  failed _ _ := faithful.failed
  cached node found alive := by rw [faithful.find?_eq alive, faithful.found]
  counted := faithful.counted
  idAt _ _ _ := rfl

/-- Over every history a caching provider gives the first identifier that the wrapped one
finds for a node. It agrees with a wrapped provider whose answers do not change. -/
theorem transparent_run (lasting : inner.Lasting) (forest : Forest) (memory : μ)
    {calls : List IdCall} (orderly : Orderly schema address inner (start forest memory) calls) :
    Transparent address inner ((start forest memory).run schema address inner calls) ∧
    ∀ say : NodeId → Except IdError String,
      (∀ earlier later node, calls = earlier ++ .id node :: later →
        (inner.id node (((start forest memory).run schema address inner earlier).forest,
          ((start forest memory).run schema address inner earlier).memory)).1 = say node) →
      ∀ reply ∈ ((start forest memory).run schema address inner calls).answered,
        reply.2 = say reply.1 := by
  have faithful : Faithful address (start forest memory) := faithful_start forest memory
  refine ⟨(faithful.run lasting orderly).transparent, fun say steady => ?_⟩
  exact faithful.answered_run lasting orderly steady fun reply none => by cases none

/-- A node that fails at first, is named and renamed, and goes; the next one gets its
address. -/
def reusedCalls : List IdCall :=
  [.operate (.create "Box"), .operate (.create "Box"), .id 0,
    .operate (.edit (.setSource 0 (some (.named "a")))), .id 0,
    .operate (.edit (.setSource 0 (some (.named "b")))), .cached 0, .idAt 0 .root, .id 0,
    .operate (.hold "other" 1), .operate (.sweep []), .operate (.create "Box"),
    .operate (.edit (.setSource 2 (some (.named "c")))), .id 2]

theorem lasting_reading (id : Forest → NodeId → Except IdError String)
    (idAt : Forest → NodeId → Coordinates → Except IdError String) :
    (Naming.reading id idAt).Lasting :=
  ⟨fun _ state => .refl state.1, fun _ _ state => .refl state.1⟩

theorem transparent_run_reused :
    ∃ schema, Schema.build [.named "Box"] = .ok schema ∧
      Orderly schema (· % 2) (IdProvider.structural .simple).naming (start ∅ .empty)
        reusedCalls ∧
      ((start ∅ .empty).run schema (· % 2) (IdProvider.structural .simple).naming
        reusedCalls).answered =
        [(0, .error (.missingSource "Box")), (0, .ok "a_root"), (0, .ok "a_root"),
          (2, .ok "c_root")] ∧
      Transparent (· % 2) (IdProvider.structural .simple).naming
        ((start ∅ .empty).run schema (· % 2) (IdProvider.structural .simple).naming
          reusedCalls) := by
  have checked : (Schema.build [.named "Box"]).toOption.map (fun schema =>
      decide (Orderly schema (· % 2) (IdProvider.structural .simple).naming (start ∅ .empty)
        reusedCalls)) = some true := by
    decide +kernel
  have answers : (Schema.build [.named "Box"]).toOption.map (fun schema =>
      ((start ∅ .empty).run schema (· % 2) (IdProvider.structural .simple).naming
        reusedCalls).answered) =
      some [(0, .error (.missingSource "Box")), (0, .ok "a_root"), (0, .ok "a_root"),
        (2, .ok "c_root")] := by
    rfl
  cases built : Schema.build [.named "Box"] with
  | error reason =>
      rw [built] at answers
      cases answers
  | ok schema =>
      rw [built] at answers checked
      simp only [Except.toOption, Option.map_some, Option.some.injEq] at answers checked
      have orderly := of_decide_eq_true checked
      refine ⟨schema, rfl, orderly, answers, ?_⟩
      exact (transparent_run (lasting_reading _ _) ∅ .empty orderly).1

end Course

end TypedTree
