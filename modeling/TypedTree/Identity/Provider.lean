import TypedTree.Identity.Semantic

namespace TypedTree

/-! # Identifier providers

A provider names nodes by shape, by rule, or by rule where one applies and by shape
elsewhere. A caching provider asks another one only until it has an answer for a node.
The answers are kept outside the providers, so that two providers over one cache share
what it holds.
-/

/-- A way to name nodes, as they are or as if they stood at given coordinates, which may
use and change a state. -/
structure Naming (σ : Type) where
  id (node : NodeId) (state : σ) : Except IdError String × σ
  idAt (node : NodeId) (place : Coordinates) (state : σ) : Except IdError String × σ

/-- The answers that a caching provider has got, by the addresses of the nodes, and how
often it asked. An address can pass to another node when its node is gone, so every answer
stands with the node it is for. -/
structure Cache (κ : Type) where
  ids : Registry κ (NodeId × String)
  calls : Nat

namespace Cache

variable {κ : Type} [DecidableEq κ]

def empty : Cache κ := ⟨∅, 0⟩

/-- What is kept for a node; the answer for an earlier node at its address does not
count. -/
def find? (cache : Cache κ) (address : κ) (node : NodeId) : Option String :=
  ((cache.ids.get? address).filter fun entry => entry.1 = node).map (·.2)

/-- Keeps an answer that was asked for; a failure is only counted. -/
def note (cache : Cache κ) (address : κ) (node : NodeId) : Except IdError String → Cache κ
  | .ok found => ⟨cache.ids.insert address (node, found), cache.calls + 1⟩
  | .error _ => ⟨cache.ids, cache.calls + 1⟩

end Cache

/-- Asks for the identifier of a node until there is one. What a node is called at given
coordinates is not kept. -/
def Naming.caching {κ σ : Type} [DecidableEq κ] (address : NodeId → κ) (inner : Naming σ) :
    Naming (Cache κ × σ) where
  id node := fun (cache, state) =>
    match cache.find? (address node) node with
    | some found => (.ok found, cache, state)
    | none =>
        let (answer, after) := inner.id node state
        (answer, cache.note (address node) node answer, after)
  idAt node place := fun (cache, state) =>
    let (answer, after) := inner.idAt node place state
    (answer, cache, after)

/-- The caches of all caching providers, by slot. -/
structure Caches where
  slots : Registry Nat (Cache NodeId)

namespace Caches

def empty : Caches := ⟨∅⟩

instance : Inhabited Caches := ⟨empty⟩

def cache (caches : Caches) (slot : Nat) : Cache NodeId := (caches.slots.get? slot).getD .empty

def setCache (caches : Caches) (slot : Nat) (cache : Cache NodeId) : Caches :=
  ⟨caches.slots.insert slot cache⟩

def cached? (caches : Caches) (slot : Nat) (node : NodeId) : Option String :=
  (caches.cache slot).find? node node

def calls (caches : Caches) (slot : Nat) : Nat := (caches.cache slot).calls

end Caches

namespace Naming

/-- Names nodes by a look at the forest alone. -/
def reading (id : Forest → NodeId → Except IdError String)
    (idAt : Forest → NodeId → Coordinates → Except IdError String) :
    Naming (Forest × Caches) where
  id node := fun (forest, caches) => (id forest node, forest, caches)
  idAt node place := fun (forest, caches) => (idAt forest node place, forest, caches)

/-- Takes the cache from a slot and puts it back there. -/
def inSlot (slot : Nat) (naming : Naming (Cache NodeId × Forest × Caches)) :
    Naming (Forest × Caches) where
  id node := fun (forest, caches) =>
    let (answer, cache, forest, caches) := naming.id node (caches.cache slot, forest, caches)
    (answer, forest, caches.setCache slot cache)
  idAt node place := fun (forest, caches) =>
    let (answer, cache, forest, caches) :=
      naming.idAt node place (caches.cache slot, forest, caches)
    (answer, forest, caches.setCache slot cache)

end Naming

inductive IdProvider where
  | structural (sources : SourceIds)
  | declarative (rules : DispatchTable IdRule)
  | common (rules : DispatchTable IdRule) (sources : SourceIds)
  | caching (slot : Nat) (inner : IdProvider)

namespace IdProvider

def naming : IdProvider → Naming (Forest × Caches)
  | .structural sources => .reading (Structural.id sources) (Structural.idAt sources)
  | .declarative rules =>
      .reading (Semantic.id rules) fun forest node _ => Semantic.id rules forest node
  | .common rules sources =>
      .reading (fun forest node => do
        match ← Semantic.id? rules forest node with
        | some found => return found
        | none => Structural.id sources forest node)
      fun forest node place => do
        match ← Semantic.id? rules forest node with
        | some found => return found
        | none => Structural.idAt sources forest node place
  -- no two nodes ever have one number, so it serves as the address
  | .caching slot inner => (inner.naming.caching fun node => node).inSlot slot

def id (provider : IdProvider) (forest : Forest) (node : NodeId) (caches : Caches) :
    Except IdError String × Caches :=
  let (answer, _, after) := provider.naming.id node (forest, caches)
  (answer, after)

/-- The identifier that a node would have at some coordinates; no cache is used. -/
def idAt (provider : IdProvider) (forest : Forest) (node : NodeId) (place : Coordinates) :
    Except IdError String :=
  (provider.naming.idAt node place (forest, .empty)).1

/-- How the provider names sources, if it names nodes by shape itself. -/
def sources? : IdProvider → Option SourceIds
  | .structural sources | .common _ sources => some sources
  | .declarative _ | .caching _ _ => none

/-- The rules of the provider, if it has its own. -/
def rules? : IdProvider → Option (DispatchTable IdRule)
  | .declarative rules | .common rules _ => some rules
  | .structural _ | .caching _ _ => none

end IdProvider

end TypedTree
