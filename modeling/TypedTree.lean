import TypedTree.Forest.Address
import TypedTree.Forest.Describe
import TypedTree.Identity.Provider
import TypedTree.Schema.Build
import TypedTree.Semantics.Resolution
import TypedTree.Transform.Transformer
import TypedTree.Identity.Recipe
import TypedTree.Semantics.Recipe
import TypedTree.Transform.Recipe
import TypedTree.Proofs.Forest.Ancestors
import TypedTree.Proofs.Forest.Containment
import TypedTree.Proofs.Forest.Attachment
import TypedTree.Proofs.Forest.Linkage
import TypedTree.Proofs.Schema.Building
import TypedTree.Proofs.Forest.Conformance
import TypedTree.Proofs.Forest.History
import TypedTree.Proofs.Transform.Adoption
import TypedTree.Proofs.Foreign.Nesting
import TypedTree.Proofs.Transform.Draft
import TypedTree.Proofs.Forest.Growth
import TypedTree.Proofs.Forest.Wiring
import TypedTree.Proofs.Transform.Agreement
import TypedTree.Proofs.Transform.Correspondence
import TypedTree.Proofs.Transform.Refinement
import TypedTree.Proofs.Order
import TypedTree.Proofs.Schema.Ancestry
import TypedTree.Proofs.Schema.Subtyping
import TypedTree.Proofs.Schema.Features
import TypedTree.Proofs.Schema.Faults
import TypedTree.Proofs.Schema.Rearrangement
import TypedTree.Proofs.Dispatch
import TypedTree.Proofs.Forest.Paths
import TypedTree.Proofs.Forest.Movement
import TypedTree.Proofs.Identity.Structural
import TypedTree.Proofs.Identity.Grounding
import TypedTree.Proofs.Forest.Lifetime
import TypedTree.Proofs.Identity.Caching
import TypedTree.Proofs.Forest.Targets
import TypedTree.Proofs.Forest.Atomicity
import TypedTree.Proofs.Semantics.Scoping
import TypedTree.Proofs.Semantics.Resolution
import TypedTree.Proofs.Semantics.Selection
import TypedTree.Proofs.Forest.Typing
import TypedTree.Proofs.Forest.Fitting
import TypedTree.Proofs.Identity.Reordering
import TypedTree.Proofs.Forest.Trees
import TypedTree.Proofs.Forest.Planting
import TypedTree.Proofs.Transform.Watching
import TypedTree.Proofs.Transform.Congruence
import TypedTree.Proofs.Transform.Running
import TypedTree.Proofs.Transform.Lookup
import TypedTree.Proofs.Transform.Outcomes
import TypedTree.Proofs.Transform.Session
import TypedTree.Proofs.Transform.Memoization
import TypedTree.Proofs.Transform.Strictness
import TypedTree.Proofs.Transform.Stability
import TypedTree.Proofs.Transform.Inspection
import TypedTree.Proofs.Transform.Conformance
import TypedTree.Proofs.Transform.Failures
import TypedTree.Proofs.Transform.Modest
import TypedTree.Proofs.Transform.Upkeep
import TypedTree.Proofs.Transform.Accounting
import TypedTree.Proofs.Dispatch.Specificity
import TypedTree.Proofs.Transform.Planning
import TypedTree.Proofs.Schema.Inheritance
import TypedTree.Proofs.Forest.Iteration
import TypedTree.Proofs.Foreign.Descent
import TypedTree.Proofs.Transform.Termination
import TypedTree.Proofs.Forest.Regrowth
import TypedTree.Proofs.Forest.Independence
import TypedTree.Proofs.Transform.Confinement
import TypedTree.Proofs.Transform.Counterparts
import TypedTree.Proofs.Transform.Filling
import TypedTree.Proofs.Transform.Insistence
import TypedTree.Proofs.Transform.Recipes
import TypedTree.Proofs.Transform.HandWiring
import TypedTree.Proofs.LineIndex
import TypedTree.Proofs.Text.Lowercase
import TypedTree.Proofs.Scope
import TypedTree.Proofs.Foreign.Ranges
import TypedTree.Proofs.Forest.Ranges
import TypedTree.Proofs.Transform.Descriptive
import TypedTree.Proofs.Transform.Ranges
import TypedTree.Proofs.Foreign.Paths
