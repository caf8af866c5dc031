import DecafScopes.Syntax.Span
import DecafScopes.Syntax.NodeId
import DecafScopes.Syntax.Binary64
import DecafScopes.Syntax.Expression
import DecafScopes.Syntax.Statement
import DecafScopes.Syntax.Program
import DecafScopes.Syntax.Equality
import DecafScopes.Outline.Forest
import DecafScopes.Outline.Node
import DecafScopes.Outline.Place
import DecafScopes.Outline.Occurrence
import DecafScopes.Construction.Builder
import DecafScopes.Construction.Script
import DecafScopes.Scope.Kind
import DecafScopes.Scope.Policy
import DecafScopes.Scope.SymbolTable
import DecafScopes.Scope.Diagnostic
import DecafScopes.Scope.ScopeTree
import DecafScopes.Scope.Lookup
import DecafScopes.Binding.Step
import DecafScopes.Binding.Log
import DecafScopes.Binding.Pass
import DecafScopes.Binding.Lexical
import DecafScopes.Proofs.Outline.Unfolding
import DecafScopes.Proofs.Outline.Placement
import DecafScopes.Proofs.Outline.Ancestry
import DecafScopes.Proofs.Scope.Growth
import DecafScopes.Proofs.Binding.Registration
import DecafScopes.Proofs.Binding.Steps
import DecafScopes.Proofs.Binding.Result
import DecafScopes.Proofs.Binding.Plan
import DecafScopes.Proofs.Binding.Levels
import DecafScopes.Proofs.Binding.Outcome
import DecafScopes.Proofs.Binding.Resolution
import DecafScopes.Proofs.Binding.Coverage
import DecafScopes.Proofs.Binding.Numbering
import DecafScopes.Proofs.Binding.SourceOrder
import DecafScopes.Proofs.Binding.Redeclarations
import DecafScopes.Proofs.Binding.BindingOrder
import DecafScopes.Proofs.Binding.Failure
import DecafScopes.Proofs.Binding.Enclosure
import DecafScopes.Proofs.Binding.Correspondence
import DecafScopes.Proofs.Outline.Hiding
import DecafScopes.Proofs.Binding.Encapsulation
import DecafScopes.Proofs.Binding.Refusals
import DecafScopes.Proofs.Outline.Rearrangement
import DecafScopes.Proofs.Binding.ScopeContents
import DecafScopes.Proofs.Binding.OrderIndependence
import DecafScopes.Proofs.Binding.Policies
import DecafScopes.Proofs.Binding.Innermost
import DecafScopes.Proofs.Scope.Calls
import DecafScopes.Proofs.Scope.Representation
import DecafScopes.Proofs.Scope.Termination
import DecafScopes.Proofs.Outline.Renaming
import DecafScopes.Proofs.Outline.Translation
import DecafScopes.Proofs.Scope.Likeness
import DecafScopes.Proofs.Binding.Simulation
import DecafScopes.Proofs.Binding.Equivariance
import DecafScopes.Proofs.Scope.Declaring
import DecafScopes.Proofs.Scope.Opening
import DecafScopes.Proofs.Scope.NearestHolder
import DecafScopes.Proofs.Scope.Additions
import DecafScopes.Proofs.Outline.Shape
import DecafScopes.Proofs.Outline.EqualNodes
import DecafScopes.Proofs.Binding.NonInterference
import DecafScopes.Proofs.Binding.Introduction
import DecafScopes.Proofs.Binding.Narration
import DecafScopes.Proofs.Binding.Beginnings
import DecafScopes.Proofs.Binding.Preparation
import DecafScopes.Proofs.Binding.Settling
import DecafScopes.Proofs.Outline.Juxtaposition
import DecafScopes.Proofs.Binding.Extension
import DecafScopes.Proofs.Outline.Descent
import DecafScopes.Proofs.Outline.DoubleLiterals
import DecafScopes.Proofs.Outline.NumericEquality
import DecafScopes.Proofs.Construction.Assembly
import DecafScopes.Proofs.Construction.Ownership
import DecafScopes.Proofs.Binding.Locations
import DecafScopes.Proofs.Construction.Lines
import DecafScopes.Proofs.Binding.Fragments
import DecafScopes.Proofs.Binding.Continuation
import DecafScopes.Proofs.Binding.Surroundings
import DecafScopes.Proofs.Binding.Confinement
