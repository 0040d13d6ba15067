import GenPlan.Binary64
import GenPlan.Binding
import GenPlan.Classpath
import GenPlan.Command
import GenPlan.CommandLine
import GenPlan.Digits
import GenPlan.Files
import GenPlan.Folder
import GenPlan.Generator
import GenPlan.Generator.Artifact
import GenPlan.Generator.Target
import GenPlan.Json
import GenPlan.Json.Decode
import GenPlan.Json.Encode
import GenPlan.Kdl.Document
import GenPlan.Kdl.Lexeme
import GenPlan.Kdl.Printer
import GenPlan.Kdl.Value
import GenPlan.Location
import GenPlan.Location.Host
import GenPlan.Main
import GenPlan.Marker
import GenPlan.NameMap
import GenPlan.Named
import GenPlan.Parser
import GenPlan.Path
import GenPlan.Pattern.CharSet
import GenPlan.Pattern.Match
import GenPlan.Pattern.Reader
import GenPlan.Pattern.Selector
import GenPlan.Pattern.Syntax
import GenPlan.Plan
import GenPlan.Plan.Document
import GenPlan.Plan.Node
import GenPlan.Plugin
import GenPlan.Plugin.Context
import GenPlan.Progress
import GenPlan.Project
import GenPlan.Proofs.Binding.Directory
import GenPlan.Proofs.Binding.Lookup
import GenPlan.Proofs.Document.Entity
import GenPlan.Proofs.Document.Grammar
import GenPlan.Proofs.Document.Kinds
import GenPlan.Proofs.Document.Null
import GenPlan.Proofs.Document.Plan
import GenPlan.Proofs.Document.Reading
import GenPlan.Proofs.Document.Rearranged
import GenPlan.Proofs.Marker
import GenPlan.Proofs.Marker.Composition
import GenPlan.Proofs.Marker.Idempotence
import GenPlan.Proofs.Marker.Layout
import GenPlan.Proofs.NameMap
import GenPlan.Proofs.Named
import GenPlan.Proofs.Path
import GenPlan.Proofs.Plan.Addresses
import GenPlan.Proofs.Plan.Again
import GenPlan.Proofs.Plan.Inheritance
import GenPlan.Proofs.Plan.Initialized
import GenPlan.Proofs.Plan.Names
import GenPlan.Proofs.Plan.Saturated
import GenPlan.Proofs.Plan.Settled
import GenPlan.Proofs.Plan.StandardFolders
import GenPlan.Proofs.Plan.Throughout
import GenPlan.Proofs.Plan.Undeclared
import GenPlan.Proofs.Progress
import GenPlan.Proofs.Resolution.Cycle
import GenPlan.Proofs.Resolution.Depth
import GenPlan.Proofs.Resolution.Final
import GenPlan.Proofs.Resolution.Loop
import GenPlan.Proofs.Resolution.Reachable
import GenPlan.Proofs.Resolution.Recursion
import GenPlan.Proofs.Resolution.Reference
import GenPlan.Proofs.Resolution.Rereading
import GenPlan.Proofs.Resolution.Settling
import GenPlan.Proofs.Resolution.Solution
import GenPlan.Proofs.Resolution.Standstill
import GenPlan.Proofs.Resolution.Unfolding
import GenPlan.Proofs.Resolution.Walk
import GenPlan.Proofs.Scope.Again
import GenPlan.Proofs.Scope.Cascade
import GenPlan.Proofs.Scope.Order
import GenPlan.Proofs.Scope.Outcome
import GenPlan.Proofs.Scope.Pass
import GenPlan.Proofs.Scope.Retry
import GenPlan.Proofs.Scope.Run
import GenPlan.Proofs.Scope.Shadowing
import GenPlan.Proofs.Session.Again
import GenPlan.Proofs.Session.Classpath
import GenPlan.Proofs.Session.Root
import GenPlan.Proofs.Session.Run
import GenPlan.Proofs.Variable
import GenPlan.Quoted
import GenPlan.Resolution
import GenPlan.Routing
import GenPlan.Scope
import GenPlan.Session
import GenPlan.Unicode.Category
import GenPlan.Unicode.Folding
import GenPlan.Unicode.Property
import GenPlan.Unicode.Ranges
import GenPlan.Unicode.Script
import GenPlan.Variable
