import ServiceStubs.Main
import ServiceStubs.Files.Tree
import ServiceStubs.Proofs.Resolution.Growth
import ServiceStubs.Proofs.Resolution.References
import ServiceStubs.Proofs.Resolution.Phases
import ServiceStubs.Proofs.Resolution.Closure
import ServiceStubs.Proofs.Resolution.Erasure
import ServiceStubs.Proofs.Resolution.Noninterference
import ServiceStubs.Proofs.Plan.Reachability
import ServiceStubs.Proofs.Plan.Imports
import ServiceStubs.Proofs.Plan.ImportGraph
import ServiceStubs.Proofs.Text.Split
import ServiceStubs.Proofs.Text.WordCase
import ServiceStubs.Proofs.Files.SafePath
import ServiceStubs.Proofs.Target.OutputPaths
import ServiceStubs.Proofs.Files.Confinement
import ServiceStubs.Proofs.Generate
import ServiceStubs.Proofs.Plan.DistinctNames
import ServiceStubs.Proofs.Target.Companions
import ServiceStubs.Proofs.Target.Outcome
import ServiceStubs.Proofs.Target.PythonImports
import ServiceStubs.Proofs.Resolution.Exports
import ServiceStubs.Proofs.Resolution.Alike
import ServiceStubs.Proofs.Source.CanonicalPath
import ServiceStubs.Proofs.Source.Serving
import ServiceStubs.Proofs.Resolution.Agreement
import ServiceStubs.Proofs.Resolution.Watch
import ServiceStubs.Proofs.Resolution.Termination
import ServiceStubs.Proofs.Files.Way
import ServiceStubs.Proofs.Files.Change
import ServiceStubs.Proofs.Files.Grounded
import ServiceStubs.Proofs.Files.Beside
import ServiceStubs.Proofs.Project.Delivery
import ServiceStubs.Proofs.Project.Replacement
import ServiceStubs.Proofs.Project.WrittenClients
import ServiceStubs.Proofs.Plan.Restriction
import ServiceStubs.Proofs.Target.Influence
import ServiceStubs.Proofs.Target.Identifiers
import ServiceStubs.Proofs.Target.Stub
import ServiceStubs.Proofs.Target.Forwarding
import ServiceStubs.Proofs.Target.Capture
import ServiceStubs.Proofs.Target.WireName
import ServiceStubs.Proofs.Source.SpecifierTarget
import ServiceStubs.Proofs.Source.ExportedClasses
import ServiceStubs.Proofs.Resolution.Provenance
import ServiceStubs.Proofs.Resolution.Inheritance
import ServiceStubs.Proofs.Text.Quoted
import ServiceStubs.Proofs.Target.ScopeNames
import ServiceStubs.Proofs.Target.RelativeImports
import ServiceStubs.Proofs.Resolution.ReferenceKeys
import ServiceStubs.Proofs.Target.TextLiteral
import ServiceStubs.Proofs.Target.DocComments
import ServiceStubs.Proofs.Text.Occurrence
import ServiceStubs.Proofs.Target.TypedefBlock
import ServiceStubs.Proofs.Text.Trim
import ServiceStubs.Proofs.Source.Documentation
import ServiceStubs.Proofs.Target.PythonUnions
import ServiceStubs.Proofs.Target.OptionalTypes
import ServiceStubs.Proofs.Target.EnumValueTypes
import ServiceStubs.Proofs.Target.ModuleNames
import ServiceStubs.Proofs.Target.PythonHydration
import ServiceStubs.Proofs.Target.TopLevelNames
import ServiceStubs.Proofs.Target.WireKey
import ServiceStubs.Proofs.Target.RecordMembers
import ServiceStubs.Proofs.Plan.Renaming
import ServiceStubs.Proofs.Target.GoExports
import ServiceStubs.Proofs.Target.TypeSpelling
import ServiceStubs.Proofs.Plan.Order
import ServiceStubs.Proofs.Plan.OneService
import ServiceStubs.Proofs.Target.ClientTypedefs
import ServiceStubs.Proofs.Target.Packages
import ServiceStubs.Proofs.Text.Replaced
import ServiceStubs.Proofs.Files.Orderly
import ServiceStubs.Proofs.Project.Linking
import ServiceStubs.Proofs.Visits
import ServiceStubs.Proofs.Resolution.Counting
