import ClassForge.Print.Render
import ClassForge.Print.Template
import ClassForge.Print.Middleware
import ClassForge.Text.UpperCase
import ClassForge.Php.Outline
import ClassForge.TypeScript.Outline
import ClassForge.Json.Value
import ClassForge.Spec.Reader
import ClassForge.Spec.View
import ClassForge.Project.Config
import ClassForge.Generate.Code
import ClassForge.Files.Disk
import ClassForge.Command.Arguments
import ClassForge.Main
import ClassForge.Proofs.Print.Placement
import ClassForge.Proofs.Print.Watched
import ClassForge.Proofs.Print.Draft
import ClassForge.Proofs.Code.Written
import ClassForge.Proofs.Php.Written
import ClassForge.Proofs.TypeScript.Written
import ClassForge.Proofs.Code.Leads
import ClassForge.Proofs.Generate.Alignment
import ClassForge.Proofs.Spec.RoundTrip
import ClassForge.Proofs.Generate.MethodNames
import ClassForge.Proofs.Generate.Blocks
import ClassForge.Proofs.Code.Fitting
import ClassForge.Proofs.Print.Agreement
import ClassForge.Proofs.Print.Lineage
import ClassForge.Proofs.Print.Scopes
import ClassForge.Proofs.Print.Traversal
import ClassForge.Proofs.Print.Recording
import ClassForge.Proofs.Print.Tracing
import ClassForge.Proofs.Code.Tracing
import ClassForge.Proofs.Print.Failures
import ClassForge.Proofs.Print.Forest
import ClassForge.Proofs.Print.Interference
import ClassForge.Proofs.Code.Vocabulary
import ClassForge.Proofs.Code.Transparency
import ClassForge.Proofs.Print.Levels
import ClassForge.Proofs.Code.Levels
import ClassForge.Proofs.Print.LeafLines
import ClassForge.Proofs.Json.Written
import ClassForge.Proofs.Spec.Schemas
import ClassForge.Proofs.Spec.Acceptance
import ClassForge.Proofs.Spec.Documents
import ClassForge.Proofs.Files.Memory
import ClassForge.Proofs.Generate.Outcomes
import ClassForge.Proofs.Command.Emission
import ClassForge.Proofs.Files.Paths
import ClassForge.Proofs.Files.Histories
import ClassForge.Proofs.Files.Growth
import ClassForge.Proofs.Spec.Collection
import ClassForge.Proofs.Command.Containment
import ClassForge.Proofs.Command.Batches
import ClassForge.Proofs.Json.LastMembers
import ClassForge.Proofs.Spec.Locations
import ClassForge.Proofs.Spec.Rearrangement
import ClassForge.Proofs.Spec.Views
import ClassForge.Proofs.Json.Removal
import ClassForge.Proofs.Json.Words
import ClassForge.Proofs.Project.Settings
import ClassForge.Proofs.Code.Onlookers
import ClassForge.Proofs.Code.Nesting
import ClassForge.Proofs.Text.Boundaries
import ClassForge.Proofs.Code.Keys
import ClassForge.Proofs.Code.Grouping
import ClassForge.Proofs.TypeScript.Dates
import ClassForge.Proofs.Command.Discovery
import ClassForge.Proofs.Command.Readiness
import ClassForge.Proofs.Generate.Comments
import ClassForge.Proofs.Generate.Twins
import ClassForge.Proofs.Generate.Framing
import ClassForge.Proofs.Code.Filling
import ClassForge.Proofs.Print.LineLeads
