import DesiredState.CommandLine.Arguments
import DesiredState.CommandLine.Program
import DesiredState.Dict
import DesiredState.Digest.Sha256
import DesiredState.Doc.Basic
import DesiredState.Doc.Form
import DesiredState.Doc.Json.Printer
import DesiredState.Doc.Json.Reader
import DesiredState.Doc.Layout
import DesiredState.Doc.Patch
import DesiredState.EnvFile.Definition
import DesiredState.EnvFile.Line
import DesiredState.EnvFile.Load
import DesiredState.Failure
import DesiredState.Files.FileTree
import DesiredState.Files.Path
import DesiredState.Fleet.Report
import DesiredState.Fleet.Run
import DesiredState.Host.Gateway
import DesiredState.Host.Numbering
import DesiredState.Host.Operation
import DesiredState.Host.Provider
import DesiredState.Host.Simulator
import DesiredState.Machine.Computer
import DesiredState.Machine.Platform
import DesiredState.Main
import DesiredState.Manifest.Basic
import DesiredState.Manifest.Load
import DesiredState.Manifest.Text
import DesiredState.Manifest.Validation
import DesiredState.Reconcile.DeleteAction
import DesiredState.Reconcile.Engine
import DesiredState.Reconcile.Token
import DesiredState.Record.Run
import DesiredState.Record.State
import DesiredState.Record.Store
import DesiredState.Resource.Basic
import DesiredState.Resource.CloudFunction
import DesiredState.Resource.CryptoKey
import DesiredState.Resource.Database
import DesiredState.Resource.DeletionPolicy
import DesiredState.Resource.DnsZone
import DesiredState.Resource.Kind
import DesiredState.Resource.Meta
import DesiredState.Resource.Queue
import DesiredState.Resource.Rules
import DesiredState.Resource.Server
import DesiredState.Resource.Spec
import DesiredState.Resource.Table
import DesiredState.Resource.TagPlan
import DesiredState.Text.Affix
import DesiredState.Text.Alphanumeric
import DesiredState.Text.Blank
import DesiredState.Text.CodeRange
import DesiredState.Text.Lowercase
import DesiredState.Text.Quoted
import DesiredState.Time.Instant
import DesiredState.View.Paint
import DesiredState.View.Report
import DesiredState.View.State
import DesiredState.Yaml.Cursor
import DesiredState.Yaml.Lexer
import DesiredState.Yaml.Node
import DesiredState.Yaml.Plain
import DesiredState.Yaml.Scalar
import DesiredState.Yaml.Tag
import DesiredState.Yaml.Token
import DesiredState.Yaml.Value
import DesiredState.Proofs.CommandLine.Commands
import DesiredState.Proofs.CommandLine.Sharing
import DesiredState.Proofs.CommandLine.Visits
import DesiredState.Proofs.CommandLine.WorkingFolder
import DesiredState.Proofs.Dict
import DesiredState.Proofs.Digest.Sha256
import DesiredState.Proofs.Doc.Form
import DesiredState.Proofs.Doc.Json
import DesiredState.Proofs.Files.Ancestors
import DesiredState.Proofs.Files.FileTree
import DesiredState.Proofs.Fleet.Account
import DesiredState.Proofs.Fleet.Advances
import DesiredState.Proofs.Fleet.Order
import DesiredState.Proofs.Fleet.Removals
import DesiredState.Proofs.Fleet.Turns
import DesiredState.Proofs.Fleet.Undoing
import DesiredState.Proofs.Host.Consistent
import DesiredState.Proofs.Host.Faults
import DesiredState.Proofs.Host.Numbering
import DesiredState.Proofs.Host.Provider
import DesiredState.Proofs.Host.Titles
import DesiredState.Proofs.Machine.Computer
import DesiredState.Proofs.Manifest.Discovery
import DesiredState.Proofs.Manifest.Names
import DesiredState.Proofs.Manifest.Remarks
import DesiredState.Proofs.Manifest.Validation
import DesiredState.Proofs.Reconcile.Agreement
import DesiredState.Proofs.Reconcile.Cancellation
import DesiredState.Proofs.Reconcile.Convergence
import DesiredState.Proofs.Reconcile.Deletion
import DesiredState.Proofs.Reconcile.Deployment
import DesiredState.Proofs.Reconcile.Discipline
import DesiredState.Proofs.Reconcile.Disposal
import DesiredState.Proofs.Reconcile.Encounter
import DesiredState.Proofs.Reconcile.Ensures
import DesiredState.Proofs.Reconcile.Footprint
import DesiredState.Proofs.Reconcile.History
import DesiredState.Proofs.Reconcile.Idempotence
import DesiredState.Proofs.Reconcile.Keeps
import DesiredState.Proofs.Reconcile.Lasting
import DesiredState.Proofs.Reconcile.Lifecycle
import DesiredState.Proofs.Reconcile.Locality
import DesiredState.Proofs.Reconcile.Ownership
import DesiredState.Proofs.Reconcile.Parallel
import DesiredState.Proofs.Reconcile.Partial
import DesiredState.Proofs.Reconcile.Parts
import DesiredState.Proofs.Reconcile.Recovery
import DesiredState.Proofs.Reconcile.Requests
import DesiredState.Proofs.Reconcile.Simulation
import DesiredState.Proofs.Reconcile.SnapshotName
import DesiredState.Proofs.Reconcile.Sync
import DesiredState.Proofs.Reconcile.Timeless
import DesiredState.Proofs.Reconcile.Trace
import DesiredState.Proofs.Reconcile.Yields
import DesiredState.Proofs.Record.Accord
import DesiredState.Proofs.Record.Documents
import DesiredState.Proofs.Record.Edits
import DesiredState.Proofs.Record.Release
import DesiredState.Proofs.Record.Repeat
import DesiredState.Proofs.Record.Runs
import DesiredState.Proofs.Record.Store
import DesiredState.Proofs.Resource.CloudFunction
import DesiredState.Proofs.Resource.CryptoKey
import DesiredState.Proofs.Resource.Database
import DesiredState.Proofs.Resource.Difference
import DesiredState.Proofs.Resource.DnsZone
import DesiredState.Proofs.Resource.Documents
import DesiredState.Proofs.Resource.Kind
import DesiredState.Proofs.Resource.Laws
import DesiredState.Proofs.Resource.LeastPlan
import DesiredState.Proofs.Resource.Preparation
import DesiredState.Proofs.Resource.Queue
import DesiredState.Proofs.Resource.Server
import DesiredState.Proofs.Resource.Settled
import DesiredState.Proofs.Resource.Table
import DesiredState.Proofs.Resource.TagPlan
import DesiredState.Proofs.Text.Lowercase
import DesiredState.Proofs.Text.Trim
import DesiredState.Proofs.Time.Instant
