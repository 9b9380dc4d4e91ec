import Haulage.Access.Options
import Haulage.Access.Shown
import Haulage.ByteSize
import Haulage.Command.Arguments
import Haulage.Command.ExitCode
import Haulage.Command.Options
import Haulage.Command.Report
import Haulage.Command.Run
import Haulage.Command.Tool
import Haulage.Decimal.Binary64
import Haulage.Decimal.Rounding
import Haulage.Deletion
import Haulage.Environment
import Haulage.Fault
import Haulage.Files.Change
import Haulage.Files.Fault
import Haulage.Files.Route
import Haulage.Files.Tree
import Haulage.Files.Walk
import Haulage.Json.Value
import Haulage.Main
import Haulage.Output.Console
import Haulage.S3.Client
import Haulage.S3.ContentType
import Haulage.S3.Resolver
import Haulage.S3.Role
import Haulage.S3.Service
import Haulage.Settings.Basic
import Haulage.Settings.Load
import Haulage.Settings.Location
import Haulage.Settings.Mismatch
import Haulage.Settings.Schema
import Haulage.Storage.Object
import Haulage.Storage.Path
import Haulage.Storage.Rehearsal
import Haulage.Storage.Store
import Haulage.Text.CodePoints
import Haulage.Text.GraphemeExtend
import Haulage.Text.Printable
import Haulage.Text.Quoted
import Haulage.Text.Record
import Haulage.Text.Trim
import Haulage.Toml.Quoted
import Haulage.Toml.Reader
import Haulage.Toml.Scalar
import Haulage.Toml.Table
import Haulage.Toml.Value
import Haulage.Transfer
import Haulage.Url.Address
import Haulage.Url.Domain
import Haulage.Url.Domain.Composition
import Haulage.Url.Domain.Direction
import Haulage.Url.Domain.Joining
import Haulage.Url.Domain.Mapping
import Haulage.Url.Domain.Punycode
import Haulage.Url.Error
import Haulage.Url.Syntax
import Haulage.Proofs.Deletion.Run
import Haulage.Proofs.Deletion.Success
import Haulage.Proofs.Storage.Keys
import Haulage.Proofs.Deletion.Emptying
import Haulage.Proofs.Deletion.Sharing
import Haulage.Proofs.Files.Change
import Haulage.Proofs.Files.Copying
import Haulage.Proofs.Transfer.Source
import Haulage.Proofs.Files.Clearing
import Haulage.Proofs.Files.Passing
import Haulage.Proofs.Files.Spelling
import Haulage.Proofs.Deletion.Disk
import Haulage.Proofs.Deletion.Trace
import Haulage.Proofs.Storage.Mishap
import Haulage.Proofs.Deletion.Resuming
import Haulage.Proofs.Storage.Filling
import Haulage.Proofs.Storage.Joining
import Haulage.Proofs.Storage.Nesting
import Haulage.Proofs.Transfer.Upload
import Haulage.Proofs.Transfer.Fidelity
import Haulage.Proofs.Transfer.Frame
import Haulage.Proofs.S3.Sending
import Haulage.Proofs.Command.Endpoint
import Haulage.Proofs.S3.Exchange
import Haulage.Proofs.S3.Resolving
import Haulage.Proofs.S3.Addressing
import Haulage.Proofs.Command.Checks
import Haulage.Proofs.S3.Rounds
import Haulage.Proofs.S3.Outcome
import Haulage.Proofs.S3.Script
import Haulage.Proofs.S3.Failing
import Haulage.Proofs.Command.Counting
import Haulage.Proofs.Storage.Grammar
import Haulage.Proofs.S3.Putting
import Haulage.Proofs.Transfer.Delivery
import Haulage.Proofs.Transfer.Naming
import Haulage.Json.Reader
import Haulage.Proofs.Access.Rules
import Haulage.Proofs.Command.Ended
import Haulage.Proofs.Command.Faults
import Haulage.Proofs.Command.Method
import Haulage.Proofs.Command.Output
import Haulage.Proofs.Deletion.Spellings
import Haulage.Proofs.Deletion.Repetition
import Haulage.Proofs.Files.Standing
import Haulage.Proofs.Command.Secrecy
import Haulage.Proofs.Transfer.Repetition
import Haulage.Proofs.Files.Faults
import Haulage.Proofs.Transfer.Sameness
import Haulage.Proofs.Toml.Distinct
import Haulage.Proofs.Toml.Agreement
import Haulage.Proofs.Settings.Loading
import Haulage.Proofs.Settings.Acceptance
import Haulage.Proofs.Settings.Newer
import Haulage.Proofs.Command.Arguments
import Haulage.Proofs.Command.Blanks
