import OrderPipeline.Attributes.Basic
import OrderPipeline.Calendar.Instant
import OrderPipeline.Column
import OrderPipeline.Command.Arguments
import OrderPipeline.Command.Basic
import OrderPipeline.Command.Lead
import OrderPipeline.Command.Reply
import OrderPipeline.Command.Task
import OrderPipeline.Dashboard
import OrderPipeline.Demo
import OrderPipeline.Digest.Blake3
import OrderPipeline.Engine
import OrderPipeline.Failure
import OrderPipeline.Form.Catalogue
import OrderPipeline.Form.Submission
import OrderPipeline.Host.Basic
import OrderPipeline.Json.Decode
import OrderPipeline.Json.Fault
import OrderPipeline.Json.Reader
import OrderPipeline.Json.Value
import OrderPipeline.Keyed
import OrderPipeline.Main
import OrderPipeline.Number.Binary64
import OrderPipeline.Number.DecimalReader
import OrderPipeline.Proofs.Storage.Session
import OrderPipeline.Proofs.Submission.History
import OrderPipeline.Proofs.Submission.Outcome
import OrderPipeline.Random.Generator
import OrderPipeline.Report.Readiness
import OrderPipeline.Settings.Source
import OrderPipeline.Report.Summary
import OrderPipeline.Report.Table
import OrderPipeline.Stage
import OrderPipeline.Storage.Archive
import OrderPipeline.Storage.Backing
import OrderPipeline.Storage.Connection
import OrderPipeline.Storage.Database
import OrderPipeline.Storage.Location
import OrderPipeline.Storage.Store
import OrderPipeline.Text.Basic
import OrderPipeline.Text.Lower
import OrderPipeline.Toml.Document
import OrderPipeline.Tracker
import OrderPipeline.Proofs.Engine.Progress
import OrderPipeline.Proofs.Engine.Journal
import OrderPipeline.Proofs.Command.Process
import OrderPipeline.Proofs.Validity.Value
import OrderPipeline.Proofs.Validity.Demo
import OrderPipeline.Proofs.Validity.Input
import OrderPipeline.Proofs.Validity.Saved
import OrderPipeline.Proofs.Engine.Exchange
import OrderPipeline.Proofs.Settings.Listing
import OrderPipeline.Proofs.Command.Success
import OrderPipeline.Proofs.Storage.Integrity
import OrderPipeline.Proofs.Engine.Feed
import OrderPipeline.Proofs.Engine.Chronology
import OrderPipeline.Proofs.Text.ByteOrder
import OrderPipeline.Proofs.Form.Pairs
import OrderPipeline.Proofs.Form.HandedOver
import OrderPipeline.Proofs.Form.Reading
import OrderPipeline.Proofs.Form.Numbers
import OrderPipeline.Proofs.Amount.Balance
import OrderPipeline.Proofs.Amount.Revenue
import OrderPipeline.Proofs.Dashboard.Counts
import OrderPipeline.Proofs.Engine.Frame
import OrderPipeline.Proofs.Settings.Rules
import OrderPipeline.Proofs.Access.Login
import OrderPipeline.Proofs.Text.Lowering
import OrderPipeline.Proofs.Text.Search
import OrderPipeline.Proofs.Settings.FileValues
import OrderPipeline.Proofs.Settings.Precedence
import OrderPipeline.Proofs.Toml.Frame
import OrderPipeline.Proofs.Toml.Strings
import OrderPipeline.Proofs.Toml.Scalars
import OrderPipeline.Proofs.Toml.Values
import OrderPipeline.Proofs.Toml.Lines
import OrderPipeline.Proofs.Toml.Changes
import OrderPipeline.Proofs.Toml.Places
import OrderPipeline.Proofs.Settings.Expressions
import OrderPipeline.Proofs.Settings.Verbatim
import OrderPipeline.Proofs.Engine.Movement
import OrderPipeline.Proofs.Report.Logged
import OrderPipeline.Proofs.Report.Typed
import OrderPipeline.Proofs.Report.Layout
import OrderPipeline.Proofs.Settings.Pieces
import OrderPipeline.Proofs.Attributes.Merge
import OrderPipeline.Proofs.Settings.Secrets
import OrderPipeline.Proofs.Report.Verdict
