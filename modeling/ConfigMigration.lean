import ConfigMigration.CommandLine.Execution
import ConfigMigration.CommandLine.Failure
import ConfigMigration.CommandLine.Invocation
import ConfigMigration.CommandLine.Options
import ConfigMigration.CommandLine.Program
import ConfigMigration.CommandLine.Report
import ConfigMigration.Credentials.Certificate
import ConfigMigration.Credentials.CurveKey
import ConfigMigration.Credentials.PrivateKey
import ConfigMigration.Credentials.PublicKey
import ConfigMigration.Credentials.RsaKey
import ConfigMigration.Credentials.Section
import ConfigMigration.Curve.Edwards
import ConfigMigration.Curve.Field
import ConfigMigration.Curve.Weierstrass
import ConfigMigration.Der
import ConfigMigration.DeviceGroup.Basic
import ConfigMigration.DeviceGroup.Sample
import ConfigMigration.DeviceGroup.Step
import ConfigMigration.Dictionary
import ConfigMigration.Digest.Sha512
import ConfigMigration.Event
import ConfigMigration.Files
import ConfigMigration.Gateway.Address
import ConfigMigration.Gateway.Answer
import ConfigMigration.Gateway.Client
import ConfigMigration.Gateway.Credentials
import ConfigMigration.Gateway.Head
import ConfigMigration.Gateway.Host
import ConfigMigration.Gateway.Message
import ConfigMigration.Gateway.Network
import ConfigMigration.Gateway.Redirection
import ConfigMigration.Identifier
import ConfigMigration.Interval
import ConfigMigration.Json.Basic
import ConfigMigration.Json.Decoder
import ConfigMigration.Json.Fault
import ConfigMigration.Json.Numeral
import ConfigMigration.Json.Printer
import ConfigMigration.Json.Term
import ConfigMigration.Json.Token
import ConfigMigration.Log.Filter
import ConfigMigration.Log.Format
import ConfigMigration.Main
import ConfigMigration.Migration.Action
import ConfigMigration.Migration.Chain
import ConfigMigration.Migration.Error
import ConfigMigration.Migration.Run
import ConfigMigration.Migration.Scripted
import ConfigMigration.Migration.Step
import ConfigMigration.Number.Basic
import ConfigMigration.Number.Binary64
import ConfigMigration.Number.Rounding
import ConfigMigration.Number.Shortest
import ConfigMigration.Path.Basic
import ConfigMigration.Path.Codec
import ConfigMigration.Path.Parser
import ConfigMigration.Pattern.Reader
import ConfigMigration.Pattern.Set
import ConfigMigration.Pattern.Sign
import ConfigMigration.Proofs.CommandLine.Report
import ConfigMigration.Proofs.DeviceGroup.Blocks
import ConfigMigration.Proofs.DeviceGroup.CrashSafety
import ConfigMigration.Proofs.DeviceGroup.CrossTarget
import ConfigMigration.Proofs.DeviceGroup.Effects
import ConfigMigration.Proofs.DeviceGroup.InPlace
import ConfigMigration.Proofs.DeviceGroup.Migration
import ConfigMigration.Proofs.DeviceGroup.Presence
import ConfigMigration.Proofs.DeviceGroup.Reading
import ConfigMigration.Proofs.DeviceGroup.Removing
import ConfigMigration.Proofs.DeviceGroup.Renaming
import ConfigMigration.Proofs.DeviceGroup.Writing
import ConfigMigration.Proofs.Except
import ConfigMigration.Proofs.Gateway.AnswerFrame
import ConfigMigration.Proofs.Gateway.Frame
import ConfigMigration.Proofs.Gateway.Message
import ConfigMigration.Proofs.Gateway.TreeForms
import ConfigMigration.Proofs.Identifier
import ConfigMigration.Proofs.Identifier.Grammar
import ConfigMigration.Proofs.Identifier.Words
import ConfigMigration.Proofs.Interval
import ConfigMigration.Proofs.Interval.Canonical
import ConfigMigration.Proofs.Interval.Cover
import ConfigMigration.Proofs.Interval.Superseded
import ConfigMigration.Proofs.Json.Depth
import ConfigMigration.Proofs.Json.Member
import ConfigMigration.Proofs.Json.Numeral
import ConfigMigration.Proofs.Json.Record
import ConfigMigration.Proofs.Json.Term
import ConfigMigration.Proofs.Json.Value
import ConfigMigration.Proofs.Migration.Accounting
import ConfigMigration.Proofs.Migration.Composition
import ConfigMigration.Proofs.Migration.Reachability
import ConfigMigration.Proofs.Migration.Registration
import ConfigMigration.Proofs.Migration.Resolution
import ConfigMigration.Proofs.Migration.Schedule
import ConfigMigration.Proofs.Migration.Sequence
import ConfigMigration.Proofs.Migration.Stability
import ConfigMigration.Proofs.Path.Composition
import ConfigMigration.Proofs.Path.Decomposition
import ConfigMigration.Proofs.Path.RoundTrip
import ConfigMigration.Proofs.Path.Segments
import ConfigMigration.Proofs.Settings.Overlay
import ConfigMigration.Proofs.Store.Composites
import ConfigMigration.Proofs.Store.Replay
import ConfigMigration.Proofs.Store.Session
import ConfigMigration.Proofs.Store.Targets
import ConfigMigration.Proofs.Store.UniqueKeys
import ConfigMigration.Proofs.Tree.Child
import ConfigMigration.Proofs.Tree.Composites
import ConfigMigration.Proofs.Tree.Entries
import ConfigMigration.Proofs.Tree.FirstMatch
import ConfigMigration.Proofs.Tree.Laws
import ConfigMigration.Proofs.Tree.Rejection
import ConfigMigration.Proofs.Tree.Steps
import ConfigMigration.Proofs.Tree.UniqueKeys
import ConfigMigration.Proofs.WireForm
import ConfigMigration.Scalar
import ConfigMigration.Schema
import ConfigMigration.Settings.Basic
import ConfigMigration.Settings.Document
import ConfigMigration.Settings.Error
import ConfigMigration.Settings.Flags
import ConfigMigration.Store.Basic
import ConfigMigration.Store.Memory
import ConfigMigration.Text.Base64
import ConfigMigration.Text.Blank
import ConfigMigration.Text.Digit
import ConfigMigration.Text.Letter
import ConfigMigration.Text.Numeral
import ConfigMigration.Text.Printable
import ConfigMigration.Text.Quoted
import ConfigMigration.Toml.Basic
import ConfigMigration.Toml.Document
import ConfigMigration.Toml.Number
import ConfigMigration.Toml.Quoted
import ConfigMigration.Toml.Reader
import ConfigMigration.Toml.Table
import ConfigMigration.Tree
import ConfigMigration.Update
