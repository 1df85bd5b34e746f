import ServiceLang.Analyzer
import ServiceLang.CommandLine
import ServiceLang.Feature.Cursor
import ServiceLang.Feature.Hover
import ServiceLang.Feature.Snippets
import ServiceLang.Feature.Symbols
import ServiceLang.Files.Disk
import ServiceLang.Files.LogFile
import ServiceLang.Files.Path
import ServiceLang.Files.Tree
import ServiceLang.Json.Basic
import ServiceLang.Json.Double
import ServiceLang.Json.Parse
import ServiceLang.Json.Render
import ServiceLang.Keyed
import ServiceLang.Machine.Environment
import ServiceLang.Machine.Launch
import ServiceLang.Machine.Program
import ServiceLang.Machine.Shell.Command
import ServiceLang.Machine.Shell.Run
import ServiceLang.Machine.Shell.Token
import ServiceLang.Main
import ServiceLang.Outline.Basic
import ServiceLang.Outline.Index
import ServiceLang.Outline.Pattern
import ServiceLang.Outline.Scan
import ServiceLang.Proofs.Agreement.Heads
import ServiceLang.Proofs.Agreement.Hover
import ServiceLang.Proofs.Agreement.Margin
import ServiceLang.Proofs.Agreement.Methods
import ServiceLang.Proofs.Agreement.Neutral
import ServiceLang.Proofs.Agreement.Port
import ServiceLang.Proofs.Analysis.Located
import ServiceLang.Proofs.Analysis.Messages
import ServiceLang.Proofs.Feature.Cursor
import ServiceLang.Proofs.Feature.Hover
import ServiceLang.Proofs.Feature.Symbols
import ServiceLang.Proofs.Files.Generations
import ServiceLang.Proofs.Files.LogDir
import ServiceLang.Proofs.Files.LogRun
import ServiceLang.Proofs.Files.Parent
import ServiceLang.Proofs.Files.Path
import ServiceLang.Proofs.Files.Rotation
import ServiceLang.Proofs.Files.Tree
import ServiceLang.Proofs.Indices
import ServiceLang.Proofs.Json.Scalar
import ServiceLang.Proofs.Json.Value
import ServiceLang.Proofs.Keyed
import ServiceLang.Proofs.Outcome
import ServiceLang.Proofs.Outline.Blocks
import ServiceLang.Proofs.Outline.Compose
import ServiceLang.Proofs.Outline.Index
import ServiceLang.Proofs.Outline.Pattern
import ServiceLang.Proofs.Outline.Scan
import ServiceLang.Proofs.Protocol.Record
import ServiceLang.Proofs.Protocol.RoundTrip
import ServiceLang.Proofs.Publishing.Desk
import ServiceLang.Proofs.Publishing.Entries
import ServiceLang.Proofs.Publishing.Latest
import ServiceLang.Proofs.Publishing.Order
import ServiceLang.Proofs.Publishing.Store
import ServiceLang.Proofs.Rpc.Frame
import ServiceLang.Proofs.Rpc.Message
import ServiceLang.Proofs.Run
import ServiceLang.Proofs.Server.Alike
import ServiceLang.Proofs.Server.Desk
import ServiceLang.Proofs.Server.Independence
import ServiceLang.Proofs.Server.Latest
import ServiceLang.Proofs.Server.Lifecycle
import ServiceLang.Proofs.Server.Progress
import ServiceLang.Proofs.Server.Queries
import ServiceLang.Proofs.Server.Replies
import ServiceLang.Proofs.Server.Run
import ServiceLang.Proofs.Server.Schedule
import ServiceLang.Proofs.Server.Sent
import ServiceLang.Proofs.Server.Serving
import ServiceLang.Proofs.Server.Stream
import ServiceLang.Proofs.Service.Blocks
import ServiceLang.Proofs.Service.Check
import ServiceLang.Proofs.Service.Compose
import ServiceLang.Proofs.Service.Faults
import ServiceLang.Proofs.Service.Grammar
import ServiceLang.Proofs.Service.Head
import ServiceLang.Proofs.Service.Lexical
import ServiceLang.Proofs.Service.Numbering
import ServiceLang.Proofs.Service.Parse
import ServiceLang.Proofs.Service.Rendering
import ServiceLang.Proofs.Service.Reparse
import ServiceLang.Proofs.Settings.Comments
import ServiceLang.Proofs.Settings.Layers
import ServiceLang.Proofs.Settings.Readings
import ServiceLang.Proofs.Settings.Template
import ServiceLang.Proofs.Settings.Workspace
import ServiceLang.Proofs.Text.Lines
import ServiceLang.Proofs.Text.Number
import ServiceLang.Proofs.Text.Scan
import ServiceLang.Proofs.Text.Utf16
import ServiceLang.Proofs.Text.Utf8
import ServiceLang.Proofs.Toml.Distinct
import ServiceLang.Proofs.Toml.Equality
import ServiceLang.Proofs.Toml.Marked
import ServiceLang.Proofs.Toml.Overlay
import ServiceLang.Proofs.Toml.Paths
import ServiceLang.Protocol.Capabilities
import ServiceLang.Protocol.Completion
import ServiceLang.Protocol.Decode
import ServiceLang.Protocol.Diagnostic
import ServiceLang.Protocol.DocumentSymbol
import ServiceLang.Protocol.Hover
import ServiceLang.Protocol.Notice
import ServiceLang.Protocol.Params
import ServiceLang.Protocol.Place
import ServiceLang.Protocol.Record
import ServiceLang.Rpc.Error
import ServiceLang.Rpc.Frame
import ServiceLang.Rpc.Message
import ServiceLang.Server.Basic
import ServiceLang.Server.Documents
import ServiceLang.Server.Method
import ServiceLang.Server.Outbox
import ServiceLang.Server.Publisher
import ServiceLang.Server.Serve
import ServiceLang.Server.Session
import ServiceLang.Service.Basic
import ServiceLang.Service.Check
import ServiceLang.Service.Head
import ServiceLang.Service.Layout
import ServiceLang.Service.Parse
import ServiceLang.Service.SyntaxError
import ServiceLang.Settings.Basic
import ServiceLang.Settings.Command
import ServiceLang.Settings.Load
import ServiceLang.Settings.Toml
import ServiceLang.Text.Alphabetic
import ServiceLang.Text.CharSet
import ServiceLang.Text.Lines
import ServiceLang.Text.Mark
import ServiceLang.Text.Number
import ServiceLang.Text.Numeric
import ServiceLang.Text.Quoted
import ServiceLang.Text.Recent
import ServiceLang.Text.Space
import ServiceLang.Text.Span
import ServiceLang.Text.Utf16
import ServiceLang.Text.Utf8
import ServiceLang.Text.Visible
import ServiceLang.Text.Word
import ServiceLang.Toml.Basic
import ServiceLang.Toml.Build
import ServiceLang.Toml.Date
import ServiceLang.Toml.Marked
import ServiceLang.Toml.Number
import ServiceLang.Toml.Overlay
import ServiceLang.Toml.Parse
import ServiceLang.Toml.Text
