import ShardDump.Binary64.Basic
import ShardDump.Binary64.Round
import ShardDump.Binary64.Shortest
import ShardDump.Bytes
import ShardDump.Text.Decimal
import ShardDump.Text.Case
import ShardDump.Cli.Choice
import ShardDump.Cli.Grammar
import ShardDump.Cli.Similarity
import ShardDump.Cli.Arguments
import ShardDump.Cli.Invocation
import ShardDump.Text.Printable
import ShardDump.Text.Literal
import ShardDump.Yaml.Scalar
import ShardDump.Yaml.Mark
import ShardDump.Yaml.Cursor
import ShardDump.Yaml.Token
import ShardDump.Yaml.Token.Scalar
import ShardDump.Yaml.Token.Property
import ShardDump.Yaml.Token.Directive
import ShardDump.Yaml.Token.Lexer
import ShardDump.Yaml.Event
import ShardDump.Yaml.Event.Reader
import ShardDump.Yaml.Document
import ShardDump.IoError
import ShardDump.DumpError
import ShardDump.Report
import ShardDump.Disk.Path
import ShardDump.Disk.Basic
import ShardDump.Disk.Files
import ShardDump.Settings
import ShardDump.Layout
import ShardDump.VectorPayload
import ShardDump.Frame.Basic
import ShardDump.Record
import ShardDump.ShardPlan
import ShardDump.Export
import ShardDump.Frame.Stream
import ShardDump.Disk.BufferedReader
import ShardDump.Reader.Basic
import ShardDump.Reader.Ids
import ShardDump.Reader.Frames
import ShardDump.Reader.Records
import ShardDump.Inspect
import ShardDump.Json.Value
import ShardDump.Json.Reader
import ShardDump.Text.Utf8
import ShardDump.Json.RecordLine
import ShardDump.Cli.Commands
import ShardDump.Frame.Chunked
import ShardDump.Main
import ShardDump.Proofs.Pulls
import ShardDump.Proofs.FrameReading
import ShardDump.Proofs.FrameRuns
import ShardDump.Proofs.BufferedReading
import ShardDump.Proofs.DiskTree
import ShardDump.Proofs.FileReaders
import ShardDump.Proofs.WrittenFiles
import ShardDump.Proofs.FileContents
import ShardDump.Proofs.LockStep
import ShardDump.Proofs.Inspection
import ShardDump.Proofs.DumpLayout
import ShardDump.Proofs.ExportSteps
import ShardDump.Proofs.ExportRun
import ShardDump.Proofs.RoundTrip
import ShardDump.Proofs.ExportFailure
import ShardDump.Proofs.ExportCommand
import ShardDump.Proofs.LossyDecoding
import ShardDump.Proofs.CliRoundTrip
import ShardDump.Proofs.FrameCodec
import ShardDump.Proofs.ExportLayout
import ShardDump.Proofs.ShardCounts
import ShardDump.Proofs.ReadFailures
import ShardDump.Proofs.ShardPlanning
import ShardDump.Proofs.ImportOutput
import ShardDump.Proofs.ShardDiscovery
import ShardDump.Proofs.VectorCodec
import ShardDump.Proofs.ShardWriting
