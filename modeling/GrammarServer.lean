import GrammarServer.Crash
import GrammarServer.Text.Line
import GrammarServer.Text.Identifier
import GrammarServer.Text.Position
import GrammarServer.Text.Blank
import GrammarServer.Text.Utf8
import GrammarServer.Text.Split
import GrammarServer.Text.CodeTable
import GrammarServer.Text.CaseTable
import GrammarServer.Text.Lowercase
import GrammarServer.Text.ComposeTable
import GrammarServer.Text.Compose
import GrammarServer.Text.DirectionTable
import GrammarServer.Json.Basic
import GrammarServer.Json.Printer
import GrammarServer.Json.Fault
import GrammarServer.Json.NumberLiteral
import GrammarServer.Json.StringLiteral
import GrammarServer.Json.Token
import GrammarServer.Json.Reading
import GrammarServer.Json.Decoder
import GrammarServer.Grammar.Basic
import GrammarServer.Grammar.Decoder
import GrammarServer.Grammar.Index
import GrammarServer.Offense
import GrammarServer.Diagnostic
import GrammarServer.Uri.Percent
import GrammarServer.Uri.DomainTable
import GrammarServer.Uri.Label
import GrammarServer.Uri.Domain
import GrammarServer.Uri.Host
import GrammarServer.Uri.Basic
import GrammarServer.Uri.Parser
import GrammarServer.Uri.FilePath
import GrammarServer.Document.Basic
import GrammarServer.Document.Store
import GrammarServer.Engine.Basic
import GrammarServer.Feature.Hover
import GrammarServer.Feature.Completion
import GrammarServer.Feature.References
import GrammarServer.Feature.Outline
import GrammarServer.Feature.Folding
import GrammarServer.Feature.Highlight
import GrammarServer.Feature.Search
import GrammarServer.Feature.Analysis
import GrammarServer.Engine.Scripted
import GrammarServer.Engine.Command
import GrammarServer.Settings
import GrammarServer.Server.Message
import GrammarServer.Server.Step
import GrammarServer.Protocol.Encode
import GrammarServer.Protocol.Value
import GrammarServer.Protocol.Shape
import GrammarServer.Protocol.Part
import GrammarServer.Protocol.Capability
import GrammarServer.Protocol.Request
import GrammarServer.Protocol.Params
import GrammarServer.Protocol.Connection
import GrammarServer.Protocol.Frame
import GrammarServer.CommandLine
import GrammarServer.Main
import GrammarServer.Proofs.History
import GrammarServer.Proofs.Effect
import GrammarServer.Proofs.GrammarCache
import GrammarServer.Proofs.Publication
import GrammarServer.Proofs.WholeWord
import GrammarServer.Proofs.Occurrence
import GrammarServer.Proofs.Pointing
import GrammarServer.Proofs.LineCut
import GrammarServer.Proofs.TextEdit
import GrammarServer.Proofs.WordReplacement
import GrammarServer.Proofs.WordEdit
import GrammarServer.Proofs.Rename
import GrammarServer.Proofs.Cursor
import GrammarServer.Proofs.Highlighting
import GrammarServer.Proofs.Outline
import GrammarServer.Proofs.Ranking
import GrammarServer.Proofs.DeclaredPlace
import GrammarServer.Proofs.Locality
import GrammarServer.Proofs.Replay
import GrammarServer.Proofs.Isolation
import GrammarServer.Proofs.Reparsing
import GrammarServer.Proofs.TamedEngine
import GrammarServer.Proofs.MessageFrame
import GrammarServer.Proofs.SessionLife
import GrammarServer.Proofs.IndexedScan
import GrammarServer.Proofs.CrashConditions
import GrammarServer.Proofs.JsonLiteral
import GrammarServer.Proofs.JsonText
import GrammarServer.Proofs.RecordForm
import GrammarServer.Proofs.EngineShape
import GrammarServer.Proofs.StableSort
import GrammarServer.Proofs.TokenShape
import GrammarServer.Proofs.Lexing
import GrammarServer.Proofs.TokenOrder
import GrammarServer.Proofs.ReferenceOrder
import GrammarServer.Proofs.WholeEdit
import GrammarServer.Proofs.BraceBalance
import GrammarServer.Proofs.CommentBlocks
import GrammarServer.Proofs.RuleTiling
import GrammarServer.Proofs.FoldMerge
import GrammarServer.Proofs.IdentifierRun
import GrammarServer.Proofs.NamePlacement
import GrammarServer.Proofs.FixAll
