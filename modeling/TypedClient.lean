import TypedClient.Main
import TypedClient.Files.Store
import TypedClient.Text.Lowercase
import TypedClient.Proofs.Grouping
import TypedClient.Proofs.Text.CaseMapping
import TypedClient.Proofs.Text.WordCharacters
import TypedClient.Proofs.Naming.Names
import TypedClient.Proofs.Naming.Freshness
import TypedClient.Proofs.Text.CommentSafety
import TypedClient.Proofs.Script.Lexeme
import TypedClient.Proofs.TypeExpr.Shape
import TypedClient.Proofs.Naming.Registry
import TypedClient.Proofs.Script.TypeText
import TypedClient.Proofs.Artifact.Layout
import TypedClient.Proofs.Client.Signatures
import TypedClient.Proofs.Client.Declared
import TypedClient.Proofs.Artifact.Assembly
import TypedClient.Proofs.Artifact.ClosedNames
import TypedClient.Proofs.Script.CommentBlock
import TypedClient.Proofs.Script.ArtifactText
import TypedClient.Proofs.Artifact.ConfinedText
import TypedClient.Proofs.Script.Token
import TypedClient.Proofs.TypeExpr.Reader
import TypedClient.Proofs.TypeExpr.Faithful
import TypedClient.Proofs.Document.DistinctKeys
import TypedClient.Proofs.Document.Pointers
import TypedClient.Proofs.TypeExpr.Expansion
import TypedClient.Proofs.TypeExpr.CycleGuard
import TypedClient.Proofs.Client.Strictness
import TypedClient.Proofs.Artifact.GivenNames
import TypedClient.Proofs.Artifact.Failures
import TypedClient.Proofs.Artifact.StrictNaming
import TypedClient.Proofs.Artifact.Entries
import TypedClient.Proofs.Naming.History
import TypedClient.Proofs.Client.Correspondence
import TypedClient.Proofs.Files.Places
import TypedClient.Proofs.Files.Frame
import TypedClient.Proofs.Files.Writing
import TypedClient.Proofs.Generation
import TypedClient.Proofs.CommandLine.Run
import TypedClient.Proofs.TypeExpr.Modes
import TypedClient.Proofs.Json.Pointer
import TypedClient.Proofs.Document.Resolution
import TypedClient.Proofs.Naming.Continuation
import TypedClient.Proofs.Client.Continuation
import TypedClient.Proofs.Artifact.Continuation
import TypedClient.Proofs.Text.Lowercase
import TypedClient.Proofs.Artifact.LetterCase
import TypedClient.Proofs.Text.CaseForms
import TypedClient.Proofs.Text.Recasing
import TypedClient.Proofs.Naming.SecondPass
import TypedClient.Proofs.Artifact.Verbatim
import TypedClient.Proofs.Artifact.Isolation
import TypedClient.Proofs.Document.RawSchema
import TypedClient.Proofs.Script.OneLine
import TypedClient.Proofs.TypeExpr.Members
import TypedClient.Proofs.Text.Numerals
import TypedClient.Proofs.Naming.FirstCharacter
import TypedClient.Proofs.Naming.ReservedWords
import TypedClient.Proofs.Template.Sources
import TypedClient.Proofs.TypeExpr.Mentions
import TypedClient.Proofs.Artifact.AliasCycles
import TypedClient.Proofs.Script.PropertyName
import TypedClient.Proofs.Script.CommentForm
import TypedClient.Proofs.Text.WordBoundaries
import TypedClient.Proofs.Text.SnakePass
import TypedClient.Proofs.Naming.SnakeSpelling
import TypedClient.Proofs.Decimal.HexDigits
import TypedClient.Proofs.Json.ReadBack
import TypedClient.Config.Basic
import TypedClient.Proofs.Toml.Lines
import TypedClient.Proofs.Yaml.Characters
import TypedClient.Proofs.Yaml.DoubleQuoted
import TypedClient.Proofs.Yaml.Plain
import TypedClient.Proofs.Yaml.SingleQuoted
import TypedClient.Proofs.Yaml.Block
import TypedClient.Proofs.Yaml.Keys
import TypedClient.Proofs.Yaml.Tokens
import TypedClient.Proofs.Yaml.Document
import TypedClient.Proofs.Files.ReadBack
import TypedClient.Proofs.Config.Settings
import TypedClient.Proofs.Config.Entries
import TypedClient.Proofs.Config.RoundTrip

