import FontScores.Number.Arithmetic
import FontScores.Number.Numeral
import FontScores.Text.Blank
import FontScores.Text.Lines
import FontScores.Text.Quoted
import FontScores.Unicode.Letters
import FontScores.Unicode.Numerals
import FontScores.Unicode.Words
import FontScores.Unicode.Folding
import FontScores.DesignSpace.Spec
import FontScores.Tagging.Font
import FontScores.Tag.Catalogue
import FontScores.Pattern.Match
import FontScores.Text.Taken
import FontScores.Pattern.Token
import FontScores.Pattern.Parser
import FontScores.Rule.Lexer
import FontScores.Rule.Parser
import FontScores.Lint.RuleTable
import FontScores.Exemplar.Memo
import FontScores.Similarity.Index
import FontScores.Table.Fields
import FontScores.Table.Bounds
import FontScores.Table.Taggings
import FontScores.Json.Numeral
import FontScores.Json.Reader
import FontScores.Json.Decode
import FontScores.Json.Value
import FontScores.Reference.Registry
import FontScores.Library.Import
import FontScores.Report.Encode
import FontScores.Service.Router
import FontScores.Command.Run
import FontScores.Main
import FontScores.Proofs.Library.Exemplars
import FontScores.Proofs.Library.Consistency
import FontScores.Proofs.Library.Reimport
import FontScores.Proofs.Rule.Meaning
import FontScores.Proofs.Rule.Acceptance
import FontScores.Proofs.Json.Reading
import FontScores.Proofs.Service.Invisible
import FontScores.Proofs.Service.Discipline
import FontScores.Proofs.Service.Reimport
import FontScores.Proofs.Library.Filling
import FontScores.Proofs.Library.Absorption
import FontScores.Proofs.Library.Rearrangement
import FontScores.Proofs.Library.Effects
import FontScores.Proofs.Service.RequestAsRow
import FontScores.Proofs.Library.Independence
import FontScores.Proofs.Rule.Composition
import FontScores.Proofs.Rule.Lookahead
import FontScores.Proofs.Rule.ErrorPlace
import FontScores.Proofs.Library.Representable
import FontScores.Proofs.Table.NormalForm
import FontScores.Proofs.Exemplar.Selection
import FontScores.Proofs.Reference.Reordering
import FontScores.Proofs.Library.Accounting
import FontScores.Proofs.Library.Pieces
import FontScores.Proofs.Library.Entrywise
import FontScores.Proofs.Rule.Nesting
import FontScores.Proofs.Reference.Merging
import FontScores.Proofs.Reference.ScoreRange
import FontScores.Proofs.Similarity.SelfDistance
import FontScores.Proofs.Similarity.Components
import FontScores.Proofs.DesignSpace.Sameness
import FontScores.Proofs.DesignSpace.NormalForm
import FontScores.Proofs.DesignSpace.Names
import FontScores.Proofs.Tagging.FirstScore
import FontScores.Proofs.Table.Rules
import FontScores.Proofs.Rule.Monotone
import FontScores.Proofs.Library.Warnings
