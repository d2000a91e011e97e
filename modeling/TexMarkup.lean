import TexMarkup.Lint
import TexMarkup.Node.Walk
import TexMarkup.Render
import TexMarkup.Proofs.Parser.Machine
import TexMarkup.Proofs.Parser.Refinement
import TexMarkup.Proofs.Parser.Place
import TexMarkup.Proofs.Parser.Reuse
import TexMarkup.Proofs.Parser.BlankLine
import TexMarkup.Proofs.Parser.Braces
import TexMarkup.Proofs.Parser.Trace
import TexMarkup.Proofs.Parser.Lookahead
import TexMarkup.Proofs.Token.Canonical
import TexMarkup.Proofs.Document.Canonical
import TexMarkup.Proofs.Document.Names
import TexMarkup.Proofs.Document.Tokens
import TexMarkup.Proofs.Document.Image
import TexMarkup.Proofs.Document.RoundTrip
import TexMarkup.Proofs.Document.Separator
import TexMarkup.Proofs.Document.MissingName
import TexMarkup.Proofs.Document.Spelling
import TexMarkup.Proofs.Text.Collapse
import TexMarkup.Proofs.Html.Balanced
import TexMarkup.Proofs.Html.Marker
import TexMarkup.Proofs.Html.Safety
import TexMarkup.Proofs.Html.Target
import TexMarkup.Proofs.Evaluation.Command
import TexMarkup.Proofs.Evaluation.Host
import TexMarkup.Proofs.Evaluation.Lockstep
import TexMarkup.Proofs.Evaluation.Written
import TexMarkup.Proofs.Evaluation.Output
import TexMarkup.Proofs.Evaluation.Consulted
import TexMarkup.Proofs.Evaluation.History
import TexMarkup.Proofs.Evaluation.Isolation
import TexMarkup.Proofs.Evaluation.PlainText
import TexMarkup.Proofs.Evaluation.LinkTarget
import TexMarkup.Proofs.Evaluation.VisibleError
import TexMarkup.Proofs.Lint.Line
import TexMarkup.Proofs.Document.Limit
import TexMarkup.Proofs.Evaluation.Failure
import TexMarkup.Proofs.Evaluation.Account
import TexMarkup.Proofs.Evaluation.Once
import TexMarkup.Proofs.Evaluation.EntityReference
import TexMarkup.Proofs.Lint.Agreement
import TexMarkup.Proofs.Lint.EntryPoint
import TexMarkup.Proofs.Evaluation.Depth
import TexMarkup.Proofs.Evaluation.Selection
import TexMarkup.Proofs.Evaluation.Operand
import TexMarkup.Proofs.Evaluation.NumericOperand
import TexMarkup.Proofs.Evaluation.Level
import TexMarkup.Proofs.Evaluation.TruthTable
import TexMarkup.Proofs.Text.Distance
import TexMarkup.Proofs.Lint.Suggestion
import TexMarkup.Proofs.Lint.SourceOrder
import TexMarkup.Proofs.Number.Rounding
import TexMarkup.Proofs.Number.Magnitude
import TexMarkup.Proofs.Number.Denotation
import TexMarkup.Proofs.Number.Text
import TexMarkup.Proofs.Number.FewestDigits
import TexMarkup.Proofs.Number.Shortest
import TexMarkup.Proofs.Evaluation.NumericResult
import TexMarkup.Proofs.Evaluation.Formatting
import TexMarkup.Proofs.Evaluation.Alias
import TexMarkup.Proofs.Document.Preorder
import TexMarkup.Proofs.Lint.Listing
import TexMarkup.Proofs.Html.Escape
import TexMarkup.Proofs.Evaluation.Comparison
