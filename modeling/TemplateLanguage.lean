import TemplateLanguage.Analysis.Report
import TemplateLanguage.Diagnostic.Excerpt
import TemplateLanguage.Evaluation.Builtin
import TemplateLanguage.Proofs.Analysis.Repetition
import TemplateLanguage.Proofs.Interpolation.Acceptance
import TemplateLanguage.Proofs.Placement.Descent
import TemplateLanguage.Proofs.Template.Building
import TemplateLanguage.Proofs.Expr.Substitution
import TemplateLanguage.Proofs.Escape.Composition
import TemplateLanguage.Proofs.Interpolation.Completion
import TemplateLanguage.Proofs.Interpolation.Fault
import TemplateLanguage.Proofs.Decimal.Digits
import TemplateLanguage.Proofs.Expr.WellFormed
import TemplateLanguage.Proofs.Expr.Pieces
import TemplateLanguage.Proofs.Expr.Acceptance
import TemplateLanguage.Proofs.Expr.Reader
import TemplateLanguage.Proofs.Expr.Grouping
import TemplateLanguage.Proofs.Token.Boundary
import TemplateLanguage.Proofs.Token.Lookahead
import TemplateLanguage.Proofs.Interpolation.Concatenation
import TemplateLanguage.Proofs.Token.Longest
import TemplateLanguage.Proofs.Decimal.Order
import TemplateLanguage.Proofs.Token.Tokenization
import TemplateLanguage.Proofs.Value.Order
import TemplateLanguage.Proofs.Value.Equality
import TemplateLanguage.Proofs.Analysis.Session
import TemplateLanguage.Proofs.Declaration.Resolution
import TemplateLanguage.Proofs.Declaration.Variable
import TemplateLanguage.Proofs.Analysis.Independence
import TemplateLanguage.Proofs.Tree.Growth
import TemplateLanguage.Proofs.Escape.Balance
import TemplateLanguage.Proofs.Rounding.Nearest
import TemplateLanguage.Proofs.Decimal.Rounding
import TemplateLanguage.Proofs.Number.Rounding
import TemplateLanguage.Proofs.Binary.Spelling
import TemplateLanguage.Proofs.Decimal.Reading
import TemplateLanguage.Proofs.Decimal.Binary
import TemplateLanguage.Proofs.Number.Comparison
import TemplateLanguage.Proofs.Xml.Escaping
import TemplateLanguage.Proofs.Binary.Digits
import TemplateLanguage.Proofs.Number.Integral
import TemplateLanguage.Proofs.Token.Literal
import TemplateLanguage.Proofs.Decimal.Bracket
import TemplateLanguage.Proofs.Number.Bracket
import TemplateLanguage.Environment.Comparison
import TemplateLanguage.Diagnostic.Guarded
import TemplateLanguage.Proofs.Collation.Strength
import TemplateLanguage.Proofs.Xml.Unescaping
import TemplateLanguage.Proofs.Environment.Session
import TemplateLanguage.Proofs.Source.Position
import TemplateLanguage.Proofs.Diagnostic.Alignment
import TemplateLanguage.Proofs.Expr.Planting
import TemplateLanguage.Proofs.Analysis.Header
import TemplateLanguage.Interpolation.Guarded
import TemplateLanguage.Proofs.Interpolation.Passing
import TemplateLanguage.Proofs.Interpolation.Spacing
import TemplateLanguage.Proofs.Interpolation.Place
import TemplateLanguage.Proofs.Analysis.InPlace
import TemplateLanguage.Proofs.Interpolation.Stop
import TemplateLanguage.Proofs.Expr.Place
import TemplateLanguage.Proofs.Tree.Visitor
