import RuleExpr.Decimal.Binary
import RuleExpr.Interpreter
import RuleExpr.Proofs.Reading.Reread
import RuleExpr.Proofs.Evaluation.Coherence
import RuleExpr.Proofs.Evaluation.Immutability
import RuleExpr.Proofs.Evaluation.NormalForm
import RuleExpr.Proofs.Evaluation.Transparency
import RuleExpr.Proofs.Evaluation.DryRun
import RuleExpr.Proofs.Machine.Builtin
import RuleExpr.Proofs.Machine.Basic
import RuleExpr.Proofs.Machine.Depth
import RuleExpr.Proofs.Machine.Invocation
import RuleExpr.Proofs.Evaluation.DepthLimit
import RuleExpr.Proofs.Evaluation.Extension
import RuleExpr.Proofs.Evaluation.Redispatch
import RuleExpr.Proofs.Scope.Write
import RuleExpr.Proofs.Decimal.Rational
import RuleExpr.Proofs.Reading.Composition
import RuleExpr.Proofs.Reading.Balance
import RuleExpr.Proofs.Template
import RuleExpr.Proofs.Decimal.Canonical
import RuleExpr.Proofs.Evaluation.Arithmetic
import RuleExpr.Proofs.OrderedMap.Columns
import RuleExpr.Proofs.Evaluation.Catalogue
import RuleExpr.Proofs.Time.Reading
import RuleExpr.Proofs.Token.Inference
import RuleExpr.Proofs.Builtin.Readable
import RuleExpr.Proofs.Evaluation.Readable
import RuleExpr.Proofs.Evaluation.Inference
import RuleExpr.Proofs.Decimal.Division
import RuleExpr.Proofs.Token.Equality
import RuleExpr.Proofs.Registry.Distinct
import RuleExpr.Proofs.Registry.Listing
import RuleExpr.Proofs.Token.Lens
import RuleExpr.Proofs.Decimal.Numeral
import RuleExpr.Proofs.Evaluation.Binder
import RuleExpr.Proofs.Decimal.Integer
import RuleExpr.Proofs.Evaluation.Aggregation
import RuleExpr.Proofs.Evaluation.Resolution
import RuleExpr.Proofs.Evaluation.Comparison
import RuleExpr.Proofs.Evaluation.Checks
import RuleExpr.Proofs.Evaluation.Returns
import RuleExpr.Proofs.Evaluation.KeyValues
