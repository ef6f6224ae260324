import Formula.Token.Cursor
import Formula.Token.Exchange
import Formula.Event
import Formula.Session
import Formula.Config.Loading
import Formula.Expression.Tree
import Formula.Grammar
import Formula.Scan.Outline
import Formula.Proofs.Expression.Forest
import Formula.Proofs.Scan.Outline
import Formula.Proofs.Token.Spelling
import Formula.Proofs.Grammar.Lexemes
import Formula.Proofs.Grammar.Completeness
import Formula.Proofs.Grammar.Account
import Formula.Proofs.Grammar.Soundness
import Formula.Proofs.Parse.Limits
import Formula.Proofs.Expression.Residual
import Formula.Proofs.Expression.Comparison
import Formula.Proofs.Expression.Binding
import Formula.Proofs.Expression.BindingOrder
import Formula.Proofs.Expression.Construction
import Formula.Proofs.Text.Casing
import Formula.Proofs.Text.Lowercase
import Formula.Proofs.Token.Folding
import Formula.Proofs.Parse.Folding
import Formula.Proofs.Token.Reading
import Formula.Proofs.Token.Cut
import Formula.Proofs.Token.Exchange
import Formula.Proofs.Parse.Assignment
import Formula.Proofs.Parse.Conservation
import Formula.Proofs.Scan.Frame
import Formula.Proofs.Parse.Composition
import Formula.Proofs.Expression.Finiteness
import Formula.Proofs.Token.Respelling
import Formula.Proofs.Parse.Substitution
import Formula.Proofs.Scan.Machine
import Formula.Proofs.Parse.Machine
import Formula.Proofs.Text.Order
import Formula.Proofs.Document.Field
import Formula.Proofs.Config.Library
import Formula.Proofs.Config.Limits
import Formula.Proofs.Config.Validation
import Formula.Proofs.Scan.Stack
import Formula.Proofs.Token.Parenthesis
import Formula.Proofs.Scan.Marked
import Formula.Proofs.Scan.Opening
import Formula.Proofs.Scan.Refusal
import Formula.Proofs.Parse.Caret
import Formula.Proofs.Token.Respacing
import Formula.Proofs.Scan.Relocation
import Formula.Proofs.Parse.Respacing
import Formula.Proofs.Document.Keys
import Formula.Proofs.Config.Loading
