import Formula.Evaluation
import Formula.Limits

/-!
# Errors

Everything that can go wrong with an expression, from reading a token to testing an
equality. A fault found while a source is read knows its position and the source as
it was read, and is shown with a caret below the character it is about.
-/

namespace Formula

/-- What is wrong with a source. -/
inductive ParseFault where
  /-- A term or symbol that means nothing where it stands. -/
  | unrecognized (term : Text)
  /-- A function without an open parenthesis behind it. -/
  | missingLeft (function : Text)
  | unmatchedRight
  | unmatchedComma
  | unmatchedLeft
  /-- A text that is no assignment. -/
  | malformedAssignment
  deriving DecidableEq

/-- The text of a fault. -/
def ParseFault.message : ParseFault → String
  | unrecognized term => s!"Unrecognized term '{String.ofList term}'"
  | missingLeft function => s!"Expected '(' after function '{String.ofList function}'"
  | unmatchedRight => "Unmatched right parenthesis"
  | unmatchedComma => "Comma without matching left parenthesis"
  | unmatchedLeft => "Unmatched left parenthesis"
  | malformedAssignment => "The expression is not an assignment (i.e. not like z=...)"

/-- An error of this library. -/
inductive ExpressionError where
  /-- A token was asked for where none is left. -/
  | endOfInput (position : Nat) (source : Text)
  | parse (fault : ParseFault) (position : Nat) (source : Text)
  | limit (excess : LimitExceeded)
  | relation (fault : RelationFault)
  | evaluation (fault : EvaluationFault)
  deriving DecidableEq

namespace ExpressionError

/-- The text of an error, without its context. -/
def message : ExpressionError → String
  | endOfInput _ _ => "Unexpected end of input"
  | parse fault _ _ => fault.message
  | limit excess => excess.message
  | relation fault => fault.message
  | evaluation fault => fault.message

/-- The position that an error is about. -/
def position? : ExpressionError → Option Nat
  | endOfInput position _ => some position
  | parse _ position _ => some position
  | _ => none

/-- The source that an error is about. -/
def source? : ExpressionError → Option Text
  | endOfInput _ source => some source
  | parse _ _ source => some source
  | _ => none

end ExpressionError

/-- A message with the source below it and a caret below the character at
`position`; the message alone if the source or the position is not known. -/
def withCaret (message : String) (position : Option Nat) (source : Option Text) : String :=
  match position, source with
  | some position, some source =>
    message ++ "\n  " ++ String.ofList source ++ "\n  "
      ++ String.ofList (List.replicate position ' ') ++ "^"
  | _, _ => message

/-- The text of an error with its context. -/
def ExpressionError.context (error : ExpressionError) : String :=
  withCaret error.message error.position? error.source?

/-- Tests the relation of an equality. -/
def Expression.holds (expression : Expression) (bindings : List (Text × Value))
    (tolerance : Value) : Except ExpressionError Bool :=
  match expression.relation with
  | none => .error (.relation .notEquality)
  | some relation => do
    let residual ← (expression.evaluate bindings).mapError .evaluation
    return relation.holds residual tolerance

end Formula
