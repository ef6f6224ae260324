import Formula.Scan
import Formula.Token.Cursor

/-!
# Parsing

A source, with the names that are variables in it, is parsed into an expression.
Case is folded first, in the source as a whole and in each name by itself. The
number of names is checked before that, as given, and the length of the source
after it.

An assignment `name = …` is split off before its right side is parsed.
-/

namespace Formula

/-- The elements that a folded source stands for. -/
def scanSource (vocabulary : Vocabulary) (source : Text) :
    Except ExpressionError (List Element) :=
  (Scan.run vocabulary (tokens source) source.length).mapError fun
    | .parse fault position => .parse fault position source
    | .limit excess => .limit excess

/-- Parses a source. -/
def parse (source : Text) (names : List Text) (config : Config) :
    Except ExpressionError Expression := do
  (config.limits.check .variableCount names.length).mapError .limit
  let folded := config.fold source
  let names := names.map config.fold
  (config.limits.check .expressionLength folded.length).mapError .limit
  let elements ← scanSource ⟨names, config.limits⟩ folded
  return { Expression.ofNames names with elements }

/-- Parses a comparison and turns it into an equality. -/
def parseAsEquality (source : Text) (names : List Text) (config : Config) :
    Except ExpressionError Expression := do
  let expression ← parse source names config
  expression.makeEquality.mapError .relation

/-- An assignment: the name on the left of the `=`, and the text on its right. -/
structure Assignment where
  name : Text
  remainder : Text
  deriving DecidableEq

/-- Splits an assignment. Two equals signs are a comparison, also with blanks
between them. The name is folded, the rest is left as it is. -/
def splitAssignment (source : Text) (config : Config) : Except ExpressionError Assignment :=
  let malformed (position : Nat) : Except ExpressionError Assignment :=
    .error (.parse .malformedAssignment position source)
  match (Cursor.mk source 0).read with
  | (none, _) => malformed 0
  | (some ⟨.symbol _, position⟩, _) => malformed position
  | (some ⟨.term name, _⟩, behindName) =>
    match behindName.read with
    | (none, _) => malformed behindName.position
    | (some ⟨lexeme, position⟩, behindSign) =>
      if lexeme = .symbol '=' ∧ behindSign.rest.head? ≠ some '=' then
        .ok ⟨config.fold name, behindSign.rest⟩
      else malformed position

end Formula
