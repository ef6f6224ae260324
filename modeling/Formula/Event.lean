import Formula.Parse

/-!
# Events

What parsing and loading leave in a log. Parsing leaves one event, success or
failure; a conversion to an equality that fails after a successful parse leaves a
second one.
-/

namespace Formula

/-- An entry of the log. -/
inductive Event where
  /-- A source was parsed: the length of the folded source and the number of elements. -/
  | parsed (length elements : Nat)
  | failed (error : ExpressionError)
  | configLoaded
  deriving DecidableEq

/-- The events of a parse. -/
def parseEvents (source : Text) (names : List Text) (config : Config) : List Event :=
  match parse source names config with
  | .ok expression => [.parsed (config.fold source).length expression.length]
  | .error error => [.failed error]

/-- The events of a parse that goes on to an equality. -/
def equalityEvents (source : Text) (names : List Text) (config : Config) : List Event :=
  parseEvents source names config ++
    match parse source names config with
    | .ok expression =>
      match expression.makeEquality with
      | .ok _ => []
      | .error fault => [.failed (.relation fault)]
    | .error _ => []

end Formula
