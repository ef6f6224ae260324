import Formula.Event

/-!
# Sessions

A session has a current expression, which commands build, parse, change and
evaluate, and may hold an evaluator.

An evaluator is made of the current expression: the values of its variables are
settled then, but its elements are read when it runs. So it sees elements that are
appended later, and a conversion to an equality, but neither a slot that is set
later nor an expression that takes the place of the current one. From then on it
keeps the expression it was made of as it was last.

A command that fails leaves the session as it was. Commands that parse leave events
in the log, whether they fail or not; no other command does.
-/

namespace Formula

/-- Variables with their values settled, and the expression they belong to. -/
structure Evaluator where
  values : Values
  /-- The expression, once it is no longer the current one. -/
  kept : Option Expression := none

/-- A current expression, and perhaps an evaluator. -/
structure Session where
  current : Expression := {}
  evaluator : Option Evaluator := none

/-- A change or a question to the current expression, or to the evaluator. -/
inductive Command where
  /-- Begins an expression over some variables, whose names are not folded. -/
  | create (names : List Text)
  | parse (source : Text) (names : List Text) (config : Config)
  | parseAsEquality (source : Text) (names : List Text) (config : Config)
  | append (element : Element)
  /-- Appends a variable that has a slot. -/
  | appendSlot (name : Text)
  | set (name : Text) (value : Value)
  | makeEquality
  | evaluate (bindings : List (Text × Value))
  | evaluateAsBoolean (bindings : List (Text × Value))
  | result (bindings : List (Text × Value))
  | booleanResult (bindings : List (Text × Value))
  | holds (bindings : List (Text × Value)) (tolerance : Value)
  | makeEvaluator (bindings : List (Text × Value))
  | runEvaluator
  | runEvaluatorAsBoolean

/-- What a command leaves in the log. It does not depend on the session. -/
def Command.events : Command → List Event
  | .parse source names config => parseEvents source names config
  | .parseAsEquality source names config => equalityEvents source names config
  | _ => []

/-- What a command gives. -/
inductive Answer where
  | done
  | number (value : Value)
  | boolean (b : Bool)
  | result (outcome : Except EvaluationFault Value)
  | booleanResult (outcome : Except EvaluationFault Bool)

namespace Session

/-- Puts another expression in the place of the current one. An evaluator that was
made of the current one keeps it. -/
def replace (session : Session) (expression : Expression) : Session :=
  { current := expression
    evaluator := session.evaluator.map fun evaluator =>
      { evaluator with kept := some (evaluator.kept.getD session.current) } }

/-- Changes the current expression. An evaluator that was made of it sees the change. -/
def change (session : Session) (expression : Expression) : Session :=
  { session with current := expression }

/-- The value that the evaluator gives now. Without an evaluator there is none. -/
def runEvaluator (session : Session) : Except ExpressionError Value :=
  match session.evaluator with
  | none => .error (.evaluation (.valuesLeft 0))
  | some evaluator =>
    (evaluateElements evaluator.values (evaluator.kept.getD session.current).elements).mapError
      .evaluation

/-- Carries a command out. -/
def run (session : Session) : Command → Except ExpressionError (Answer × Session)
  | .create names => .ok (.done, session.replace (Expression.ofNames names))
  | .parse source names config => do
    return (.done, session.replace (← Formula.parse source names config))
  | .parseAsEquality source names config => do
    return (.done, session.replace (← Formula.parseAsEquality source names config))
  | .append element => .ok (.done, session.change (session.current.append element))
  | .appendSlot name =>
    if (session.current.slot? name).isSome then
      .ok (.done, session.change (session.current.append (.operand (.variable name))))
    else .error (.evaluation (.noSlot name))
  | .set name value =>
    match session.current.setSlot? name value with
    | some expression => .ok (.done, session.change expression)
    | none => .error (.evaluation (.noSlot name))
  | .makeEquality => do
    return (.done, session.change (← session.current.makeEquality.mapError .relation))
  | .evaluate bindings => do
    return (.number (← (session.current.evaluate bindings).mapError .evaluation), session)
  | .evaluateAsBoolean bindings => do
    let b ← (session.current.evaluateAsBoolean bindings).mapError .evaluation
    return (.boolean b, session)
  | .result bindings => do
    return (.result (← (session.current.result bindings).mapError .evaluation), session)
  | .booleanResult bindings => do
    let outcome ← (session.current.booleanResult bindings).mapError .evaluation
    return (.booleanResult outcome, session)
  | .holds bindings tolerance => do
    return (.boolean (← session.current.holds bindings tolerance), session)
  | .makeEvaluator bindings => do
    let values ← (session.current.values bindings).mapError .evaluation
    return (.done, { session with evaluator := some { values } })
  | .runEvaluator => do return (.number (← session.runEvaluator), session)
  | .runEvaluatorAsBoolean => do return (.boolean (isTrue (← session.runEvaluator)), session)

end Session

end Formula
