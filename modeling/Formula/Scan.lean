import Formula.Config
import Formula.Error
import Formula.Token
import Formula.Number.Numeral

/-!
# Scanning tokens into an expression

One pass over the tokens puts operations behind their arguments. Operands go
straight to the output. Operators, functions and open parentheses wait on a stack
until something of lower rank, a closing parenthesis, a comma or the end releases
them.

What a token means depends on what the scan expects:

* *an operand*, at the start and after an operator, a `(` or a comma: here `-` and
  `!` are unary operators;
* *an operator*, after an operand or a `)`: here `-` is a subtraction;
* *an open parenthesis*, after the name of a function.

Operands, functions and grouping are taken in any of the first two cases, so the scan
accepts more than the grammar of the language: `2 3`, `()` and `sqrt(,)` pass. Whether
the elements of such a source make sense shows when they are evaluated.

Each step is one of four: put an element out, push an entry, release the entries
at the top of the stack that satisfy a test, or change the expectation.
-/

namespace Formula

/-- What a scan accepts next. -/
inductive Expectation where
  | operand
  | operator
  | openParen (function : Text)
  deriving DecidableEq

/-- An entry of the stack of what waits. -/
inductive Waiting where
  | binary (op : BinaryOperator)
  /-- A unary operator or a function. -/
  | applied (op : Operation)
  | left
  deriving DecidableEq

namespace Waiting

/-- The operation that an entry puts out when it is released. -/
def operation? : Waiting → Option Operation
  | binary op => some (.binary op.operation)
  | applied op => some op
  | left => none

/-- Whether an entry is a unary operator or a function. -/
def isApplied : Waiting → Bool
  | applied _ => true
  | _ => false

/-- Whether an entry is anything but an open parenthesis. -/
def isInside : Waiting → Bool
  | left => false
  | _ => true

/-- Whether an entry is a binary operator that a new one of the given precedence
has to wait for: one that binds as tight, or tighter. -/
def precedes (precedence : Nat) : Waiting → Bool
  | binary op => precedence ≤ op.precedence
  | _ => false

end Waiting

/-- The state of a scan. The top of the stack is its head, and so is the innermost of
the open positions. -/
structure Scan where
  expectation : Expectation := .operand
  waiting : List Waiting := []
  /-- The positions of the parentheses that are open. -/
  opens : List Nat := []
  output : List Element := []

/-- Why a scan stops early. -/
inductive ScanFault where
  | parse (fault : ParseFault) (position : Nat)
  | limit (excess : LimitExceeded)
  deriving DecidableEq

/-- What a scan is given besides the tokens. -/
structure Vocabulary where
  /-- The names that are variables. -/
  names : List Text
  limits : Limits

/-- What a term means by itself. -/
inductive Meaning where
  | operand (operand : Operand)
  | function (op : Operation)

/-- The meaning of a term. A numeral is never anything else, and means nothing when
it is too large; a constant hides a variable, and a variable hides a function. -/
def Vocabulary.meaning? (vocabulary : Vocabulary) (term : Text) : Option Meaning :=
  match Number.numeral? term with
  | some value => if value.isFinite then some (.operand (.literal term value)) else none
  | none =>
    match Symbol.constant? term with
    | some c => some (.operand (.constant c))
    | none =>
      if term ∈ vocabulary.names then some (.operand (.variable term))
      else (Symbol.function? term).map .function

namespace Scan

/-- Refuses a count beyond its limit. -/
def within (limits : Limits) (bound : Bound) (count : Nat) : Except ScanFault Unit :=
  (limits.check bound count).mapError .limit

/-- Puts an element out. -/
def emit (limits : Limits) (scan : Scan) (element : Element) : Except ScanFault Scan := do
  let output := scan.output ++ [element]
  within limits .outputElements output.length
  return { scan with output }

/-- Puts operations out, in order. -/
def emitAll (limits : Limits) (scan : Scan) (ops : List Operation) : Except ScanFault Scan :=
  ops.foldlM (fun scan op => scan.emit limits (.operation op)) scan

/-- Releases the entries at the top of the stack that satisfy a test. -/
def release (limits : Limits) (test : Waiting → Bool) (scan : Scan) : Except ScanFault Scan := do
  let scan' ← scan.emitAll limits ((scan.waiting.takeWhile test).filterMap Waiting.operation?)
  return { scan' with waiting := scan.waiting.dropWhile test }

/-- Pushes an entry. -/
def push (scan : Scan) (entry : Waiting) : Scan :=
  { scan with waiting := entry :: scan.waiting }

/-- Changes the expectation. -/
def expect (scan : Scan) (expectation : Expectation) : Scan := { scan with expectation }

/-- An operand is put out. -/
def takeOperand (limits : Limits) (scan : Scan) (operand : Operand) : Except ScanFault Scan := do
  return (← scan.emit limits (.operand operand)).expect .operator

/-- A function waits for its arguments. -/
def takeFunction (scan : Scan) (name : Text) (op : Operation) : Scan :=
  (scan.push (.applied op)).expect (.openParen name)

/-- A binary operator waits, after everything that binds as tight has been
released: unary operators and functions first, which have their operand by now. -/
def takeBinary (limits : Limits) (scan : Scan) (op : BinaryOperator) :
    Except ScanFault Scan := do
  let scan ← scan.release limits Waiting.isApplied
  let scan ← scan.release limits (Waiting.precedes op.precedence)
  return (scan.push (.binary op)).expect .operand

/-- An open parenthesis waits to be closed. -/
def takeLeft (limits : Limits) (scan : Scan) (position : Nat) : Except ScanFault Scan := do
  let scan := { scan.push .left with opens := position :: scan.opens }
  within limits .nestingDepth scan.opens.length
  return scan.expect .operand

/-- A closing parenthesis releases what waits inside, and then the function and the
unary operators in front of the group. -/
def takeRight (limits : Limits) (scan : Scan) (position : Nat) : Except ScanFault Scan := do
  let scan ← scan.release limits Waiting.isInside
  match scan.waiting with
  | [] => .error (.parse .unmatchedRight position)
  | _ :: outside =>
    let scan := { scan with waiting := outside, opens := scan.opens.tail }
    return (← scan.release limits Waiting.isApplied).expect .operator

/-- A comma releases what waits inside the parenthesis it stands in. -/
def takeComma (limits : Limits) (scan : Scan) (position : Nat) : Except ScanFault Scan := do
  let scan ← scan.release limits Waiting.isInside
  match scan.waiting with
  | [] => .error (.parse .unmatchedComma position)
  | _ :: _ => return scan.expect .operand

/-- Takes a term in. -/
def takeTerm (vocabulary : Vocabulary) (scan : Scan) (term : Text) (position : Nat) :
    Except ScanFault Scan :=
  match vocabulary.meaning? term with
  | some (.operand operand) => scan.takeOperand vocabulary.limits operand
  | some (.function op) => .ok (scan.takeFunction term op)
  | none => .error (.parse (.unrecognized term) position)

/-- Takes an operator in. -/
def takeOperator (limits : Limits) (scan : Scan) (c : Char) (position : Nat) :
    Except ScanFault Scan :=
  match scan.expectation with
  | .operand =>
    match Symbol.unary? c with
    | some op => .ok (scan.push (.applied (.unary op)))
    | none => .error (.parse (.unrecognized [c]) position)
  | _ =>
    match Symbol.binary? c with
    | some op => scan.takeBinary limits op
    | none => .error (.parse (.unrecognized [c]) position)

/-- Takes a symbol in. -/
def takeSymbol (limits : Limits) (scan : Scan) (c : Char) (position : Nat) :
    Except ScanFault Scan :=
  match Symbol.grouping? c with
  | some .left => scan.takeLeft limits position
  | some .right => scan.takeRight limits position
  | some .comma => scan.takeComma limits position
  | none => scan.takeOperator limits c position

/-- The function whose open parenthesis is missing, when `lexeme` comes next. -/
def missingLeft? (scan : Scan) (lexeme : Lexeme) : Option Text :=
  match scan.expectation with
  | .openParen function => if lexeme = .symbol '(' then none else some function
  | _ => none

/-- Takes a token in. -/
def step (vocabulary : Vocabulary) (scan : Scan) (token : Token) : Except ScanFault Scan :=
  match scan.missingLeft? token.lexeme with
  | some function => .error (.parse (.missingLeft function) token.position)
  | none =>
    match token.lexeme with
    | .term term => scan.takeTerm vocabulary term token.position
    | .symbol c => scan.takeSymbol vocabulary.limits c token.position

/-- Releases everything at the end of the source, which is at `position`. A
parenthesis that is still open is reported where the innermost one stands. -/
def finish (limits : Limits) (scan : Scan) (position : Nat) : Except ScanFault (List Element) :=
  match scan.expectation with
  | .openParen function => .error (.parse (.missingLeft function) position)
  | _ => do
    let scan ← scan.release limits Waiting.isInside
    match scan.waiting with
    | [] => return scan.output
    | _ :: _ => .error (.parse .unmatchedLeft (scan.opens.headD position))

/-- The elements that the tokens of a source of the given length stand for. -/
def run (vocabulary : Vocabulary) (source : List Token) (length : Nat) :
    Except ScanFault (List Element) := do
  let scan ← source.foldlM (step vocabulary) {}
  scan.finish vocabulary.limits length

end Scan

end Formula
