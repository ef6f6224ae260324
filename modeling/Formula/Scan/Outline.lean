import Formula.Language
import Formula.Scan

/-!
# The outline of a scan

Which sources are accepted, and where another goes wrong, does not depend on what
waits on the stack nor on what has been put out. Two things decide it: what the scan
expects, and where parentheses are open. An outline is a scan that keeps only these.
It has no limits, and it looks nothing up: what it takes a token for is written out here.
-/

namespace Formula

/-- What decides whether a scan goes on. The innermost of the open positions comes
first. -/
structure Outline where
  expectation : Expectation := .operand
  opens : List Nat := []
  deriving DecidableEq

/-- The outline of the state of a scan. -/
def Scan.outline (scan : Scan) : Outline := ⟨scan.expectation, scan.opens⟩

namespace Outline

/-- The names of the constants. -/
def constantNames : List Text := ["e", "pi"].map String.toList

/-- The names of the functions. -/
def functionNames : List Text :=
  ["sqrt", "abs", "sign", "sq", "exp", "lg", "ln", "log", "sin", "cos", "tan", "sinh", "cosh",
    "tanh"].map String.toList

/-- Takes a term in. What has the shape of a number is one, if its double is finite, and
nothing else. -/
def takeTerm (names : List Text) (outline : Outline) (term : Text) (position : Nat) :
    Except ScanFault Outline :=
  if isNumberShaped term then
    if (spelledNumber term).isFinite then .ok { outline with expectation := .operator }
    else .error (.parse (.unrecognized term) position)
  else if constantNames.contains term || names.contains term then
    .ok { outline with expectation := .operator }
  else if functionNames.contains term then .ok { outline with expectation := .openParen term }
  else .error (.parse (.unrecognized term) position)

/-- Takes an operator in. Where an operand is expected, it is a unary one. -/
def takeOperator (outline : Outline) (c : Char) (position : Nat) : Except ScanFault Outline :=
  match outline.expectation with
  | .operand =>
    if c ∈ ['-', '!'] then .ok outline else .error (.parse (.unrecognized [c]) position)
  | _ =>
    if c ∈ ['&', '|', '>', '<', '=', '+', '-', '*', '/', '%', '^'] then
      .ok { outline with expectation := .operand }
    else .error (.parse (.unrecognized [c]) position)

/-- Takes a symbol in. -/
def takeSymbol (outline : Outline) (c : Char) (position : Nat) : Except ScanFault Outline :=
  match c with
  | '(' => .ok ⟨.operand, position :: outline.opens⟩
  | ')' =>
    match outline.opens with
    | [] => .error (.parse .unmatchedRight position)
    | _ :: opens => .ok ⟨.operator, opens⟩
  | ',' =>
    match outline.opens with
    | [] => .error (.parse .unmatchedComma position)
    | opens => .ok ⟨.operand, opens⟩
  | c => outline.takeOperator c position

/-- Takes a token in. -/
def step (names : List Text) (outline : Outline) (token : Token) : Except ScanFault Outline :=
  match outline.expectation, token.lexeme with
  | .openParen _, .symbol '(' => outline.takeSymbol '(' token.position
  | .openParen function, _ => .error (.parse (.missingLeft function) token.position)
  | _, .term term => outline.takeTerm names term token.position
  | _, .symbol c => outline.takeSymbol c token.position

/-- What is wrong at the end of the source, which is at `position`. -/
def finish (outline : Outline) (position : Nat) : Except ScanFault Unit :=
  match outline.expectation, outline.opens with
  | .openParen function, _ => .error (.parse (.missingLeft function) position)
  | _, [] => .ok ()
  | _, innermost :: _ => .error (.parse .unmatchedLeft innermost)

/-- Whether the tokens of a source of the given length are accepted. -/
def run (names : List Text) (source : List Token) (length : Nat) : Except ScanFault Unit := do
  let outline ← source.foldlM (step names) {}
  outline.finish length

end Outline

end Formula
