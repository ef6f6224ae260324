/-!
# Limits

Four bounds protect a caller against sources that are too long or too deep. Each is
a positive whole number, of any size. A count that reaches a bound is within it;
the first count beyond is refused.
-/

namespace Formula

/-- What is bounded. -/
inductive Bound where
  /-- Characters of the folded source. -/
  | expressionLength
  /-- Parentheses open at the same time. -/
  | nestingDepth
  /-- Elements of the parsed expression. -/
  | outputElements
  /-- Names supplied as variables, repetitions counted. -/
  | variableCount
  deriving DecidableEq

/-- The name of a bound, in messages and in configurations. -/
def Bound.name : Bound → String
  | expressionLength => "max_expression_length"
  | nestingDepth => "max_nesting_depth"
  | outputElements => "max_output_elements"
  | variableCount => "max_variables"

/-- The bounds, in the order in which they are validated. -/
def Bound.all : List Bound := [.expressionLength, .nestingDepth, .outputElements, .variableCount]

/-- A positive whole number. -/
abbrev Cap := { n : Nat // 0 < n }

/-- A cap for every bound. -/
structure Limits where
  expressionLength : Cap := ⟨4096, by decide⟩
  nestingDepth : Cap := ⟨32, by decide⟩
  outputElements : Cap := ⟨256, by decide⟩
  variableCount : Cap := ⟨64, by decide⟩
  deriving DecidableEq

/-- The caps that apply where none is given. -/
def Limits.default : Limits := {}

/-- The cap of one bound. -/
def Limits.cap (limits : Limits) : Bound → Cap
  | .expressionLength => limits.expressionLength
  | .nestingDepth => limits.nestingDepth
  | .outputElements => limits.outputElements
  | .variableCount => limits.variableCount

/-- A count beyond its limit. -/
structure LimitExceeded where
  bound : Bound
  limit : Nat
  actual : Nat
  deriving DecidableEq

/-- The text of the fault. -/
def LimitExceeded.message (excess : LimitExceeded) : String :=
  s!"Limit exceeded: {excess.bound.name} (limit: {excess.limit}, actual: {excess.actual})"

/-- Refuses a count beyond its limit. -/
def Limits.check (limits : Limits) (bound : Bound) (count : Nat) : Except LimitExceeded Unit :=
  if (limits.cap bound).val < count then .error ⟨bound, (limits.cap bound).val, count⟩
  else .ok ()

theorem Limits.check_eq_ok_iff (limits : Limits) (bound : Bound) (count : Nat) :
    limits.check bound count = .ok () ↔ count ≤ (limits.cap bound).val := by
  unfold Limits.check
  split <;> simp <;> omega

end Formula
