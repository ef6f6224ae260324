import Formula.Limits
import Formula.Document

/-!
# Limits from a document

The caps are read from the entries of a mapping, by the names of the bounds. A
bound that is not mentioned keeps its default. The bounds are looked at in their
own order, whatever the order of the entries, and the first faulty one is reported:
first a value that is no whole number, then one below 1. A truth value is no whole
number, nor is `2.0`.
-/

namespace Formula

/-- Why a value is no cap. -/
inductive CapFault where
  | notWhole (bound : Bound) (got : Document)
  | belowOne (bound : Bound) (got : Int)

/-- The text that stands for one in which an integer would be too long. -/
def tooLongToShow : String :=
  "Exceeds the limit (4300 digits) for integer string conversion; " ++
    "use sys.set_int_max_str_digits() to increase the limit"

/-- The text of a fault. -/
def CapFault.message : CapFault → String
  | notWhole bound got =>
    if got.isShowable then s!"{bound.name} must be an integer, got {String.ofList got.render}"
    else tooLongToShow
  | belowOne bound got =>
    if (Scalar.int got).isShowable then s!"{bound.name} must be at least 1, got {got}"
    else tooLongToShow

/-- The cap that a document gives for a bound. -/
def Bound.readCap (bound : Bound) : Document → Except CapFault Cap
  | .scalar (.int n) =>
    if h : 0 < n then .ok ⟨n.toNat, by omega⟩ else .error (.belowOne bound n)
  | other => .error (.notWhole bound other)

/-- The cap of a bound among the entries of a mapping, or the default. -/
def Limits.readCap (entries : List (Scalar × Document)) (bound : Bound) : Except CapFault Cap :=
  match Document.field? entries bound.name with
  | some value => bound.readCap value
  | none => .ok (Limits.default.cap bound)

/-- The limits that the entries of a mapping give. -/
def Limits.ofEntries (entries : List (Scalar × Document)) : Except CapFault Limits := do
  let expressionLength ← Limits.readCap entries .expressionLength
  let nestingDepth ← Limits.readCap entries .nestingDepth
  let outputElements ← Limits.readCap entries .outputElements
  let variableCount ← Limits.readCap entries .variableCount
  return { expressionLength, nestingDepth, outputElements, variableCount }

end Formula
