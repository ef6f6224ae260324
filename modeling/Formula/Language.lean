import Formula.Operation
import Formula.Text

/-!
# The words of the language

Which symbols and terms mean something, and what. This is said here once by itself, apart
from the tables that a scan looks up: the grammar and the outline of a scan are stated in
these words, and the tables are shown to agree with them.

Between two phrases a symbol joins them, on one of five levels. The higher the level, the
tighter the symbol binds.
-/

namespace Formula

/-! ## Symbols -/

/-- `Joins c level op` says that `c`, between two phrases, stands for `op`. -/
inductive Joins : Char → Nat → BinaryOperation → Prop where
  | ampersand : Joins '&' 0 .and
  | bar : Joins '|' 0 .and
  | greater : Joins '>' 1 .greater
  | less : Joins '<' 1 .less
  | equal : Joins '=' 1 .equal
  | plus : Joins '+' 2 .add
  | minus : Joins '-' 2 .sub
  | star : Joins '*' 3 .mul
  | slash : Joins '/' 3 .div
  | percent : Joins '%' 3 .mod
  | caret : Joins '^' 4 .pow

/-- `Applies c op` says that `c`, in front of a phrase, stands for `op`. -/
inductive Applies : Char → UnaryOperation → Prop where
  | minus : Applies '-' .negate
  | exclamation : Applies '!' .not

/-! ## Terms -/

/-- `Calls name op` says that a function of that name stands for `op`. -/
inductive Calls : Text → Operation → Prop where
  | sqrt : Calls "sqrt".toList (.unary .sqrt)
  | abs : Calls "abs".toList (.unary .abs)
  | sign : Calls "sign".toList (.unary .sign)
  | sq : Calls "sq".toList (.unary .sq)
  | exp : Calls "exp".toList (.unary .exp)
  | lg : Calls "lg".toList (.unary .lg)
  | ln : Calls "ln".toList (.unary .ln)
  | log : Calls "log".toList (.binary .log)
  | sin : Calls "sin".toList (.unary .sin)
  | cos : Calls "cos".toList (.unary .cos)
  | tan : Calls "tan".toList (.unary .tan)
  | sinh : Calls "sinh".toList (.unary .sinh)
  | cosh : Calls "cosh".toList (.unary .cosh)
  | tanh : Calls "tanh".toList (.unary .tanh)

/-- `Denotes name value` says that a constant of that name stands for a number. -/
inductive Denotes : Text → Float → Prop where
  | e : Denotes "e".toList 2.718281828459045
  | pi : Denotes "pi".toList 3.141592653589793

/-- Whether a term has the shape of a number: ASCII digits, one at least, and at most one
point. -/
def isNumberShaped (term : Text) : Bool :=
  term.any Char.isDigit && term.all (fun c => c.isDigit || c == '.') && term.count '.' ≤ 1

/-- The double nearest to the number that a term of that shape spells. The digits behind
the point are decimal places. -/
def spelledNumber (term : Text) : Float :=
  Float.ofScientific (Nat.ofDigitChars 10 (term.filter Char.isDigit) 0) true
    (term.dropWhile (· != '.')).tail.length

end Formula
