/-!
# Operations

The operations of the language, split by the number of their arguments: a tree of
operations applied to operands is then well formed by its type. Comparisons and
logical operations give 1 for true and 0 for false.
-/

namespace Formula

/-- Operations on one number. -/
inductive UnaryOperation where
  | negate | not | sqrt | abs | sign | sq | exp | lg | ln
  | sin | cos | tan | sinh | cosh | tanh
  deriving DecidableEq

/-- Operations on two numbers, the left one first. -/
inductive BinaryOperation where
  | add | sub | mul | div | mod | pow | greater | less | equal | and | log
  deriving DecidableEq

/-- An operation of the language. -/
inductive Operation where
  | unary (op : UnaryOperation)
  | binary (op : BinaryOperation)
  deriving DecidableEq

/-- The name that an operation has in the written form of an expression. -/
def UnaryOperation.name : UnaryOperation → String
  | negate => "negate"
  | not => "not"
  | sqrt => "sqrt"
  | abs => "abs"
  | sign => "sign"
  | sq => "sq"
  | exp => "exp"
  | lg => "lg"
  | ln => "ln"
  | sin => "sin"
  | cos => "cos"
  | tan => "tan"
  | sinh => "sinh"
  | cosh => "cosh"
  | tanh => "tanh"

/-- The name that an operation has in the written form of an expression. -/
def BinaryOperation.name : BinaryOperation → String
  | add => "add"
  | sub => "sub"
  | mul => "mul"
  | div => "div"
  | mod => "mod"
  | pow => "pow"
  | greater => "greater"
  | less => "less"
  | equal => "equal"
  | and => "and"
  | log => "log"

namespace Operation

/-- The name that an operation has in the written form of an expression. -/
def name : Operation → String
  | unary op => op.name
  | binary op => op.name

/-- The number of arguments. -/
def arity : Operation → Nat
  | unary _ => 1
  | binary _ => 2

/-- Every operation, once. -/
def all : List Operation :=
  [.binary .add, .binary .sub, .binary .mul, .binary .div, .binary .mod, .binary .pow,
    .binary .greater, .binary .less, .binary .equal, .binary .and,
    .unary .negate, .unary .not, .unary .sqrt, .unary .abs, .unary .sign, .unary .sq,
    .unary .exp, .unary .lg, .unary .ln, .binary .log, .unary .sin, .unary .cos,
    .unary .tan, .unary .sinh, .unary .cosh, .unary .tanh]

theorem mem_all (op : Operation) : op ∈ all := by
  rcases op with op | op <;> cases op <;> decide

/-- The operation of a name. -/
def ofName? (name : String) : Option Operation := all.find? (·.name == name)

theorem ofName?_name (op : Operation) : ofName? op.name = some op := by
  rcases op with op | op <;> cases op <;> decide

end Operation

end Formula
