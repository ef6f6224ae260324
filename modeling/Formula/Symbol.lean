import Formula.Text
import Formula.Operation

/-!
# Symbols and names of the language

Binary operators have a precedence, and the higher one binds tighter:

* 0: the logical operators, `&` and its second spelling, the vertical bar;
* 1: the comparisons `>`, `<` and `=`;
* 2: `+` and `-`;
* 3: `*`, `/` and `%`;
* 4: `^`.

Unary operators and functions bind tighter than every binary operator and need no
number for that.
-/

namespace Formula

/-- A binary operator: what it does and how tight it binds. -/
structure BinaryOperator where
  operation : BinaryOperation
  precedence : Nat
  deriving DecidableEq

/-- A character that groups. -/
inductive Grouping where
  | left | right | comma
  deriving DecidableEq

/-- A named number. -/
structure Constant where
  name : Text
  value : Float

namespace Symbol

/-- The binary operator that a character stands for. -/
def binary? : Char → Option BinaryOperator
  | '+' => some ⟨.add, 2⟩
  | '-' => some ⟨.sub, 2⟩
  | '*' => some ⟨.mul, 3⟩
  | '/' => some ⟨.div, 3⟩
  | '%' => some ⟨.mod, 3⟩
  | '^' => some ⟨.pow, 4⟩
  | '>' => some ⟨.greater, 1⟩
  | '<' => some ⟨.less, 1⟩
  | '=' => some ⟨.equal, 1⟩
  | '&' => some ⟨.and, 0⟩
  | '|' => some ⟨.and, 0⟩
  | _ => none

/-- The unary operator that a character stands for. -/
def unary? : Char → Option UnaryOperation
  | '-' => some .negate
  | '!' => some .not
  | _ => none

/-- The grouping that a character stands for. -/
def grouping? : Char → Option Grouping
  | '(' => some .left
  | ')' => some .right
  | ',' => some .comma
  | _ => none

/-- Whether a character is a symbol of the language. -/
def isKnown (c : Char) : Bool :=
  (binary? c).isSome || (unary? c).isSome || (grouping? c).isSome || c == '='

/-- Looks a spelling up that has to be a single character. -/
def ofText? {α : Type} (table : Char → Option α) : Text → Option α
  | [c] => table c
  | _ => none

/-- The functions, by name. -/
def functions : List (Text × Operation) :=
  [("sqrt".toList, .unary .sqrt), ("abs".toList, .unary .abs), ("sign".toList, .unary .sign),
    ("sq".toList, .unary .sq), ("exp".toList, .unary .exp), ("lg".toList, .unary .lg),
    ("ln".toList, .unary .ln), ("log".toList, .binary .log), ("sin".toList, .unary .sin),
    ("cos".toList, .unary .cos), ("tan".toList, .unary .tan), ("sinh".toList, .unary .sinh),
    ("cosh".toList, .unary .cosh), ("tanh".toList, .unary .tanh)]

/-- The function of a name. -/
def function? (name : Text) : Option Operation := functions.lookup name

/-- The constants. -/
def constants : List Constant :=
  [⟨['e'], 2.718281828459045⟩, ⟨['p', 'i'], 3.141592653589793⟩]

/-- The constant of a name. -/
def constant? (name : Text) : Option Constant := constants.find? (·.name == name)

end Symbol

end Formula
