import Formula.Text
import Formula.Text.Quoted
import Formula.Symbol
import Formula.Value

/-!
# Expressions

An expression is a row of elements in which every operation stands behind its
arguments, together with the variables it may mention. No grouping is left: `2+3*4`
is the row `2 3 4 mul add`. Any row is an expression; only evaluation finds out
whether the operations fit their arguments.

Each variable has one slot with a value of its own, 0 at first. A slot keeps the value
that it is given, an integer as an integer; literals and constants are doubles. An element
mentions a variable by name, so giving a slot a value changes every mention at once.

An expression that ends in a comparison can be turned into an *equality*: the
comparison is taken off, remembered as its relation, and replaced by a subtraction.
The expression then gives the residual, the left side less the right one.
-/

namespace Formula

/-- A number that an expression starts from. -/
inductive Operand where
  /-- A numeral, with the text that spells it. -/
  | literal (text : Text) (value : Float)
  | constant (constant : Constant)
  | variable (name : Text)

/-- An element of an expression. -/
inductive Element where
  | operand (operand : Operand)
  | operation (op : Operation)

/-- The comparisons that an equality can have as its relation. -/
inductive Relation where
  | equal | greater | less
  deriving DecidableEq

/-- The operation that a relation was. -/
def Relation.operation : Relation → Operation
  | equal => .binary .equal
  | greater => .binary .greater
  | less => .binary .less

/-- The relation that an operation can become. -/
def Operation.relation? : Operation → Option Relation
  | .binary .equal => some .equal
  | .binary .greater => some .greater
  | .binary .less => some .less
  | _ => none

theorem Operation.relation?_eq_some_iff (op : Operation) (relation : Relation) :
    op.relation? = some relation ↔ op = relation.operation := by
  rcases op with op | op <;> cases op <;> cases relation <;> simp [relation?, Relation.operation]

/-- A variable of an expression and the value that it has unless it is bound. -/
structure Slot where
  name : Text
  value : Value := 0.0

/-- A row of elements with the slots of its variables. -/
structure Expression where
  slots : List Slot := []
  elements : List Element := []
  relation : Option Relation := none

/-- Why an expression cannot be converted, or tested as an equality. -/
inductive RelationFault where
  | alreadyEquality
  | notComparison
  | notEquality
  deriving DecidableEq

/-- The text of a fault. -/
def RelationFault.message : RelationFault → String
  | alreadyEquality => "Expression is already an equality"
  | notComparison => "Expression is not an equality or inequality (expected =, > or <)"
  | notEquality => "Expression is not an equality; call make_equality()"

namespace Expression

/-- One slot for every name, in the order of their first occurrences. -/
def slotsOf (names : List Text) : List Slot :=
  names.foldl
    (fun slots name =>
      if slots.any (·.name == name) then slots else slots ++ [⟨name, 0.0⟩])
    []

/-- The expression without elements over the given variables. -/
def ofNames (names : List Text) : Expression := { slots := slotsOf names }

/-- The slot of a name. -/
def slot? (expression : Expression) (name : Text) : Option Slot :=
  expression.slots.find? (·.name == name)

/-- Gives a slot a value; `none` if there is no slot of that name. -/
def setSlot? (expression : Expression) (name : Text) (value : Value) : Option Expression :=
  if (expression.slot? name).isSome then
    some { expression with
      slots := expression.slots.map fun slot =>
        if slot.name == name then { slot with value } else slot }
  else none

/-- The expression with one more element at its end. -/
def append (expression : Expression) (element : Element) : Expression :=
  { expression with elements := expression.elements ++ [element] }

/-- The number of elements. -/
def length (expression : Expression) : Nat := expression.elements.length

/-- Whether a comparison has been taken off. -/
def isEquality (expression : Expression) : Bool := expression.relation.isSome

/-- The comparison that an expression ends in. -/
def lastRelation? (expression : Expression) : Option Relation :=
  match expression.elements.getLast? with
  | some (.operation op) => op.relation?
  | _ => none

/-- Takes the comparison off that the expression ends in, so that it gives the
residual of the two sides. -/
def makeEquality (expression : Expression) : Except RelationFault Expression :=
  if expression.isEquality then .error .alreadyEquality
  else
    match expression.lastRelation? with
    | none => .error .notComparison
    | some relation =>
      .ok { expression with
        elements := expression.elements.dropLast ++ [.operation (.binary .sub)]
        relation := some relation }

end Expression

/-! ## The written form -/

/-- The text of an operand. -/
def Operand.text : Operand → Text
  | .literal text _ => text
  | .constant c => c.name
  | .variable name => name

/-- The text of an element. -/
def Element.text : Element → Text
  | operand o => o.text
  | operation op => op.name.toList

/-- The elements of an expression, with a space between any two. -/
def Expression.text (expression : Expression) : Text :=
  [' '].intercalate (expression.elements.map Element.text)

/-- The written form between quotes and parentheses. -/
def Expression.describe (expression : Expression) : Text :=
  "Expression(".toList ++ Text.quoted expression.text ++ [')']

end Formula
