import Formula.Evaluation

/-!
# Trees of operations

A tree says what an expression means without a stack: an operand, or an operation
applied to as many trees as it has arguments. Its elements in post-order are an
expression, and its value is computed by recursion, left before right.

## Main result

* `evaluateElements_postorder`: evaluating the elements of a tree gives the value of
  the tree, and fails as the tree does.
-/

namespace Formula

/-- Operations applied to operands, each to the number of arguments it has. -/
inductive Tree where
  | operand (operand : Operand)
  | unary (op : UnaryOperation) (argument : Tree)
  | binary (op : BinaryOperation) (left right : Tree)

namespace Tree

/-- The elements of a tree, every operation behind its arguments. -/
def postorder : Tree → List Element
  | .operand o => [.operand o]
  | .unary op argument => argument.postorder ++ [.operation (.unary op)]
  | .binary op left right => left.postorder ++ right.postorder ++ [.operation (.binary op)]

/-- The value of a tree. Of several faults the one that comes first in post-order
counts. -/
def value (values : Values) : Tree → Except EvaluationFault Value
  | .operand o => o.value values
  | .unary op argument => do
    let x ← argument.value values
    Operation.value (.unary op) [x]
  | .binary op left right => do
    let x ← left.value values
    let y ← right.value values
    Operation.value (.binary op) [x, y]

/-- The elements of a tree put its value on top of any stack. -/
theorem foldlM_postorder (values : Values) (tree : Tree) (stack : List Value) :
    tree.postorder.foldlM (Element.run values) stack =
      (do return (← tree.value values) :: stack) := by
  have ok_bind {α β : Type} (x : α) (f : α → Except EvaluationFault β) :
      (Except.ok x >>= f) = f x := rfl
  induction tree generalizing stack with
  | operand o => simp [postorder, value, Element.run]
  | unary op argument ih =>
    rw [postorder, List.foldlM_append, ih, value]
    cases argument.value values with
    | error fault => rfl
    | ok x => simp only [ok_bind, pure_bind, List.foldlM_cons, List.foldlM_nil, bind_pure,
        Element.run_unary]
  | binary op left right ihLeft ihRight =>
    rw [postorder, List.foldlM_append, List.foldlM_append, ihLeft, value]
    cases left.value values with
    | error fault => rfl
    | ok x =>
      simp only [ok_bind, pure_bind, ihRight]
      cases right.value values with
      | error fault => rfl
      | ok y => simp only [ok_bind, pure_bind, List.foldlM_cons, List.foldlM_nil, bind_pure,
          Element.run_binary]

/-- The value of the elements of a tree is the value of the tree. -/
theorem evaluateElements_postorder (values : Values) (tree : Tree) :
    evaluateElements values tree.postorder = tree.value values := by
  rw [evaluateElements, foldlM_postorder]
  cases tree.value values <;> rfl

end Tree

end Formula
