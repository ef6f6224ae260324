import Formula.Expression.Tree
import Formula.Proofs.Outcome
import Mathlib.Algebra.Ring.Int.Defs
import Mathlib.Data.List.Induction

/-!
# Rows of elements as trees side by side

A row of elements can be read back into trees in the way it is evaluated, with a stack
that holds trees in place of numbers.  Reading back stops where an operation finds too
few trees, and never because of a value; what evaluation adds to it are the faults of
single operations.  So a row has the value of the one tree it lists, if it lists one,
and otherwise it fails for a reason that can be told by counting.

## Main results

* `Tree.postorder_injective`: a row lists at most one tree.
* `foldlM_run_of_grow`: evaluating a row that can be read back gives the values of the
  trees on the stack, each computed by recursion, from the left to the right.
* `Tree.value_eq_error`: of several operations of a tree that fail, the first in
  post-order decides.
* `evaluateElements_meaning`: what evaluation gives for any row at all.
-/

namespace Formula

open Outcome

/-! ## How many values a row leaves -/

/-- Whether an element is an operand. -/
def Element.isOperand : Element → Bool
  | operand _ => true
  | operation _ => false

/-- The operation that an element is. -/
def Element.operation? : Element → Option Operation
  | operand _ => none
  | operation op => some op

/-- The number of operands of a row, less the values that its operations use up: an
operation of `n` arguments takes `n` values and gives one. -/
def balance (elements : List Element) : Int :=
  elements.countP Element.isOperand
    - ((elements.filterMap Element.operation?).map fun op => (op.arity : Int) - 1).sum

/-- Every operation of a row finds as many values as it has arguments. -/
def Supplied (elements : List Element) : Prop :=
  ∀ before op after, elements = before ++ .operation op :: after →
    (op.arity : Int) ≤ balance before

@[simp] theorem balance_nil : balance [] = 0 := rfl

theorem balance_append (first second : List Element) :
    balance (first ++ second) = balance first + balance second := by
  simp only [balance, List.countP_append, List.filterMap_append, List.map_append,
    List.sum_append]
  omega

@[simp] theorem balance_operand (o : Operand) : balance [.operand o] = 1 := rfl

@[simp] theorem balance_operation (op : Operation) :
    balance [.operation op] = 1 - (op.arity : Int) := by
  show ((0 : Nat) : Int) - ((op.arity : Int) - 1 + 0) = 1 - (op.arity : Int)
  omega

/-! ## Reading a row back -/

/-- Takes one element in, with trees on the stack.  The top is the head. -/
def grow : List Tree → Element → Option (List Tree)
  | stack, .operand o => some (.operand o :: stack)
  | argument :: stack, .operation (.unary op) => some (.unary op argument :: stack)
  | right :: left :: stack, .operation (.binary op) => some (.binary op left right :: stack)
  | _, .operation _ => none

/-- The elements of trees side by side, the leftmost first. -/
def postorders (trees : List Tree) : List Element := trees.flatMap Tree.postorder

/-- Only too few trees stop the reading. -/
theorem grow_eq_none_iff (stack : List Tree) (op : Operation) :
    grow stack (.operation op) = none ↔ stack.length < op.arity := by
  cases op with
  | unary op => cases stack <;> simp [grow, Operation.arity]
  | binary op =>
      cases stack with
      | nil => simp [grow, Operation.arity]
      | cons right stack => cases stack <;> simp [grow, Operation.arity]

/-- The elements of a tree put the tree on top of any stack. -/
theorem foldlM_grow_postorder (tree : Tree) (stack : List Tree) :
    tree.postorder.foldlM grow stack = some (tree :: stack) := by
  induction tree generalizing stack with
  | operand o => rfl
  | unary op argument ih =>
      rw [Tree.postorder, List.foldlM_append, ih]
      rfl
  | binary op left right ihLeft ihRight =>
      rw [Tree.postorder, List.foldlM_append, List.foldlM_append, ihLeft,
        Option.bind_eq_bind, Option.bind_some, ihRight]
      rfl

/-- A row lists at most one tree. -/
theorem Tree.postorder_injective {tree tree' : Tree}
    (h : tree.postorder = tree'.postorder) : tree = tree' := by
  have hread := foldlM_grow_postorder tree []
  rw [h, foldlM_grow_postorder tree' []] at hread
  cases hread
  rfl

theorem postorders_of_grow {stack stack' : List Tree} {element : Element}
    (h : grow stack element = some stack') :
    postorders stack'.reverse = postorders stack.reverse ++ [element] := by
  unfold grow at h
  split at h <;> cases h <;>
    simp [postorders, Tree.postorder, List.append_assoc]

/-- What has been read is listed by the trees on the stack. -/
theorem postorders_of_foldlM_grow {elements : List Element} {stack stack' : List Tree}
    (h : elements.foldlM grow stack = some stack') :
    postorders stack'.reverse = postorders stack.reverse ++ elements := by
  induction elements generalizing stack with
  | nil =>
      cases h
      simp
  | cons element elements ih =>
      rw [List.foldlM_cons, Option.bind_eq_bind] at h
      obtain ⟨next, hnext, hrest⟩ := Option.bind_eq_some_iff.1 h
      rw [ih hrest, postorders_of_grow hnext, List.append_assoc, List.singleton_append]

/-- Every tree is one value. -/
theorem balance_postorder (tree : Tree) : balance tree.postorder = 1 := by
  induction tree with
  | operand o => rfl
  | unary op argument ih =>
      rw [Tree.postorder, balance_append, ih, balance_operation]
      rfl
  | binary op left right ihLeft ihRight =>
      rw [Tree.postorder, balance_append, balance_append, ihLeft, ihRight, balance_operation]
      rfl

theorem balance_postorders (trees : List Tree) :
    balance (postorders trees) = trees.length := by
  induction trees with
  | nil => rfl
  | cons tree trees ih =>
      have hcons : postorders (tree :: trees) = tree.postorder ++ postorders trees := by
        simp [postorders]
      rw [hcons, balance_append, balance_postorder, ih, List.length_cons]
      omega

/-- A row that can be read back supplies its operations: at each of them the trees read
so far are counted by the balance, and `grow` went on. -/
theorem supplied_of_foldlM_grow {elements : List Element} {stack : List Tree}
    (h : elements.foldlM grow [] = some stack) : Supplied elements := by
  intro before op after hsplit
  rw [hsplit, List.foldlM_append, Option.bind_eq_bind] at h
  obtain ⟨reached, hbefore, hrest⟩ := Option.bind_eq_some_iff.1 h
  rw [List.foldlM_cons, Option.bind_eq_bind] at hrest
  obtain ⟨next, hnext, _⟩ := Option.bind_eq_some_iff.1 hrest
  have henough : ¬ reached.length < op.arity := by
    rw [← grow_eq_none_iff, hnext]
    simp
  have hlisted := postorders_of_foldlM_grow hbefore
  have hcount := balance_postorders reached.reverse
  rw [hlisted, List.length_reverse] at hcount
  simp only [List.reverse_nil, postorders, List.flatMap_nil, List.nil_append] at hcount
  omega

/-- A row can be read back, or it breaks off at an operation that finds too few trees. -/
theorem foldlM_grow_cases (elements : List Element) :
    (∃ stack, elements.foldlM grow [] = some stack) ∨
      ∃ before op after stack, elements = before ++ .operation op :: after ∧
        before.foldlM grow [] = some stack ∧ stack.length < op.arity := by
  induction elements using List.reverseRecOn with
  | nil => exact .inl ⟨[], rfl⟩
  | append_singleton elements element ih =>
      rcases ih with ⟨stack, hstack⟩ | ⟨before, op, after, stack, hsplit, hstack, hshort⟩
      · cases hgrow : grow stack element with
        | some next =>
            exact .inl ⟨next, by simp [List.foldlM_append, hstack, hgrow]⟩
        | none =>
            cases element with
            | operand o => simp [grow] at hgrow
            | operation op =>
                exact .inr ⟨elements, op, [], stack, rfl, hstack,
                  (grow_eq_none_iff stack op).1 hgrow⟩
      · exact .inr ⟨before, op, after ++ [element], stack, by simp [hsplit], hstack, hshort⟩

/-! ## The first operation that fails -/

/-- An operation with the trees that it is applied to. -/
structure Application where
  op : Operation
  arguments : List Tree

/-- The operations of a tree with what they are applied to, in post-order. -/
def Tree.applications : Tree → List Application
  | .operand _ => []
  | .unary op argument => argument.applications ++ [⟨.unary op, [argument]⟩]
  | .binary op left right =>
      left.applications ++ right.applications ++ [⟨.binary op, [left, right]⟩]

/-- The value of an operation applied to the values of its arguments. -/
def Application.value (values : Values) (application : Application) :
    Except EvaluationFault Value := do
  application.op.value (← application.arguments.mapM (Tree.value values))

/-- Every one of some applications has a value. -/
def AllDefined (values : Values) (applications : List Application) : Prop :=
  ∀ application ∈ applications, ∃ x, application.value values = .ok x

/-- `fault` is the fault of the first application that fails: those before it have
values, and so have its own arguments. -/
def FirstFault (values : Values) (applications : List Application)
    (fault : EvaluationFault) : Prop :=
  ∃ before failing after args cause,
    applications = before ++ failing :: after ∧ AllDefined values before ∧
    failing.arguments.mapM (Tree.value values) = .ok args ∧
    failing.op.apply args = .error cause ∧ fault = .operation failing.op cause

/-- Every variable that a row mentions has a value. -/
def Provided (values : Values) (elements : List Element) : Prop :=
  ∀ name, Element.operand (.variable name) ∈ elements → (values.lookup name).isSome

theorem AllDefined.append {values : Values} {first second : List Application}
    (h : AllDefined values first) (h' : AllDefined values second) :
    AllDefined values (first ++ second) := by
  intro application hmem
  rcases List.mem_append.1 hmem with hfirst | hsecond
  · exact h application hfirst
  · exact h' application hsecond

theorem FirstFault.append_right {values : Values} {first : List Application}
    {fault : EvaluationFault} (h : FirstFault values first fault)
    (second : List Application) : FirstFault values (first ++ second) fault := by
  obtain ⟨before, failing, after, args, cause, rfl, hdefined, hargs, hcause, rfl⟩ := h
  exact ⟨before, failing, after ++ second, args, cause, by simp, hdefined, hargs, hcause, rfl⟩

theorem FirstFault.append_left {values : Values} {first second : List Application}
    {fault : EvaluationFault} (hfirst : AllDefined values first)
    (h : FirstFault values second fault) : FirstFault values (first ++ second) fault := by
  obtain ⟨before, failing, after, args, cause, rfl, hdefined, hargs, hcause, rfl⟩ := h
  exact ⟨first ++ before, failing, after, args, cause, by simp, hfirst.append hdefined,
    hargs, hcause, rfl⟩

/-- What an operation makes of the values of its arguments: a value, or a fault that is
the first one of the operation standing alone. -/
theorem application_cases {values : Values} (op : Operation) (arguments : List Tree)
    {args : List Value} (hargs : arguments.mapM (Tree.value values) = .ok args) :
    (∃ x, op.value args = .ok x ∧ AllDefined values [⟨op, arguments⟩]) ∨
      ∃ fault, op.value args = .error fault ∧ FirstFault values [⟨op, arguments⟩] fault := by
  cases happly : op.apply args with
  | ok x =>
      have hvalue : op.value args = .ok (.float x) := by simp [Operation.value, happly]
      refine .inl ⟨.float x, hvalue, ?_⟩
      intro application hmem
      rw [List.mem_singleton] at hmem
      subst hmem
      exact ⟨.float x, by simp only [Application.value, hargs, ok_bind, hvalue]⟩
  | error cause =>
      refine .inr ⟨.operation op cause, by simp [Operation.value, happly], ?_⟩
      exact ⟨[], ⟨op, arguments⟩, [], args, cause, rfl, by simp [AllDefined], hargs, happly, rfl⟩

/-- A tree whose variables have values has a value, and so have all its operations; or
it has the fault of the first operation that fails. -/
theorem Tree.value_cases {values : Values} (tree : Tree)
    (hprovided : Provided values tree.postorder) :
    (∃ x, tree.value values = .ok x ∧ AllDefined values tree.applications) ∨
      ∃ fault, tree.value values = .error fault ∧
        FirstFault values tree.applications fault := by
  induction tree with
  | operand o =>
      have hnone : AllDefined values [] := by simp [AllDefined]
      rcases o with ⟨text, x⟩ | c | name
      · exact .inl ⟨.float x, rfl, hnone⟩
      · exact .inl ⟨.float c.value, rfl, hnone⟩
      · obtain ⟨x, hx⟩ := Option.isSome_iff_exists.1
          (hprovided name (by simp [Tree.postorder]))
        exact .inl ⟨x, by simp [Tree.value, Operand.value, hx], hnone⟩
  | unary op argument ih =>
      have hargument : Provided values argument.postorder := fun name hname =>
        hprovided name (by simp [Tree.postorder, hname])
      rcases ih hargument with ⟨x, hx, hdefined⟩ | ⟨fault, hfault, hfirst⟩
      · have hargs : [argument].mapM (Tree.value values) = .ok [x] := by simp [hx]
        rcases application_cases (.unary op) [argument] hargs with
          ⟨y, hy, hlast⟩ | ⟨fault, hy, hlast⟩
        · exact .inl ⟨y, by simp only [Tree.value, hx, ok_bind, hy], hdefined.append hlast⟩
        · exact .inr ⟨fault, by simp only [Tree.value, hx, ok_bind, hy],
            hlast.append_left hdefined⟩
      · exact .inr ⟨fault, by simp only [Tree.value, hfault, error_bind],
          hfirst.append_right _⟩
  | binary op left right ihLeft ihRight =>
      have hleft : Provided values left.postorder := fun name hname =>
        hprovided name (by simp [Tree.postorder, hname])
      have hright : Provided values right.postorder := fun name hname =>
        hprovided name (by simp [Tree.postorder, hname])
      rcases ihLeft hleft with ⟨x, hx, hxdefined⟩ | ⟨fault, hfault, hfirst⟩
      · rcases ihRight hright with ⟨y, hy, hydefined⟩ | ⟨fault, hfault, hfirst⟩
        · have hargs : [left, right].mapM (Tree.value values) = .ok [x, y] := by simp [hx, hy]
          have hboth := hxdefined.append hydefined
          rcases application_cases (.binary op) [left, right] hargs with
            ⟨z, hz, hlast⟩ | ⟨fault, hz, hlast⟩
          · exact .inl ⟨z, by simp only [Tree.value, hx, hy, ok_bind, hz], hboth.append hlast⟩
          · exact .inr ⟨fault, by simp only [Tree.value, hx, hy, ok_bind, hz],
              hlast.append_left hboth⟩
        · exact .inr ⟨fault, by simp only [Tree.value, hx, hfault, ok_bind, error_bind],
            (hfirst.append_left hxdefined).append_right _⟩
      · exact .inr ⟨fault, by simp only [Tree.value, hfault, error_bind],
          (hfirst.append_right _).append_right _⟩

/-- A tree fails as its first operation that fails. -/
theorem Tree.value_eq_error {values : Values} {tree : Tree}
    (hprovided : Provided values tree.postorder) {fault : EvaluationFault}
    (h : tree.value values = .error fault) : FirstFault values tree.applications fault := by
  rcases tree.value_cases hprovided with ⟨x, hx, _⟩ | ⟨fault', hfault, hfirst⟩
  · rw [hx] at h
    cases h
  · rw [hfault] at h
    cases h
    exact hfirst

/-! ## Values on the stack -/

/-- The values of the trees on a stack, computed from the bottom up: the bottom stands
leftmost in the row. -/
def settle (values : Values) : List Tree → Except EvaluationFault (List Value)
  | [] => .ok []
  | tree :: below => do
      let xs ← settle values below
      let x ← tree.value values
      return x :: xs

/-- Taking an element in commutes with computing the values: whatever is done first,
the same faults come in the same order. -/
theorem run_of_grow {values : Values} {stack stack' : List Tree} {element : Element}
    (h : grow stack element = some stack') :
    settle values stack' = settle values stack >>= (Element.run values · element) := by
  unfold grow at h
  split at h
  · cases h
    rfl
  · rename_i argument below op
    cases h
    simp only [settle, Tree.value]
    cases settle values below with
    | error fault => rfl
    | ok xs =>
        cases argument.value values with
        | error fault => rfl
        | ok x => simp only [ok_bind, pure_eq_ok, Element.run_unary]
  · rename_i right left below op
    cases h
    simp only [settle, Tree.value]
    cases settle values below with
    | error fault => rfl
    | ok xs =>
        cases left.value values with
        | error fault => rfl
        | ok x =>
            cases right.value values with
            | error fault => rfl
            | ok y => simp only [ok_bind, pure_eq_ok, Element.run_binary]
  · cases h

/-- Evaluating a row that can be read back gives the values of the trees. -/
theorem foldlM_run_of_grow {values : Values} {elements : List Element}
    {stack stack' : List Tree} (h : elements.foldlM grow stack = some stack') :
    settle values stack' = settle values stack >>= elements.foldlM (Element.run values) := by
  induction elements generalizing stack with
  | nil =>
      cases h
      cases settle values stack' <;> rfl
  | cons element elements ih =>
      rw [List.foldlM_cons, Option.bind_eq_bind] at h
      obtain ⟨next, hnext, hrest⟩ := Option.bind_eq_some_iff.1 h
      rw [ih hrest, run_of_grow hnext]
      cases settle values stack <;> rfl

theorem length_of_settle {values : Values} {stack : List Tree} {xs : List Value}
    (h : settle values stack = .ok xs) : xs.length = stack.length := by
  induction stack generalizing xs with
  | nil =>
      cases h
      rfl
  | cons tree below ih =>
      rw [settle] at h
      obtain ⟨ys, hbelow, hrest⟩ := exists_of_bind h
      obtain ⟨y, _, hall⟩ := exists_of_bind hrest
      cases hall
      rw [List.length_cons, List.length_cons, ih hbelow]

/-- The trees on a stack have values, and so have all their operations; or the first
operation that fails, from the bottom up, decides. -/
theorem settle_cases {values : Values} (stack : List Tree)
    (hprovided : Provided values (postorders stack.reverse)) :
    (∃ xs, settle values stack = .ok xs ∧
        AllDefined values (stack.reverse.flatMap Tree.applications)) ∨
      ∃ fault, settle values stack = .error fault ∧
        FirstFault values (stack.reverse.flatMap Tree.applications) fault := by
  induction stack with
  | nil => exact .inl ⟨[], rfl, by simp [AllDefined]⟩
  | cons tree below ih =>
      have happend : (tree :: below).reverse.flatMap Tree.applications =
          below.reverse.flatMap Tree.applications ++ tree.applications := by simp
      have hbelow : Provided values (postorders below.reverse) := fun name hname =>
        hprovided name (by
          simp only [postorders, List.reverse_cons, List.flatMap_append, List.mem_append]
          exact .inl hname)
      have htree : Provided values tree.postorder := fun name hname =>
        hprovided name (by simp [postorders, hname])
      rw [happend]
      rcases ih hbelow with ⟨xs, hxs, hdefined⟩ | ⟨fault, hfault, hfirst⟩
      · rcases tree.value_cases htree with ⟨x, hx, hlast⟩ | ⟨fault, hfault, hlast⟩
        · exact .inl ⟨x :: xs, by simp only [settle, hxs, hx, ok_bind, pure_eq_ok],
            hdefined.append hlast⟩
        · exact .inr ⟨fault, by simp only [settle, hxs, hfault, ok_bind, error_bind],
            hlast.append_left hdefined⟩
      · exact .inr ⟨fault, by simp only [settle, hfault, error_bind], hfirst.append_right _⟩

/-! ## The outcome for any row -/

/-- The outcome is the fault of the first operation of some trees that fails, or
`fault`, if every operation has a value. -/
def EndsWith (values : Values) (trees : List Tree) (fault : EvaluationFault)
    (outcome : Except EvaluationFault Value) : Prop :=
  (∃ first, FirstFault values (trees.flatMap Tree.applications) first ∧
      outcome = .error first) ∨
    (AllDefined values (trees.flatMap Tree.applications) ∧ outcome = .error fault)

theorem evaluateElements_of_grow {values : Values} {elements : List Element}
    {stack : List Tree} (h : elements.foldlM grow [] = some stack) :
    evaluateElements values elements = settle values stack >>= onlyValue := by
  rw [foldlM_run_of_grow h]
  rfl

theorem onlyValue_of_length_ne {xs : List Value} (h : xs.length ≠ 1) :
    onlyValue xs = .error (.valuesLeft xs.length) := by
  match xs with
  | [] => rfl
  | [x] => exact absurd rfl h
  | x :: y :: rest => rfl

/-- A row that is read back to more or fewer than one tree leaves as many values. -/
theorem endsWith_valuesLeft {values : Values} {elements : List Element} {stack : List Tree}
    (hgrow : elements.foldlM grow [] = some stack) (hlength : stack.length ≠ 1)
    (hprovided : Provided values (postorders stack.reverse)) :
    EndsWith values stack.reverse (.valuesLeft stack.length)
      (evaluateElements values elements) := by
  rw [evaluateElements_of_grow hgrow]
  rcases settle_cases stack hprovided with ⟨xs, hxs, hdefined⟩ | ⟨fault, hfault, hfirst⟩
  · rw [← length_of_settle hxs] at hlength ⊢
    exact .inr ⟨hdefined, by rw [hxs, ok_bind, onlyValue_of_length_ne hlength]⟩
  · exact .inl ⟨fault, hfirst, by rw [hfault, error_bind]⟩

/-- A row that breaks off is evaluated up to the shortage. -/
theorem evaluateElements_of_short {values : Values} {before after : List Element}
    {op : Operation} {stack : List Tree} (hgrow : before.foldlM grow [] = some stack)
    (hshort : stack.length < op.arity) :
    evaluateElements values (before ++ .operation op :: after) =
      settle values stack >>= fun _ => .error (.notEnoughOperands op stack.length) := by
  have hrun : settle values stack =
      settle values [] >>= before.foldlM (Element.run values) := foldlM_run_of_grow hgrow
  rw [settle, ok_bind] at hrun
  rw [evaluateElements, List.foldlM_append, ← hrun]
  cases hsettle : settle values stack with
  | error fault => rfl
  | ok xs =>
      rw [← length_of_settle hsettle] at hshort ⊢
      simp only [ok_bind, List.foldlM_cons, Element.run, hshort, ↓reduceIte, error_bind]

/-- A row that breaks off fails there, with the number of values that are on the stack. -/
theorem endsWith_notEnoughOperands {values : Values} {before after : List Element}
    {op : Operation} {stack : List Tree} (hgrow : before.foldlM grow [] = some stack)
    (hshort : stack.length < op.arity)
    (hprovided : Provided values (postorders stack.reverse)) :
    EndsWith values stack.reverse (.notEnoughOperands op stack.length)
      (evaluateElements values (before ++ .operation op :: after)) := by
  rw [evaluateElements_of_short hgrow hshort]
  rcases settle_cases stack hprovided with ⟨xs, hxs, hdefined⟩ | ⟨fault, hfault, hfirst⟩
  · exact .inr ⟨hdefined, by rw [hxs, ok_bind]⟩
  · exact .inl ⟨fault, hfirst, by rw [hfault, error_bind]⟩

/-- A row that is read back to one tree lists it. -/
theorem exists_postorder_of_grow {elements : List Element} {stack : List Tree}
    (hgrow : elements.foldlM grow [] = some stack) (hlength : stack.length = 1) :
    ∃ tree : Tree, tree.postorder = elements := by
  obtain ⟨tree, rfl⟩ := List.length_eq_one_iff.1 hlength
  have hlisted := postorders_of_foldlM_grow hgrow
  exact ⟨tree, by simpa [postorders] using hlisted⟩

/-- Only a row that lists a tree has a value. -/
theorem exists_postorder_of_evaluates {values : Values} {elements : List Element} {x : Value}
    (h : evaluateElements values elements = .ok x) :
    ∃ tree : Tree, tree.postorder = elements := by
  rcases foldlM_grow_cases elements with
    ⟨stack, hgrow⟩ | ⟨before, op, after, stack, rfl, hgrow, hshort⟩
  · rw [evaluateElements_of_grow hgrow] at h
    obtain ⟨xs, hsettle, honly⟩ := exists_of_bind h
    by_cases hlength : xs.length = 1
    · exact exists_postorder_of_grow hgrow (length_of_settle hsettle ▸ hlength)
    · rw [onlyValue_of_length_ne hlength] at honly
      cases honly
  · rw [evaluateElements_of_short hgrow hshort] at h
    obtain ⟨xs, _, hfault⟩ := exists_of_bind h
    cases hfault

/-- **What a row means.**  Let every variable of a row have a value.  At most one tree is
listed by the row.  If there is one, the row is evaluated to its value, and of several
operations that fail the first in post-order is reported.  If there is none, the row
consists of trees side by side up to the first operation that finds too few values, or to
its end; unless an operation of these trees fails, that shortage, or a number of values
other than one, is reported. -/
theorem evaluateElements_meaning (values : Values) (elements : List Element)
    (hprovided : Provided values elements) :
    (∀ tree tree' : Tree, tree.postorder = elements → tree'.postorder = elements →
      tree = tree') ∧
    (∀ tree : Tree, tree.postorder = elements →
      evaluateElements values elements = tree.value values ∧
      ∀ fault, tree.value values = .error fault →
        FirstFault values tree.applications fault) ∧
    ((∀ tree : Tree, tree.postorder ≠ elements) →
      ∃ before trees, before = postorders trees ∧ Supplied before ∧
        balance before = trees.length ∧
        ((∃ op after, elements = before ++ .operation op :: after ∧
            trees.length < op.arity ∧
            EndsWith values trees (.notEnoughOperands op trees.length)
              (evaluateElements values elements)) ∨
          elements = before ∧ trees.length ≠ 1 ∧
            EndsWith values trees (.valuesLeft trees.length)
              (evaluateElements values elements))) := by
  refine ⟨?_, ?_, ?_⟩
  · intro tree tree' h h'
    exact Tree.postorder_injective (h.trans h'.symm)
  · rintro tree rfl
    exact ⟨Tree.evaluateElements_postorder values tree,
      fun fault hfault => Tree.value_eq_error hprovided hfault⟩
  · intro hnone
    rcases foldlM_grow_cases elements with
      ⟨stack, hgrow⟩ | ⟨before, op, after, stack, rfl, hgrow, hshort⟩
    · have hlisted : elements = postorders stack.reverse := by
        simpa [postorders] using (postorders_of_foldlM_grow hgrow).symm
      have hlength : stack.length ≠ 1 := fun hone =>
        have ⟨tree, htree⟩ := exists_postorder_of_grow hgrow hone
        hnone tree htree
      refine ⟨elements, stack.reverse, hlisted, supplied_of_foldlM_grow hgrow, ?_, .inr ?_⟩
      · rw [hlisted, balance_postorders]
      · rw [List.length_reverse]
        exact ⟨rfl, hlength, endsWith_valuesLeft hgrow hlength (hlisted ▸ hprovided)⟩
    · have hlisted : before = postorders stack.reverse := by
        simpa [postorders] using (postorders_of_foldlM_grow hgrow).symm
      have hbefore : Provided values (postorders stack.reverse) := fun name hname =>
        hprovided name (List.mem_append_left _ (hlisted ▸ hname))
      refine ⟨before, stack.reverse, hlisted, supplied_of_foldlM_grow hgrow, ?_,
        .inl ⟨op, after, rfl, ?_⟩⟩
      · rw [hlisted, balance_postorders]
      · rw [List.length_reverse]
        exact ⟨hshort, endsWith_notEnoughOperands hgrow hshort hbefore⟩

/-- A quotient by zero in front of a sum: the sum is never computed. -/
theorem evaluateElements_meaning_quotient :
    let x : Operand := .variable ['x']
    let zero : Operand := .literal ['0'] 0.0
    let tree : Tree := .binary .add (.binary .div (.operand x) (.operand zero)) (.operand x)
    Provided [(['x'], 2.5)] tree.postorder ∧
      evaluateElements [(['x'], 2.5)] tree.postorder =
        .error (.operation (.binary .div) .divisionByZero) := by
  intro x zero tree
  have hprovided : Provided [(['x'], 2.5)] tree.postorder := by
    intro name hname
    simp [tree, x, zero, Tree.postorder] at hname
    subst hname
    rfl
  have htree := (evaluateElements_meaning _ _ hprovided).2.1 tree rfl
  refine ⟨hprovided, htree.1.trans ?_⟩
  rfl

end Formula
