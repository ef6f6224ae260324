import Formula.Proofs.Expression.Binding
import Formula.Proofs.Parse.Conservation
import Mathlib.Data.List.Induction

/-!
# Finite results

A double may be infinite or not a number, and a variable may hold such a double.  Nothing else
brings one onto the stack: literals and constants are finite, an integer always is, and an
operation whose result is not finite fails.  Nor can one be handed on, since all that an
operation takes off the stack is gone.  What remains is a variable that is the result itself,
and it is only if nothing else is there: a stack with something on it is never emptied again,
so a last element that is an operand leaves the one number that a result is only as the first
element.

## Main results

* `Element.run_operation_eq_ok`: what an operation does to the stack.
* `forall_of_foldlM_run`: what holds of the operands and of finite doubles holds of the stack.
* `exists_operand_of_evaluates`: a result that is not finite is the value of the only element.
* `evaluate_finite`: which parsed expressions have a result that is not finite.
-/

namespace Formula

open Outcome

/-! ## What an operation puts on the stack -/

/-- What a value is rounded to is finite. -/
theorem Value.isFinite_of_settle {value : Value} {x : Float} (h : value.settle = .ok x) :
    x.isFinite = true := by
  obtain ⟨_, _, hrange⟩ := exists_of_bind h
  exact isFinite_of_inRange hrange

/-- An operation gives a finite number or fails. -/
theorem Operation.isFinite_of_apply {op : Operation} {args : List Value} {x : Float}
    (h : op.apply args = .ok x) : x.isFinite = true := by
  unfold Operation.apply at h
  split at h
  · obtain ⟨value, _, hsettle⟩ := exists_of_bind h
    exact Value.isFinite_of_settle hsettle
  · obtain ⟨value, _, hsettle⟩ := exists_of_bind h
    exact Value.isFinite_of_settle hsettle
  · cases h

variable {values : Values} {elements : List Element} {stack stack' : List Value}

/-- An operation puts a finite double in the place of its arguments. -/
theorem Element.run_operation_eq_ok {op : Operation}
    (h : Element.run values stack (.operation op) = .ok stack') :
    op.arity ≤ stack.length ∧
      ∃ x, op.apply (stack.take op.arity).reverse = .ok x ∧ x.isFinite = true ∧
        stack' = .float x :: stack.drop op.arity := by
  rw [Element.run] at h
  split at h
  · cases h
  · rename_i henough
    obtain ⟨value, hvalue, hstack⟩ := exists_of_bind h
    obtain ⟨x, happly, hx⟩ := exists_of_bind (eq_ok_of_mapError hvalue)
    cases hx
    cases hstack
    exact ⟨Nat.le_of_not_lt henough, x, happly, Operation.isFinite_of_apply happly, rfl⟩

/-- An operand puts its value upon the stack. -/
theorem Element.run_operand_eq_ok {o : Operand}
    (h : Element.run values stack (.operand o) = .ok stack') :
    ∃ x, o.value values = .ok x ∧ stack' = x :: stack := by
  obtain ⟨x, hvalue, hstack⟩ := exists_of_bind h
  cases hstack
  exact ⟨x, hvalue, rfl⟩

/-! ## What a row leaves on the stack -/

theorem Element.ne_nil_of_run {element : Element}
    (h : Element.run values stack element = .ok stack') : stack' ≠ [] := by
  cases element with
  | operand o =>
      obtain ⟨x, _, rfl⟩ := run_operand_eq_ok h
      simp
  | operation op =>
      obtain ⟨_, x, _, _, rfl⟩ := run_operation_eq_ok h
      simp

/-- Only a row without elements leaves the stack empty. -/
theorem eq_nil_of_foldlM_run (h : elements.foldlM (Element.run values) stack = .ok []) :
    elements = [] := by
  rcases List.eq_nil_or_concat' elements with hnil | ⟨front, last, rfl⟩
  · exact hnil
  · rw [List.foldlM_append] at h
    obtain ⟨reached, _, hlast⟩ := exists_of_bind h
    rw [List.foldlM_cons] at hlast
    obtain ⟨next, hrun, hnext⟩ := exists_of_bind hlast
    cases hnext
    exact absurd rfl (Element.ne_nil_of_run hrun)

/-- What holds of the values of the operands, and of every finite double, holds of all that
comes to stand on the stack. -/
theorem forall_of_foldlM_run {P : Value → Prop}
    (h : elements.foldlM (Element.run values) stack = .ok stack')
    (hoperation : ∀ x : Float, x.isFinite = true → P (.float x))
    (hoperands : ∀ o, .operand o ∈ elements → ∀ x, o.value values = .ok x → P x)
    (hstack : ∀ x ∈ stack, P x) : ∀ x ∈ stack', P x := by
  induction elements generalizing stack with
  | nil =>
      cases h
      exact hstack
  | cons element elements ih =>
      rw [List.foldlM_cons] at h
      obtain ⟨next, hrun, hrest⟩ := exists_of_bind h
      refine ih hrest (fun o ho => hoperands o (List.mem_cons_of_mem _ ho)) ?_
      cases element with
      | operand o =>
          obtain ⟨x, hvalue, rfl⟩ := Element.run_operand_eq_ok hrun
          exact List.forall_mem_cons.2 ⟨hoperands o List.mem_cons_self x hvalue, hstack⟩
      | operation op =>
          obtain ⟨_, x, _, hfinite, rfl⟩ := Element.run_operation_eq_ok hrun
          refine List.forall_mem_cons.2 ⟨hoperation x hfinite, fun y hy => hstack y ?_⟩
          exact List.mem_of_mem_drop hy

theorem eq_singleton_of_onlyValue {x : Value} (h : onlyValue stack = .ok x) : stack = [x] := by
  match stack, h with
  | [_], h =>
      cases h
      rfl

/-- A result that is not finite is the value of an operand, and the operand is all there is. -/
theorem exists_operand_of_evaluates {x : Value}
    (h : evaluateElements values elements = .ok x) (hx : x.isFinite = false) :
    ∃ o, elements = [.operand o] ∧ o.value values = .ok x := by
  obtain ⟨stack, hrun, honly⟩ := exists_of_bind h
  have hstack := eq_singleton_of_onlyValue honly
  subst hstack
  rcases List.eq_nil_or_concat' elements with rfl | ⟨front, last, rfl⟩
  · cases hrun
  · rw [List.foldlM_append] at hrun
    obtain ⟨reached, hfront, hlast⟩ := exists_of_bind hrun
    rw [List.foldlM_cons] at hlast
    obtain ⟨next, hnext, hend⟩ := exists_of_bind hlast
    cases hend
    cases last with
    | operation op =>
        obtain ⟨_, y, _, hfinite, hstack⟩ := Element.run_operation_eq_ok hnext
        have hxy : x = .float y := (List.cons.inj hstack).1
        rw [hxy, Value.isFinite, hfinite] at hx
        cases hx
    | operand o =>
        obtain ⟨y, hvalue, hstack⟩ := Element.run_operand_eq_ok hnext
        -- The operand stands alone on the stack, so nothing was there before it.
        cases hstack
        have hnone := eq_nil_of_foldlM_run hfront
        subst hnone
        exact ⟨o, rfl, hvalue⟩

/-! ## Parsed expressions -/

/-- The constants are finite. -/
theorem Symbol.isFinite_of_constant? {name : Text} {c : Constant}
    (h : Symbol.constant? name = some c) : c.value.isFinite = true := by
  have hall : (Symbol.constants.all fun c => c.value.isFinite) = true := rfl
  exact List.all_eq_true.1 hall c (List.mem_of_find?_eq_some h)

/-- An operand whose value is not finite is a variable, if it is what it says. -/
theorem Operand.Resolved.exists_variable {slots : List Slot} {o : Operand} {x : Value}
    (h : o.Resolved slots) (hvalue : o.value values = .ok x) (hx : x.isFinite = false) :
    ∃ name, o = .variable name ∧ values.lookup name = some x := by
  rcases o with ⟨text, y⟩ | c | name
  · cases hvalue
    rw [Value.isFinite, h.2] at hx
    cases hx
  · cases hvalue
    rw [Value.isFinite, Symbol.isFinite_of_constant? h] at hx
    cases hx
  · refine ⟨name, rfl, ?_⟩
    rw [Operand.value] at hvalue
    split at hvalue
    · rename_i y hlookup
      cases hvalue
      exact hlookup
    · cases hvalue

namespace Expression

variable {expression : Expression} {bindings : List (Text × Value)}

/-- Where evaluation has a result, its variables have values. -/
theorem evaluateElements_of_evaluate {x : Value} (h : expression.evaluate bindings = .ok x) :
    evaluateElements (Values.ofSlots (expression.substitute bindings).slots)
      expression.elements = .ok x := by
  rcases taken_or_firstRefused expression bindings with htaken | ⟨fault, hfirst⟩
  · rwa [evaluate, values_of_taken htaken] at h
  · rw [evaluate_of_firstRefused hfirst] at h
    cases h

theorem exists_slot_of_lookup {name : Text} {x : Value}
    (h : (Values.ofSlots (expression.substitute bindings).slots).lookup name = some x) :
    ∃ slot ∈ expression.slots, slot.name = name ∧ expression.valueUnder bindings slot = x := by
  rw [lookup_substitute] at h
  obtain ⟨slot, hslot, hvalue⟩ := Option.map_eq_some_iff.1 h
  exact ⟨slot, List.mem_of_find?_eq_some hslot, by simpa using List.find?_some hslot, hvalue⟩

/-- The value of a variable is that of its slot, or that of a binding as a double. -/
theorem valueUnder_cases (expression : Expression) (bindings : List (Text × Value))
    (slot : Slot) :
    expression.valueUnder bindings slot = slot.value ∨
      ∃ binding ∈ bindings, expression.valueUnder bindings slot = binding.2.rounded := by
  unfold valueUnder bound?
  cases hlast : (bindings.filter fun binding =>
    expression.resolve? binding.1 = some slot.name).getLast? with
  | none => exact .inl rfl
  | some binding =>
      exact .inr ⟨binding, (List.mem_filter.1 (List.mem_of_getLast? hlast)).1, rfl⟩

end Expression

/-- **Finite results.**  In a parsed expression, whatever its slots hold and its variables are
bound to, every number that an operation puts on the stack is finite, and so are the literals
and the constants.  A result that is not finite is the value of a variable, and the variable is
all of the expression.  So a result is finite if all slots and bindings are. -/
theorem evaluate_finite {source : Text} {names : List Text} {config : Config}
    {expression : Expression} (hparse : parse source names config = .ok expression)
    (slots : List Slot) (bindings : List (Text × Value)) :
    (∀ (values : Values) (before after : List Element) (op : Operation)
        (stack stack' : List Value),
      expression.elements = before ++ .operation op :: after →
      before.foldlM (Element.run values) [] = .ok stack →
      Element.run values stack (.operation op) = .ok stack' →
      ∃ x, op.apply (stack.take op.arity).reverse = .ok x ∧ x.isFinite = true ∧
        stack' = .float x :: stack.drop op.arity) ∧
    (∀ text x, .operand (.literal text x) ∈ expression.elements → x.isFinite = true) ∧
    (∀ c, .operand (.constant c) ∈ expression.elements → c.value.isFinite = true) ∧
    (∀ x, { expression with slots }.evaluate bindings = .ok x → x.isFinite = false →
      ∃ slot ∈ slots, expression.elements = [.operand (.variable slot.name)] ∧
        x = { expression with slots }.valueUnder bindings slot) ∧
    ((∀ slot ∈ slots, slot.value.isFinite = true) →
      (∀ binding ∈ bindings, binding.2.isFinite = true) →
      ∀ x, { expression with slots }.evaluate bindings = .ok x → x.isFinite = true) := by
  have hvariable : ∀ x, { expression with slots }.evaluate bindings = .ok x →
      x.isFinite = false →
      ∃ slot ∈ slots, expression.elements = [.operand (.variable slot.name)] ∧
        x = { expression with slots }.valueUnder bindings slot := by
    intro x hvalue hx
    obtain ⟨o, helements, hoperand⟩ :=
      exists_operand_of_evaluates (Expression.evaluateElements_of_evaluate hvalue) hx
    have helements : expression.elements = [.operand o] := helements
    have hresolved : o.Resolved expression.slots :=
      resolved_of_parse hparse (by rw [helements]; exact List.mem_singleton_self _)
    obtain ⟨name, rfl, hlookup⟩ := hresolved.exists_variable hoperand hx
    obtain ⟨slot, hslot, rfl, hx⟩ := Expression.exists_slot_of_lookup hlookup
    exact ⟨slot, hslot, helements, hx.symm⟩
  refine ⟨?_, ?_, ?_, hvariable, ?_⟩
  · intro values before after op stack stack' _ _ hrun
    exact (Element.run_operation_eq_ok hrun).2
  · intro text x hmem
    exact (resolved_of_parse hparse hmem).2
  · intro c hmem
    exact Symbol.isFinite_of_constant? (resolved_of_parse hparse hmem)
  · intro hslots hbindings x hvalue
    obtain ⟨stack, hrun, honly⟩ :=
      exists_of_bind (Expression.evaluateElements_of_evaluate hvalue)
    have hfinite : ∀ x ∈ stack, x.isFinite = true := by
      refine forall_of_foldlM_run hrun (fun x hx => hx) ?_ (by simp)
      intro o ho y hoperand
      cases hy : y.isFinite with
      | true => rfl
      | false =>
          obtain ⟨name, rfl, hlookup⟩ :=
            (resolved_of_parse hparse ho).exists_variable hoperand hy
          obtain ⟨slot, hslot, _, rfl⟩ := Expression.exists_slot_of_lookup hlookup
          rcases Expression.valueUnder_cases { expression with slots } bindings slot with
            hsame | ⟨binding, hmem, hsame⟩
          · rw [hsame, hslots slot hslot] at hy
            cases hy
          · rw [hsame, Value.isFinite_rounded (hbindings binding hmem)] at hy
            cases hy
    rw [eq_singleton_of_onlyValue honly] at hfinite
    exact hfinite x (List.mem_singleton_self x)

/-- An infinite value that is the result of a mention of its variable, and of nothing else: a
sum with it fails. -/
theorem evaluate_finite_mention :
    (∃ mention, parse "x".toList [['x']] {} = .ok mention ∧
      mention.evaluate [(['x'], .float (1.0 / 0.0))] = .ok (.float (1.0 / 0.0)) ∧
      ∃ slot ∈ mention.slots, mention.elements = [.operand (.variable slot.name)]) ∧
    ∃ sum, parse "x + 1".toList [['x']] {} = .ok sum ∧
      sum.evaluate [(['x'], .float (1.0 / 0.0))] = .error (.operation (.binary .add) .range) ∧
      ∀ x, sum.evaluate [(['x'], 0.5)] = .ok x → x.isFinite = true := by
  constructor
  · have hparse : parse "x".toList [['x']] {} =
        .ok { Expression.ofNames [['x']] with elements := [.operand (.variable ['x'])] } := rfl
    have hvalue : { Expression.ofNames [['x']] with
        elements := [.operand (.variable ['x'])] }.evaluate [(['x'], .float (1.0 / 0.0))] =
          .ok (.float (1.0 / 0.0)) := rfl
    obtain ⟨_, _, _, hvariable, _⟩ :=
      evaluate_finite hparse (Expression.slotsOf [['x']]) [(['x'], .float (1.0 / 0.0))]
    obtain ⟨slot, hslot, helements, _⟩ := hvariable (.float (1.0 / 0.0)) hvalue rfl
    exact ⟨_, hparse, hvalue, slot, hslot, helements⟩
  · have hparse : parse "x + 1".toList [['x']] {} =
        .ok { Expression.ofNames [['x']] with
          elements := [.operand (.variable ['x']),
            .operand (.literal ['1'] (Float.ofScientific 1 true 0)),
            .operation (.binary .add)] } := rfl
    obtain ⟨_, _, _, _, hfinite⟩ :=
      evaluate_finite hparse (Expression.slotsOf [['x']]) [(['x'], 0.5)]
    exact ⟨_, hparse, rfl, hfinite (by decide) (by decide)⟩

end Formula
