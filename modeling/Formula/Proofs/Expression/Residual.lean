import Formula.Proofs.Session

/-!
# Residuals

An equality is a comparison with its last element exchanged: the same row with a
subtraction at its end.  Up to that element both are evaluated alike, so what each gives is
told by the numbers that stand on the stack in front of it.  Two numbers alone give a truth
value here and the residual there; everything else is a fault of both.

A comparison never fails, but a subtraction may.  Where numbers are left over below the
two, the fault of the subtraction comes before theirs.

## Main results

* `Expression.evaluate_of_last`: an expression by the stack in front of its last element.
* `Expression.residual_of_makeEquality`: what a comparison and its equality give.
* `makeEquality_residual`: when an equality is made, of what, and what it gives.
-/

namespace Formula

open Outcome

/-- Whether a relation holds between two numbers. -/
def Relation.compares : Relation → Value → Value → Bool
  | equal, x, y => x.equals y
  | greater, x, y => y.less x
  | less, x, y => x.less y

theorem inRange_truth (b : Bool) : inRange (truth b) = .ok (truth b) := by
  cases b <;> rfl

/-- A comparison has a value, whatever it compares. -/
theorem Relation.value_operation (relation : Relation) (x y : Value) :
    Operation.value relation.operation [x, y] =
      .ok (.float (truth (relation.compares x y))) := by
  have hvalue : Operation.value relation.operation [x, y] =
      (Value.float <$> inRange (truth (relation.compares x y))).mapError
        (.operation relation.operation) := by
    cases relation <;> rfl
  rw [hvalue, inRange_truth]
  rfl

/-- The operation that a relation was takes two numbers. -/
theorem Relation.exists_binary (relation : Relation) :
    ∃ op : BinaryOperation, relation.operation = .binary op := by
  cases relation with
  | equal => exact ⟨.equal, rfl⟩
  | greater => exact ⟨.greater, rfl⟩
  | less => exact ⟨.less, rfl⟩

/-! ## The stack in front of the last element -/

/-- What a row gives whose last element is an operation on two numbers, by the stack that
the operation finds. -/
def endWith (op : BinaryOperation) : List Value → Except EvaluationFault Value
  | y :: x :: below => do onlyValue ((← Operation.value (.binary op) [x, y]) :: below)
  | stack => .error (.notEnoughOperands (.binary op) stack.length)

theorem evaluateElements_of_last (values : Values) (init : List Element)
    (op : BinaryOperation) :
    evaluateElements values (init ++ [.operation (.binary op)]) =
      init.foldlM (Element.run values) [] >>= endWith op := by
  rw [evaluateElements, List.foldlM_append]
  cases init.foldlM (Element.run values) [] with
  | error fault => rfl
  | ok stack =>
      match stack with
      | [] => rfl
      | [x] => rfl
      | y :: x :: below =>
          simp only [ok_bind, List.foldlM_cons, List.foldlM_nil, bind_pure, Element.run_binary,
            endWith]
          cases Operation.value (.binary op) [x, y] <;> rfl

/-- More numbers than one are left over with their count. -/
theorem onlyValue_cons_cons (x y : Value) (below : List Value) :
    onlyValue (x :: y :: below) = .error (.valuesLeft (below.length + 2)) := rfl

namespace Expression

/-- The numbers on the stack in front of the last element of an expression. -/
def reached (expression : Expression) (bindings : List (Text × Value)) :
    Except EvaluationFault (List Value) := do
  expression.elements.dropLast.foldlM (Element.run (← expression.values bindings)) []

variable {comparison equality : Expression} {relation : Relation} {init : List Element}

/-- An expression gives what its last element makes of the stack in front of it. -/
theorem evaluate_of_last {op : BinaryOperation}
    (h : comparison.elements = init ++ [.operation (.binary op)])
    (bindings : List (Text × Value)) :
    comparison.evaluate bindings = comparison.reached bindings >>= endWith op := by
  rw [evaluate, reached, h, List.dropLast_concat]
  cases comparison.values bindings with
  | error fault => rfl
  | ok values => exact evaluateElements_of_last values init op

/-- The equality that is made of a comparison with the given elements in front. -/
def residual (comparison : Expression) (relation : Relation) (init : List Element) :
    Expression :=
  { comparison with
    elements := init ++ [.operation (.binary .sub)]
    relation := some relation }

/-- An expression and its residual are evaluated alike up to the last element. -/
theorem reached_residual {last : Element} (h : comparison.elements = init ++ [last])
    (bindings : List (Text × Value)) :
    (comparison.residual relation init).reached bindings = comparison.reached bindings := by
  rw [reached, reached, h, List.dropLast_concat, residual, List.dropLast_concat]
  rfl

theorem lastRelation?_eq_some_iff :
    comparison.lastRelation? = some relation ↔
      ∃ init, comparison.elements = init ++ [.operation relation.operation] := by
  constructor
  · intro h
    unfold lastRelation? at h
    split at h
    · rename_i op hlast
      obtain ⟨init, hinit⟩ := List.getLast?_eq_some_iff.1 hlast
      rw [← (op.relation?_eq_some_iff relation).1 h]
      exact ⟨init, hinit⟩
    · cases h
  · rintro ⟨init, hinit⟩
    rw [lastRelation?, hinit, List.getLast?_concat]
    exact (relation.operation.relation?_eq_some_iff relation).2 rfl

/-- An equality is made of an expression that is none yet and ends in a comparison; its
last element alone changes. -/
theorem makeEquality_eq_ok_iff :
    comparison.makeEquality = .ok equality ↔
      comparison.relation = none ∧ ∃ init relation,
        comparison.elements = init ++ [.operation relation.operation] ∧
        equality = comparison.residual relation init := by
  constructor
  · intro h
    unfold makeEquality at h
    split at h
    · cases h
    · rename_i hnone
      split at h
      · cases h
      · rename_i relation hlast
        cases h
        obtain ⟨init, hinit⟩ := lastRelation?_eq_some_iff.1 hlast
        refine ⟨by simpa [isEquality] using hnone, init, relation, hinit, ?_⟩
        rw [residual, hinit, List.dropLast_concat]
  · rintro ⟨hnone, init, relation, hinit, rfl⟩
    have hlast := lastRelation?_eq_some_iff.2 ⟨init, hinit⟩
    rw [makeEquality, isEquality, hnone, hlast, residual, hinit, List.dropLast_concat]
    rfl

/-- What a comparison and its equality give, by the stack in front of their last element.
The residual is the difference of the two numbers that the comparison compares. -/
def ResidualLaw (comparison equality : Expression) (relation : Relation)
    (bindings : List (Text × Value)) : Prop :=
  match comparison.reached bindings with
  | .error fault =>
      comparison.evaluate bindings = .error fault ∧ equality.evaluate bindings = .error fault
  | .ok [y, x] =>
      comparison.evaluate bindings = .ok (.float (truth (relation.compares x y))) ∧
        equality.evaluate bindings = Operation.value (.binary .sub) [x, y]
  | .ok (y :: x :: below) =>
      comparison.evaluate bindings = .error (.valuesLeft (below.length + 1)) ∧
        equality.evaluate bindings = (do
          let _ ← Operation.value (.binary .sub) [x, y]
          .error (.valuesLeft (below.length + 1)))
  | .ok stack =>
      comparison.evaluate bindings =
          .error (.notEnoughOperands relation.operation stack.length) ∧
        equality.evaluate bindings = .error (.notEnoughOperands (.binary .sub) stack.length)

theorem residual_of_makeEquality
    (h : comparison.elements = init ++ [.operation relation.operation])
    (bindings : List (Text × Value)) :
    ResidualLaw comparison (comparison.residual relation init) relation bindings := by
  obtain ⟨op, hop⟩ := relation.exists_binary
  have hvalue (x y : Value) : Operation.value (.binary op) [x, y] =
      .ok (.float (truth (relation.compares x y))) := by
    rw [← hop, relation.value_operation]
  have hcomparison := evaluate_of_last (hop ▸ h) bindings
  have hequality : (comparison.residual relation init).evaluate bindings =
      comparison.reached bindings >>= endWith .sub := by
    have hlast : (comparison.residual relation init).elements =
        init ++ [.operation (.binary .sub)] := rfl
    rw [evaluate_of_last hlast bindings, reached_residual h]
  unfold ResidualLaw
  rw [hcomparison, hequality]
  cases comparison.reached bindings with
  | error fault => exact ⟨rfl, rfl⟩
  | ok stack =>
      match stack with
      | [] => exact ⟨by rw [hop]; rfl, rfl⟩
      | [x] => exact ⟨by rw [hop]; rfl, rfl⟩
      | [y, x] =>
          refine ⟨?_, ?_⟩
          · simp only [ok_bind, endWith, hvalue, onlyValue]
          · simp only [ok_bind, endWith]
            cases Operation.value (.binary .sub) [x, y] <;> rfl
      | y :: x :: left :: below =>
          refine ⟨?_, ?_⟩
          · simp only [ok_bind, endWith, hvalue, onlyValue_cons_cons, List.length_cons]
          · simp only [ok_bind, endWith, onlyValue_cons_cons, List.length_cons]

/-- An equality is tested on its value, or fails as its value does. -/
theorem holds_of_relation (h : equality.relation = some relation)
    (bindings : List (Text × Value)) (tolerance : Value) :
    equality.holds bindings tolerance =
      (match equality.evaluate bindings with
        | .ok r => .ok (relation.holds r tolerance)
        | .error fault => .error (.evaluation fault)) := by
  rw [holds, h]
  cases equality.evaluate bindings <;> rfl

end Expression

/-- **What it means to make an equality.**  It can be made of an expression that is none
yet and ends in a comparison, and of no other; what cannot be made changes nothing.  All
that changes is the last element, and the relation, which is the comparison that stood
there.  The equality and the comparison then give what the stack in front of that element
tells, and the equality is tested on its residual.  It stays an equality whatever is done
to it later, so it cannot be made again. -/
theorem makeEquality_residual (comparison : Expression) :
    ((∃ equality, comparison.makeEquality = .ok equality) ↔
      comparison.relation = none ∧ ∃ init relation,
        comparison.elements = init ++ [.operation (Relation.operation relation)]) ∧
    (∀ (fault : RelationFault) (session : Session), session.current = comparison →
      comparison.makeEquality = .error fault →
        session.run .makeEquality = .error (.relation fault) ∧
          session.after .makeEquality = session) ∧
    (∀ equality, comparison.makeEquality = .ok equality → ∃ init relation,
      (comparison.elements = init ++ [.operation (Relation.operation relation)] ∧
        equality.elements = init ++ [.operation (.binary .sub)] ∧
        equality.slots = comparison.slots ∧ equality.relation = some relation) ∧
      (∀ bindings, Expression.ResidualLaw comparison equality relation bindings) ∧
      (∀ bindings tolerance,
        equality.holds bindings tolerance =
          match equality.evaluate bindings with
          | .ok r => .ok (match relation with
            | .equal => r.abs.atMost tolerance
            | .greater => r.isPositive
            | .less => r.isNegative)
          | .error fault => .error (.evaluation fault)) ∧
      ∀ (session : Session) (commands : List Command), session.current = equality →
        (∀ command ∈ commands, command.replaces = false) →
        (commands.foldl Session.after session).run .makeEquality =
          .error (.relation .alreadyEquality)) := by
  refine ⟨?_, ?_, ?_⟩
  · constructor
    · rintro ⟨equality, h⟩
      obtain ⟨hnone, init, relation, hinit, _⟩ := Expression.makeEquality_eq_ok_iff.1 h
      exact ⟨hnone, init, relation, hinit⟩
    · rintro ⟨hnone, init, relation, hinit⟩
      exact ⟨_, Expression.makeEquality_eq_ok_iff.2 ⟨hnone, init, relation, hinit, rfl⟩⟩
  · rintro fault session rfl h
    have hrun : session.run .makeEquality = .error (.relation fault) := by
      rw [Session.run, h]
      rfl
    exact ⟨hrun, Session.after_of_error hrun⟩
  · intro equality h
    obtain ⟨_, init, relation, hinit, rfl⟩ := Expression.makeEquality_eq_ok_iff.1 h
    refine ⟨init, relation, ⟨hinit, rfl, rfl, rfl⟩,
      Expression.residual_of_makeEquality hinit, ?_, ?_⟩
    · intro bindings tolerance
      rw [Expression.holds_of_relation rfl bindings tolerance]
      cases relation <;> rfl
    · rintro session commands hcurrent hcommands
      have hrelation : session.current.relation = some relation := by rw [hcurrent]; rfl
      have hlater := Session.relation_foldl_after hcommands hrelation
      rw [Session.run, Expression.makeEquality_of_relation hlater]
      rfl

end Formula
