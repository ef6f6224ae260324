import Formula.Parse
import Formula.Proofs.Number.Difference
import Formula.Proofs.Expression.Residual
import Formula.Proofs.Expression.Finiteness

/-!
# Two ways to test a comparison

A comparison can be evaluated as it is, or turned into an equality that is tested on its
residual.  The first compares two numbers, the second subtracts them and looks at the sign.
The sign is the right one whenever the difference is in range.  When it is not, only the
first way gives an answer.

The two numbers are doubles: the slots of a parsed expression hold doubles, bindings are
rounded to doubles, and so are literals, constants and all that operations give.

## Main results

* `Relation.holds_sub`: a relation and the sign of the difference agree in range.
* `Expression.reached_floats`: only doubles stand on the stack of a parsed expression.
* `holds_of_parseAsEquality`: what the test of an equality gives where its comparison has a
  value.
-/

namespace Formula

open Outcome

/-- A relation between two numbers is the one that their difference has to zero, if the
difference is in range. -/
theorem Relation.holds_sub (relation : Relation) {x y : Float}
    (h : (x - y).isFinite = true) :
    relation.holds (.float (x - y)) 0.0 = relation.compares (.float x) (.float y) := by
  cases relation with
  | equal => exact Number.abs_sub_le_zero h
  | greater => exact Number.sub_gt_zero h
  | less => exact Number.sub_lt_zero h

theorem value_sub (x y : Float) :
    Operation.value (.binary .sub) [.float x, .float y] =
      if (x - y).isFinite then .ok (.float (x - y))
      else .error (.operation (.binary .sub) .range) := by
  have hvalue : Operation.value (.binary .sub) [.float x, .float y] =
      (Value.float <$> inRange (x - y)).mapError (.operation (.binary .sub)) := rfl
  rw [hvalue, inRange]
  split <;> rfl

theorem isTrue_truth (b : Bool) : isTrue (.float (truth b)) = b := by
  cases b <;> rfl

/-- A row that ends in a comparison has a value where two numbers alone are reached. -/
theorem Expression.ResidualLaw.exists_pair {comparison equality : Expression}
    {relation : Relation} {bindings : List (Text × Value)} {value : Value}
    (law : Expression.ResidualLaw comparison equality relation bindings)
    (hvalue : comparison.evaluate bindings = .ok value) :
    ∃ x y, comparison.reached bindings = .ok [y, x] ∧
      comparison.evaluate bindings = .ok (.float (truth (relation.compares x y))) ∧
      equality.evaluate bindings = Operation.value (.binary .sub) [x, y] := by
  unfold Expression.ResidualLaw at law
  split at law
  · rw [law.1] at hvalue
    cases hvalue
  · rename_i y x hreached
    exact ⟨x, y, hreached, law⟩
  · rw [law.1] at hvalue
    cases hvalue
  · rw [law.1] at hvalue
    cases hvalue

/-! ## Doubles on the stack -/

/-- Whether a value is a double. -/
def Value.IsFloat (value : Value) : Prop := ∃ x, value = .float x

/-- Slots are made with the double 0. -/
theorem Expression.value_of_mem_slotsOf {names : List Text} {slot : Slot}
    (h : slot ∈ slotsOf names) : slot.value = 0.0 := by
  have hzero : ∀ slot ∈ slotsOf names, slot.value = 0.0 := by
    refine List.foldlRecOn (motive := fun slots : List Slot => ∀ slot ∈ slots, slot.value = 0.0)
      names _ (by simp) ?_
    intro slots hslots name _
    split
    · exact hslots
    · rw [List.forall_mem_append]
      exact ⟨hslots, List.forall_mem_singleton.2 rfl⟩
  exact hzero slot h

/-- A parsed expression gives its variables doubles, whatever they are bound to. -/
theorem Expression.isFloat_of_lookup {source : Text} {names : List Text} {config : Config}
    {expression : Expression} (hparse : parse source names config = .ok expression)
    {bindings : List (Text × Value)} (htaken : ∀ binding ∈ bindings, expression.Takes binding)
    {name : Text} {value : Value}
    (h : (Values.ofSlots (expression.substitute bindings).slots).lookup name = some value) :
    value.IsFloat := by
  obtain ⟨slot, hslot, _, rfl⟩ := exists_slot_of_lookup h
  rcases expression.valueUnder_cases bindings slot with hsame | ⟨binding, hmem, hsame⟩
  · rw [hsame]
    rw [slots_of_parse hparse] at hslot
    exact ⟨0.0, value_of_mem_slotsOf hslot⟩
  · obtain ⟨x, _, hrounded⟩ := Value.exists_of_fits (htaken binding hmem).2
    exact ⟨x, hsame.trans hrounded⟩

/-- Only doubles stand on the stack in front of the last element of a parsed expression. -/
theorem Expression.reached_floats {source : Text} {names : List Text} {config : Config}
    {expression : Expression} (hparse : parse source names config = .ok expression)
    {bindings : List (Text × Value)} {stack : List Value}
    (h : expression.reached bindings = .ok stack) : ∀ value ∈ stack, value.IsFloat := by
  rcases taken_or_firstRefused expression bindings with htaken | ⟨fault, hfirst⟩
  · rw [reached, values_of_taken htaken, ok_bind] at h
    refine forall_of_foldlM_run h (fun x _ => ⟨x, rfl⟩) ?_ (by simp)
    rintro (⟨text, x⟩ | c | name) _ value hvalue
    · exact ⟨x, (Except.ok.inj hvalue).symm⟩
    · exact ⟨c.value, (Except.ok.inj hvalue).symm⟩
    · rw [Operand.value] at hvalue
      split at hvalue
      · rename_i y hlookup
        cases hvalue
        exact isFloat_of_lookup hparse htaken hlookup
      · cases hvalue
  · rw [reached, values_of_firstRefused hfirst] at h
    cases h

/-- **The two tests of a comparison.**  Let a source be accepted as an equality, and let the
comparison that it is have a value.  Then two numbers are compared, and the comparison gives
whether the relation holds between them.  The equality gives the same at tolerance 0, unless
the difference of the two numbers is out of range; it fails then, and only then. -/
theorem holds_of_parseAsEquality (source : Text) (names : List Text) (config : Config)
    {equality : Expression} (h : parseAsEquality source names config = .ok equality) :
    ∃ comparison relation, parse source names config = .ok comparison ∧
      equality.relation = some relation ∧
      ∀ bindings value, comparison.evaluate bindings = .ok value →
        ∃ x y : Float, comparison.reached bindings = .ok [.float y, .float x] ∧
          comparison.evaluateAsBoolean bindings =
            .ok (relation.compares (.float x) (.float y)) ∧
          equality.holds bindings 0.0 =
            if (x - y).isFinite then .ok (relation.compares (.float x) (.float y))
            else .error (.evaluation (.operation (.binary .sub) .range)) := by
  obtain ⟨comparison, hparse, hmake⟩ := exists_of_bind h
  obtain ⟨_, init, relation, hinit, rfl⟩ :=
    Expression.makeEquality_eq_ok_iff.1 (eq_ok_of_mapError hmake)
  refine ⟨comparison, relation, hparse, rfl, fun bindings value hvalue => ?_⟩
  obtain ⟨first, second, hreached, hcomparison, hresidual⟩ :=
    (Expression.residual_of_makeEquality hinit bindings).exists_pair hvalue
  have hfloats := Expression.reached_floats hparse hreached
  obtain ⟨x, rfl⟩ := hfloats first (by simp)
  obtain ⟨y, rfl⟩ := hfloats second (by simp)
  refine ⟨x, y, hreached, ?_, ?_⟩
  · rw [Expression.evaluateAsBoolean, hcomparison, ok_bind, isTrue_truth]
    rfl
  · rw [Expression.holds_of_relation rfl, hresidual, value_sub]
    by_cases hfinite : (x - y).isFinite = true
    · rw [if_pos hfinite, if_pos hfinite, ← relation.holds_sub hfinite]
    · rw [if_neg hfinite, if_neg hfinite]

/-- Two is greater than one, and so is their difference greater than zero. -/
theorem holds_of_parseAsEquality_greater :
    ∃ equality, parseAsEquality "x > y".toList [['x'], ['y']] {} = .ok equality ∧
      equality.holds [(['x'], 2.0), (['y'], .int 1)] 0.0 = .ok true := by
  have h : parseAsEquality "x > y".toList [['x'], ['y']] {} = .ok
      { Expression.ofNames [['x'], ['y']] with
        elements := [.operand (.variable ['x']), .operand (.variable ['y']),
          .operation (.binary .sub)]
        relation := some .greater } := rfl
  obtain ⟨comparison, relation, hparse, hrelation, htests⟩ :=
    holds_of_parseAsEquality "x > y".toList [['x'], ['y']] {} h
  cases hparse
  cases hrelation
  obtain ⟨x, y, hreached, _, hholds⟩ :=
    htests [(['x'], 2.0), (['y'], .int 1)] 1.0 (by decide +kernel)
  cases hreached
  exact ⟨_, h, hholds⟩

/-- A number near the end of the range is greater than its negative, but their difference is
out of range. -/
theorem holds_out_of_range :
    ∃ comparison equality,
      parse "x > y".toList [['x'], ['y']] {} = .ok comparison ∧
      parseAsEquality "x > y".toList [['x'], ['y']] {} = .ok equality ∧
      comparison.evaluate [(['x'], .float 1e308), (['y'], .float (-1e308))] = .ok 1.0 ∧
      comparison.evaluateAsBoolean [(['x'], .float 1e308), (['y'], .float (-1e308))] = .ok true ∧
      equality.holds [(['x'], .float 1e308), (['y'], .float (-1e308))] 0.0 =
        .error (.evaluation (.operation (.binary .sub) .range)) := by
  -- The numbers are too large to unfold an evaluation, so it goes through the residual law.
  have hgreater : Relation.greater.compares (.float 1e308) (.float (-1e308)) = true := by
    decide +kernel
  have hrange : ((1e308 : Float) - -1e308).isFinite = false := by decide +kernel
  let init : List Element := [.operand (.variable ['x']), .operand (.variable ['y'])]
  let comparison : Expression :=
    { Expression.ofNames [['x'], ['y']] with
      elements := init ++ [.operation (.binary .greater)] }
  have hreached : comparison.reached [(['x'], .float 1e308), (['y'], .float (-1e308))] =
      .ok [.float (-1e308), .float 1e308] := rfl
  have law : Expression.ResidualLaw comparison (comparison.residual .greater init) .greater
      [(['x'], .float 1e308), (['y'], .float (-1e308))] := Expression.residual_of_makeEquality rfl _
  rw [Expression.ResidualLaw, hreached] at law
  obtain ⟨hcomparison, hresidual⟩ := law
  rw [hgreater] at hcomparison
  refine ⟨comparison, comparison.residual .greater init, rfl, rfl, hcomparison, ?_, ?_⟩
  · rw [Expression.evaluateAsBoolean, hcomparison, ok_bind, isTrue_truth]
    rfl
  · rw [Expression.holds_of_relation rfl, hresidual, value_sub, hrange]
    rfl

end Formula
