import Formula.Proofs.Expression.Binding

/-!
# The order of bindings

Bindings have no names in common, but two names can still be for one variable: one that is
spelled as the variable is, and others that are only when they are folded.  The last of them
counts.  So bindings can be put into another order, and give the same, if all that are for
one variable give it one double; and if two of them do not, the order in which they come can
be seen.  A binding that has no double is refused wherever it comes.

## Main results

* `Expression.bound?_of_perm`: the order of bindings that agree does not count.
* `Expression.settled_of_evaluate`: bindings whose order never counts agree.
* `evaluate_reordered`: when bindings can be put into another order.
-/

namespace Formula

open Outcome

namespace Expression

variable {expression : Expression} {bindings other : List (Text × Value)} {name : Text}

/-- All bindings for a variable give it one value, once they are rounded. -/
def Settled (expression : Expression) (bindings : List (Text × Value)) (name : Text) : Prop :=
  ∀ first ∈ bindings, ∀ second ∈ bindings, expression.resolve? first.1 = some name →
    expression.resolve? second.1 = some name → first.2.rounded = second.2.rounded

theorem exists_of_bound? {value : Value} (h : expression.bound? bindings name = some value) :
    ∃ binding ∈ bindings,
      expression.resolve? binding.1 = some name ∧ binding.2.rounded = value := by
  obtain ⟨binding, hlast, hvalue⟩ := Option.map_eq_some_iff.1 h
  obtain ⟨hmem, hkey⟩ := List.mem_filter.1 (List.mem_of_getLast? hlast)
  exact ⟨binding, hmem, by simpa using hkey, hvalue⟩

theorem bound?_ne_none {binding : Text × Value} (hmem : binding ∈ bindings)
    (hkey : expression.resolve? binding.1 = some name) :
    expression.bound? bindings name ≠ none := by
  intro h
  rw [bound?, Option.map_eq_none_iff, List.getLast?_eq_none_iff, List.filter_eq_nil_iff] at h
  exact h binding hmem (by simpa using hkey)

/-- The order of bindings for one variable does not count if they agree. -/
theorem bound?_of_perm (h : other.Perm bindings) (hsettled : expression.Settled bindings name) :
    expression.bound? other name = expression.bound? bindings name := by
  cases hother : expression.bound? other name with
  | none =>
      cases hbound : expression.bound? bindings name with
      | none => rfl
      | some value =>
          obtain ⟨binding, hmem, hkey, _⟩ := exists_of_bound? hbound
          exact absurd hother (bound?_ne_none (h.mem_iff.2 hmem) hkey)
  | some value =>
      obtain ⟨binding, hmem, hkey, rfl⟩ := exists_of_bound? hother
      have hhere := h.mem_iff.1 hmem
      cases hbound : expression.bound? bindings name with
      | none => exact absurd hbound (bound?_ne_none hhere hkey)
      | some value =>
          obtain ⟨binding', hmem', hkey', rfl⟩ := exists_of_bound? hbound
          exact congrArg some (hsettled binding hhere binding' hmem' hkey hkey')

/-- Bindings that are known are refused if one of them has no double, wherever it comes. -/
theorem evaluate_of_tooLarge {binding : Text × Value}
    (hknown : ∀ binding ∈ bindings, expression.Knows binding.1) (hmem : binding ∈ bindings)
    (hfits : binding.2.fits = false) : expression.evaluate bindings = .error .tooLarge := by
  rcases taken_or_firstRefused expression bindings with htaken | ⟨fault, hfirst⟩
  · rw [(htaken binding hmem).2] at hfits
    cases hfits
  · rw [evaluate_of_firstRefused hfirst]
    obtain ⟨before, refused, after, rfl, _, hrefused⟩ := hfirst
    cases hrefused with
    | tooLarge => rfl
    | unknown hexact hlower =>
        exact absurd (hknown refused (by simp)) (not_or.2 ⟨hexact, hlower⟩)

/-- Bindings that agree on what is mentioned can be put into another order. -/
theorem evaluate_of_perm (hknown : ∀ binding ∈ bindings, expression.Knows binding.1)
    (hsettled : ∀ name, expression.Mentions name → expression.Settled bindings name)
    (h : other.Perm bindings) : expression.evaluate other = expression.evaluate bindings := by
  have hother : ∀ binding ∈ other, expression.Knows binding.1 :=
    fun binding hmem => hknown binding (h.mem_iff.1 hmem)
  by_cases hall : ∀ binding ∈ bindings, binding.2.fits = true
  · apply evaluate_congr (fun binding hmem => ⟨hknown binding hmem, hall binding hmem⟩)
      (fun binding hmem => ⟨hother binding hmem, hall binding (h.mem_iff.1 hmem)⟩)
    intro slot _ hmentions
    rw [valueUnder, valueUnder, bound?_of_perm h (hsettled slot.name hmentions)]
  · obtain ⟨binding, hmem, hfits⟩ : ∃ binding ∈ bindings, binding.2.fits = false := by
      simpa using hall
    rw [evaluate_of_tooLarge hknown hmem hfits,
      evaluate_of_tooLarge hother (h.mem_iff.2 hmem) hfits]

/-! ## Two bindings that differ -/

/-- The variable alone, as an expression over the same slots. -/
def mention (expression : Expression) (name : Text) : Expression :=
  { expression with elements := [.operand (.variable name)] }

/-- A variable alone gives the value of the last binding for it. -/
theorem evaluate_mention {binding : Text × Value}
    (htaken : ∀ binding' ∈ bindings ++ [binding], expression.Takes binding')
    (hkey : expression.resolve? binding.1 = some name) :
    (expression.mention name).evaluate (bindings ++ [binding]) = .ok binding.2.rounded := by
  have hlast : expression.bound? (bindings ++ [binding]) name = some binding.2.rounded := by
    rw [bound?, List.filter_append, List.filter_cons_of_pos (by simpa using hkey),
      List.filter_nil, List.getLast?_concat, Option.map_some]
  obtain ⟨slot, hslot⟩ : ∃ slot, expression.slot? name = some slot := by
    obtain ⟨slot, hmem, hname⟩ := List.mem_map.1 (mem_names_of_resolve? hkey)
    rw [← Option.isSome_iff_exists, slot?, List.find?_isSome]
    exact ⟨slot, hmem, by simpa using hname⟩
  have hname : slot.name = name := by simpa using List.find?_some hslot
  have hvalue : (Values.ofSlots (expression.substitute (bindings ++ [binding])).slots).lookup
      name = some binding.2.rounded := by
    rw [lookup_substitute, hslot, Option.map_some, valueUnder, hname, hlast, Option.getD_some]
  have hvalues : (expression.mention name).values (bindings ++ [binding]) =
      .ok (Values.ofSlots (expression.substitute (bindings ++ [binding])).slots) :=
    values_of_taken htaken
  rw [evaluate, hvalues, ok_bind]
  show evaluateElements _ [.operand (.variable name)] = _
  rw [evaluateElements, List.foldlM_cons, Element.run, Operand.value, hvalue]
  rfl

/-- Any one of some bindings can be put last. -/
theorem exists_perm_concat {binding : Text × Value} (h : binding ∈ bindings) :
    ∃ others, (others ++ [binding]).Perm bindings := by
  obtain ⟨before, after, rfl⟩ := List.append_of_mem h
  refine ⟨before ++ after, ?_⟩
  rw [List.append_assoc]
  exact (List.perm_append_singleton binding after).append_left before

/-- Bindings whose order does not count for a variable alone agree on it. -/
theorem settled_of_evaluate (htaken : ∀ binding ∈ bindings, expression.Takes binding)
    (h : ∀ other : List (Text × Value), other.Perm bindings →
      (expression.mention name).evaluate other = (expression.mention name).evaluate bindings) :
    expression.Settled bindings name := by
  have hlast (binding : Text × Value) (hmem : binding ∈ bindings)
      (hkey : expression.resolve? binding.1 = some name) :
      (expression.mention name).evaluate bindings = .ok binding.2.rounded := by
    obtain ⟨others, hperm⟩ := exists_perm_concat hmem
    rw [← h _ hperm]
    exact evaluate_mention (fun binding' hmem' => htaken binding' (hperm.mem_iff.1 hmem')) hkey
  intro first hfirst second hsecond hkey hkey'
  have hsame := (hlast first hfirst hkey).symm.trans (hlast second hsecond hkey')
  exact Except.ok.inj hsame

end Expression

/-- **The order of bindings.**  Let every binding be for a variable.  Put into another order,
the bindings give the same value, or the same fault, if all that are for one variable that
the expression mentions give it one double.  That is all that can be said of bindings that
have a double: the order counts for no row of elements over the same variables exactly if all
bindings for one variable give it one double. -/
theorem evaluate_reordered (expression : Expression) (bindings : List (Text × Value))
    (hknown : ∀ binding ∈ bindings, expression.Knows binding.1) :
    ((∀ name, expression.Mentions name → expression.Settled bindings name) →
      ∀ other : List (Text × Value), other.Perm bindings →
        expression.evaluate other = expression.evaluate bindings) ∧
    ((∀ binding ∈ bindings, binding.2.fits = true) →
      ((∀ (elements : List Element) (other : List (Text × Value)), other.Perm bindings →
          ({ expression with elements } : Expression).evaluate other =
            ({ expression with elements } : Expression).evaluate bindings) ↔
        ∀ name, expression.Settled bindings name)) := by
  refine ⟨fun hsettled other h => Expression.evaluate_of_perm hknown hsettled h, ?_⟩
  intro hfits
  constructor
  · intro h name
    exact Expression.settled_of_evaluate
      (fun binding hmem => ⟨hknown binding hmem, hfits binding hmem⟩)
      (h [.operand (.variable name)])
  · intro hsettled elements other h
    have hknown' : ∀ binding ∈ bindings,
        ({ expression with elements } : Expression).Knows binding.1 := hknown
    exact Expression.evaluate_of_perm hknown' (fun name _ => hsettled name) h

/-- Two names for one variable that give it the same double, around a third binding. -/
theorem evaluate_reordered_agreeing :
    ∃ comparison, parse "x > y".toList [['x'], ['y']] {} = .ok comparison ∧
      (∀ binding ∈ [(['x'], (2.5 : Value)), (['Y'], .int 1), (['X'], 2.5)],
        comparison.Knows binding.1) ∧
      comparison.evaluate [(['X'], 2.5), (['x'], 2.5), (['Y'], .int 1)] = .ok 1.0 := by
  have hparse : parse "x > y".toList [['x'], ['y']] {} = .ok
      { Expression.ofNames [['x'], ['y']] with
        elements := [.operand (.variable ['x']), .operand (.variable ['y']),
          .operation (.binary .greater)] } := rfl
  refine ⟨_, hparse, by decide, ?_⟩
  rw [(evaluate_reordered _ [(['x'], 2.5), (['Y'], .int 1), (['X'], 2.5)] (by decide)).1
    ?_ _ (by decide)]
  · decide +kernel
  · intro name _ first hfirst second hsecond hkey hkey'
    have hagree : ∀ first ∈ [(['x'], (2.5 : Value)), (['Y'], .int 1), (['X'], 2.5)],
        ∀ second ∈ [(['x'], (2.5 : Value)), (['Y'], .int 1), (['X'], 2.5)],
        (Expression.ofNames [['x'], ['y']]).resolve? first.1 =
          (Expression.ofNames [['x'], ['y']]).resolve? second.1 →
        first.2.rounded = second.2.rounded := by
      decide
    exact hagree first hfirst second hsecond (hkey.trans hkey'.symm)

/-- A variable that is spelled in two ways takes the value that comes last. -/
theorem evaluate_two_spellings :
    ∃ mention, parse ['x'] [['x']] {} = .ok mention ∧
      ([(['x'], (1.0 : Value)), (['X'], 2.0)].map Prod.fst).Nodup ∧
      [(['X'], (2.0 : Value)), (['x'], 1.0)].Perm [(['x'], 1.0), (['X'], 2.0)] ∧
      (∀ binding ∈ [(['x'], (1.0 : Value)), (['X'], 2.0)], mention.Knows binding.1) ∧
      mention.evaluate [(['x'], 1.0), (['X'], 2.0)] = .ok 2.0 ∧
      mention.evaluate [(['X'], 2.0), (['x'], 1.0)] = .ok 1.0 ∧ (2.0 : Value) ≠ 1.0 := by
  refine ⟨{ Expression.ofNames [['x']] with elements := [.operand (.variable ['x'])] },
    rfl, by decide, List.Perm.swap _ _ [], by decide, rfl, rfl, by decide⟩

end Formula
