import Formula.Parse
import Formula.Proofs.Session
import Mathlib.Data.List.Forall2

/-!
# Bindings

A binding gives a variable a value for one evaluation.  Which variable that is depends on the
names of the slots alone, and these stay the same while bindings are taken in; so it can be
told of every binding by itself, and an expression under bindings is the expression whose
slots hold, each, the value of the last binding for it, rounded to a double.  Nothing else of
the expression is looked at before all bindings are taken in, and nothing of it changes for
good.

A binding is refused if it is for no variable, or if its value is an integer too large for a
double.  The first one that is refused decides.

## Main results

* `Expression.values_append`: bindings that are taken put values into slots.
* `Expression.evaluate_of_firstRefused`: the first binding that is refused decides.
* `Expression.evaluate_congr`: only the values of variables that are mentioned count.
* `Expression.result_eq_ok`: where variables have slots, evaluation is reported, unless a
  binding overflows.
* `evaluate_bindings`: evaluation under bindings is evaluation after substitution.
-/

namespace Formula

open Outcome

namespace Expression

variable {expression : Expression} {bindings other : List (Text × Value)} {name : Text}

/-! ## Which variable a binding is for -/

/-- The names of the variables. -/
def names (expression : Expression) : List Text := expression.slots.map Slot.name

/-- Whether a binding of a name is for a variable. -/
def Knows (expression : Expression) (name : Text) : Prop :=
  name ∈ expression.names ∨ Text.lower name ∈ expression.names

instance (expression : Expression) (name : Text) : Decidable (expression.Knows name) :=
  inferInstanceAs (Decidable (_ ∨ _))

/-- The variable that a binding of a name is for. -/
def resolve? (expression : Expression) (name : Text) : Option Text :=
  if expression.names.contains name then some name
  else if expression.names.contains (Text.lower name) then some (Text.lower name)
  else none

/-- Whether a binding is taken: it is for a variable, and has a double to give it. -/
def Takes (expression : Expression) (binding : Text × Value) : Prop :=
  expression.Knows binding.1 ∧ binding.2.fits = true

instance (expression : Expression) (binding : Text × Value) :
    Decidable (expression.Takes binding) :=
  inferInstanceAs (Decidable (_ ∧ _))

/-- The value that the last binding for a variable gives it, as a double. -/
def bound? (expression : Expression) (bindings : List (Text × Value)) (name : Text) :
    Option Value :=
  (bindings.filter fun binding => expression.resolve? binding.1 = some name).getLast?.map
    fun binding => binding.2.rounded

/-- The value of a slot under some bindings. -/
def valueUnder (expression : Expression) (bindings : List (Text × Value)) (slot : Slot) :
    Value :=
  (expression.bound? bindings slot.name).getD slot.value

/-- The expression whose slots hold the values that they have under some bindings. -/
def substitute (expression : Expression) (bindings : List (Text × Value)) : Expression :=
  { expression with
    slots := expression.slots.map fun slot =>
      { slot with value := expression.valueUnder bindings slot } }

/-- Whether an expression mentions a variable. -/
def Mentions (expression : Expression) (name : Text) : Prop :=
  Element.operand (.variable name) ∈ expression.elements

theorem resolve?_of_mem (h : name ∈ expression.names) :
    expression.resolve? name = some name :=
  if_pos (List.contains_iff_mem.2 h)

theorem resolve?_of_lower_mem (hexact : name ∉ expression.names)
    (h : Text.lower name ∈ expression.names) :
    expression.resolve? name = some (Text.lower name) := by
  rw [resolve?, if_neg (mt List.contains_iff_mem.1 hexact), if_pos (List.contains_iff_mem.2 h)]

theorem resolve?_eq_none_iff :
    expression.resolve? name = none ↔
      name ∉ expression.names ∧ Text.lower name ∉ expression.names := by
  unfold resolve?
  split
  · simp_all
  · split <;> simp_all

theorem isSome_resolve? : (expression.resolve? name).isSome ↔ expression.Knows name := by
  rw [Option.isSome_iff_ne_none, ne_eq, resolve?_eq_none_iff, ← not_or, Classical.not_not, Knows]

theorem mem_names_of_resolve? {key : Text} (h : expression.resolve? name = some key) :
    key ∈ expression.names := by
  unfold resolve? at h
  split at h
  · cases h
    exact List.contains_iff_mem.1 ‹_›
  · split at h
    · cases h
      exact List.contains_iff_mem.1 ‹_›
    · cases h

/-- Expressions with variables of the same names resolve names alike. -/
theorem resolve?_congr {expression' : Expression} (h : expression'.names = expression.names)
    (name : Text) : expression'.resolve? name = expression.resolve? name := by
  rw [resolve?, resolve?, h]

theorem names_substitute (expression : Expression) (bindings : List (Text × Value)) :
    (expression.substitute bindings).names = expression.names := by
  rw [names, substitute, List.map_map]
  rfl

/-! ## Values of slots -/

/-- The values of slots by name, whatever is put into them. -/
theorem lookup_ofSlots (slots : List Slot) (value : Slot → Value) (name : Text) :
    (Values.ofSlots (slots.map fun slot => { slot with value := value slot })).lookup name =
      (slots.find? (·.name == name)).map value := by
  induction slots with
  | nil => rfl
  | cons slot slots ih =>
      rw [List.map_cons, Values.ofSlots, List.map_cons, List.lookup_cons]
      by_cases hname : slot.name = name
      · simp [hname]
      · have hcomm : (name == slot.name) = false := by simpa using Ne.symm hname
        have hnot : (slot.name == name) = false := by simpa using hname
        rw [hcomm, List.find?_cons, hnot]
        exact ih

theorem isSome_lookup_ofSlots (expression : Expression) (name : Text) :
    ((Values.ofSlots expression.slots).lookup name).isSome ↔ name ∈ expression.names := by
  have hsame := lookup_ofSlots expression.slots Slot.value name
  have hslots : expression.slots.map (fun slot => { slot with value := slot.value }) =
      expression.slots := List.map_id _
  rw [hslots] at hsame
  rw [hsame, Option.isSome_map, List.find?_isSome, names, List.mem_map]
  simp only [beq_iff_eq]

theorem lookup_substitute (expression : Expression) (bindings : List (Text × Value))
    (name : Text) :
    (Values.ofSlots (expression.substitute bindings).slots).lookup name =
      (expression.slot? name).map (expression.valueUnder bindings) :=
  lookup_ofSlots expression.slots (expression.valueUnder bindings) name

/-! ## Taking bindings in -/

/-- The expression with a value in the slot of a variable. -/
def assign (expression : Expression) (name : Text) (value : Value) : Expression :=
  { expression with
    slots := expression.slots.map fun slot =>
      if slot.name == name then { slot with value } else slot }

theorem names_assign (expression : Expression) (name : Text) (value : Value) :
    (expression.assign name value).names = expression.names := by
  rw [names, assign, List.map_map, names]
  apply List.map_congr_left
  intro slot _
  show Slot.name (if slot.name == name then { slot with value } else slot) = slot.name
  split <;> rfl

theorem set_ofSlots (expression : Expression) (name : Text) (value : Value) :
    Values.set (Values.ofSlots expression.slots) name value =
      Values.ofSlots (expression.assign name value).slots := by
  rw [Values.set, Values.ofSlots, Values.ofSlots, assign, List.map_map, List.map_map]
  apply List.map_congr_left
  intro slot _
  by_cases hname : slot.name = name <;> simp [hname]

/-- A binding puts its value into the slot that it is for, as a double; or there is no slot,
or no double. -/
theorem bind_ofSlots (expression : Expression) (binding : Text × Value) :
    Values.bind (Values.ofSlots expression.slots) binding =
      match expression.resolve? binding.1, binding.2.toFloat? with
      | some key, some x => .ok (Values.ofSlots (expression.assign key (.float x)).slots)
      | some _, none => .error .tooLarge
      | none, _ => .error (.unknownVariable binding.1) := by
  have hlookup := isSome_lookup_ofSlots expression
  unfold Values.bind
  by_cases hexact : binding.1 ∈ expression.names
  · rw [resolve?_of_mem hexact, if_pos ((hlookup binding.1).2 hexact),
      if_pos ((hlookup binding.1).2 hexact)]
    cases binding.2.toFloat? <;> simp only [set_ofSlots]
  · rw [if_neg (fun h => hexact ((hlookup binding.1).1 h))]
    by_cases hlower : Text.lower binding.1 ∈ expression.names
    · rw [resolve?_of_lower_mem hexact hlower, if_pos ((hlookup _).2 hlower)]
      cases binding.2.toFloat? <;> simp only [set_ofSlots]
    · rw [resolve?_eq_none_iff.2 ⟨hexact, hlower⟩, if_neg (fun h => hlower ((hlookup _).1 h))]

theorem values_cons (expression : Expression) (binding : Text × Value)
    (bindings : List (Text × Value)) :
    expression.values (binding :: bindings) =
      match expression.resolve? binding.1, binding.2.toFloat? with
      | some key, some x => (expression.assign key (.float x)).values bindings
      | some _, none => .error .tooLarge
      | none, _ => .error (.unknownVariable binding.1) := by
  rw [values, List.foldlM_cons, bind_ofSlots]
  cases expression.resolve? binding.1 <;> cases binding.2.toFloat? <;> rfl

theorem substitute_nil (expression : Expression) : expression.substitute [] = expression := by
  have hslots : expression.slots.map (fun slot => { slot with value := slot.value }) =
      expression.slots := List.map_id _
  show { expression with slots := expression.slots.map _ } = expression
  exact congrArg (fun slots => { expression with slots }) hslots

/-- The last binding for a variable is the first one unless another comes later. -/
theorem bound?_cons (expression : Expression) (binding : Text × Value)
    (bindings : List (Text × Value)) (name : Text) :
    expression.bound? (binding :: bindings) name =
      if expression.resolve? binding.1 = some name then
        some ((expression.bound? bindings name).getD binding.2.rounded)
      else expression.bound? bindings name := by
  unfold bound?
  by_cases hkey : expression.resolve? binding.1 = some name
  · rw [if_pos hkey, List.filter_cons_of_pos (by simpa using hkey), List.getLast?_cons]
    cases (bindings.filter fun binding => expression.resolve? binding.1 = some name).getLast? <;>
      rfl
  · rw [if_neg hkey, List.filter_cons_of_neg (by simpa using hkey)]

theorem bound?_assign (expression : Expression) (key : Text) (value : Value)
    (bindings : List (Text × Value)) (name : Text) :
    (expression.assign key value).bound? bindings name = expression.bound? bindings name := by
  unfold bound?
  simp only [resolve?_congr (names_assign expression key value)]

/-- To substitute a binding and then others is to substitute them all. -/
theorem substitute_cons {binding : Text × Value} {key : Text}
    (h : expression.resolve? binding.1 = some key) (bindings : List (Text × Value)) :
    (expression.assign key binding.2.rounded).substitute bindings =
      expression.substitute (binding :: bindings) := by
  have hslots : ((expression.assign key binding.2.rounded).substitute bindings).slots =
      (expression.substitute (binding :: bindings)).slots := by
    show (expression.slots.map _).map _ = expression.slots.map _
    rw [List.map_map]
    apply List.map_congr_left
    intro slot _
    show ({ name := _, value := _ } : Slot) = { name := _, value := _ }
    simp only [valueUnder, bound?_assign, bound?_cons, h]
    by_cases hname : slot.name = key
    · simp [hname]
    · have hkey : ¬ some key = some slot.name := fun hsame => hname (Option.some.inj hsame).symm
      simp [hname, hkey]
  exact congrArg (fun slots => { expression with slots }) hslots

/-- Bindings that are taken put values into slots, before any others are taken in. -/
theorem values_append (htaken : ∀ binding ∈ bindings, expression.Takes binding)
    (later : List (Text × Value)) :
    expression.values (bindings ++ later) = (expression.substitute bindings).values later := by
  induction bindings generalizing expression with
  | nil => rw [List.nil_append, substitute_nil]
  | cons binding bindings ih =>
      obtain ⟨⟨hknown, hfits⟩, hlater⟩ := List.forall_mem_cons.1 htaken
      obtain ⟨key, hkey⟩ := Option.isSome_iff_exists.1 (isSome_resolve?.2 hknown)
      obtain ⟨x, hx, hrounded⟩ := Value.exists_of_fits hfits
      have hsame := names_assign expression key (.float x)
      rw [List.cons_append, values_cons, hkey, hx, ← substitute_cons hkey, hrounded]
      apply ih
      intro binding' hmem
      obtain ⟨hnow, hfits'⟩ := hlater binding' hmem
      rw [← isSome_resolve?, ← resolve?_congr hsame, isSome_resolve?] at hnow
      exact ⟨hnow, hfits'⟩

/-- The values under bindings that are taken. -/
theorem values_of_taken (htaken : ∀ binding ∈ bindings, expression.Takes binding) :
    expression.values bindings =
      .ok (Values.ofSlots (expression.substitute bindings).slots) := by
  have hvalues := values_append htaken []
  rw [List.append_nil] at hvalues
  exact hvalues

/-! ## Bindings that are refused -/

/-- `expression.Refuses binding fault` lists the reasons for which a binding is refused. -/
inductive Refuses (expression : Expression) (binding : Text × Value) : EvaluationFault → Prop where
  | unknown : binding.1 ∉ expression.names → Text.lower binding.1 ∉ expression.names →
    Refuses expression binding (.unknownVariable binding.1)
  | tooLarge : expression.Knows binding.1 → binding.2.fits = false →
    Refuses expression binding .tooLarge

/-- The first of some bindings that is not taken is refused with `fault`. -/
def FirstRefused (expression : Expression) (bindings : List (Text × Value))
    (fault : EvaluationFault) : Prop :=
  ∃ before binding after, bindings = before ++ binding :: after ∧
    (∀ earlier ∈ before, expression.Takes earlier) ∧ expression.Refuses binding fault

/-- A binding is taken, or refused for a reason. -/
theorem takes_or_refuses (expression : Expression) (binding : Text × Value) :
    expression.Takes binding ∨ ∃ fault, expression.Refuses binding fault := by
  by_cases hknown : expression.Knows binding.1
  · cases hfits : binding.2.fits with
    | true => exact .inl ⟨hknown, hfits⟩
    | false => exact .inr ⟨_, .tooLarge hknown hfits⟩
  · obtain ⟨hexact, hlower⟩ := not_or.1 hknown
    exact .inr ⟨_, .unknown hexact hlower⟩

/-- All bindings are taken, or one is the first that is not. -/
theorem taken_or_firstRefused (expression : Expression) (bindings : List (Text × Value)) :
    (∀ binding ∈ bindings, expression.Takes binding) ∨
      ∃ fault, expression.FirstRefused bindings fault := by
  induction bindings with
  | nil => exact .inl fun binding hmem => by cases hmem
  | cons binding bindings ih =>
      rcases expression.takes_or_refuses binding with hfirst | ⟨fault, hfirst⟩
      · rcases ih with hlater | ⟨fault, before, refused, after, rfl, hbefore, hrefused⟩
        · exact .inl (List.forall_mem_cons.2 ⟨hfirst, hlater⟩)
        · exact .inr ⟨fault, binding :: before, refused, after, rfl,
            List.forall_mem_cons.2 ⟨hfirst, hbefore⟩, hrefused⟩
      · exact .inr ⟨fault, [], binding, bindings, rfl, by simp, hfirst⟩

theorem values_of_firstRefused {fault : EvaluationFault}
    (h : expression.FirstRefused bindings fault) : expression.values bindings = .error fault := by
  obtain ⟨before, binding, after, rfl, hbefore, hrefused⟩ := h
  have hresolve := resolve?_congr (names_substitute expression before) binding.1
  rw [values_append hbefore, values_cons, hresolve]
  cases hrefused with
  | unknown hexact hlower => rw [resolve?_eq_none_iff.2 ⟨hexact, hlower⟩]
  | tooLarge hknown hfits =>
      obtain ⟨key, hkey⟩ := Option.isSome_iff_exists.1 (isSome_resolve?.2 hknown)
      rw [hkey, Value.toFloat?_eq_none_iff.2 hfits]

end Expression

/-- `element.Fails values stack fault` lists the ways in which an element fails.  None of them
is about a binding. -/
inductive Element.Fails (values : Values) (stack : List Value) :
    Element → EvaluationFault → Prop where
  | noSlot {name : Text} : values.lookup name = none →
    Fails values stack (.operand (.variable name)) (.noSlot name)
  | notEnoughOperands {op : Operation} : stack.length < op.arity →
    Fails values stack (.operation op) (.notEnoughOperands op stack.length)
  | operation {op : Operation} {cause : OperationFault} :
    op.apply (stack.take op.arity).reverse = .error cause →
    Fails values stack (.operation op) (.operation op cause)

theorem Element.fails_of_run {values : Values} {stack : List Value} {element : Element}
    {fault : EvaluationFault} (h : Element.run values stack element = .error fault) :
    element.Fails values stack fault := by
  cases element with
  | operand o =>
      rcases o with ⟨text, value⟩ | c | name
      · cases h
      · cases h
      · rw [Element.run, Operand.value] at h
        cases hlookup : values.lookup name with
        | some value =>
            rw [hlookup] at h
            cases h
        | none =>
            rw [hlookup] at h
            cases h
            exact .noSlot hlookup
  | operation op =>
      rw [Element.run] at h
      split at h
      · rename_i hshort
        cases h
        exact .notEnoughOperands hshort
      · rw [Operation.value] at h
        cases happly : op.apply (stack.take op.arity).reverse with
        | ok value =>
            rw [happly] at h
            cases h
        | error cause =>
            rw [happly] at h
            cases h
            exact .operation happly

/-- A row that has no value fails at an element, or leaves another number of values. -/
theorem fault_of_evaluateElements {values : Values} {elements : List Element}
    {fault : EvaluationFault} (h : evaluateElements values elements = .error fault) :
    (∃ element ∈ elements, ∃ stack, element.Fails values stack fault) ∨
      ∃ count, fault = .valuesLeft count := by
  rw [evaluateElements] at h
  cases hstack : elements.foldlM (Element.run values) [] with
  | error first =>
      rw [hstack, error_bind] at h
      cases h
      obtain ⟨element, hmem, reached, hrun⟩ := exists_of_foldlM_error hstack
      exact .inl ⟨element, hmem, reached, Element.fails_of_run hrun⟩
  | ok stack =>
      rw [hstack, ok_bind] at h
      match stack, h with
      | [], h =>
          cases h
          exact .inr ⟨_, rfl⟩
      | [_], h => cases h
      | _ :: _ :: _, h =>
          cases h
          exact .inr ⟨_, rfl⟩

/-- Whether a fault is about a binding. -/
def EvaluationFault.isOfBinding : EvaluationFault → Bool
  | unknownVariable _ | tooLarge => true
  | _ => false

theorem Element.Fails.isOfBinding {values : Values} {stack : List Value} {element : Element}
    {fault : EvaluationFault} (h : element.Fails values stack fault) :
    fault.isOfBinding = false := by
  cases h <;> rfl

/-- A row of elements does not fail for a binding. -/
theorem isOfBinding_of_evaluateElements {values : Values} {elements : List Element}
    {fault : EvaluationFault} (h : evaluateElements values elements = .error fault) :
    fault.isOfBinding = false := by
  rcases fault_of_evaluateElements h with ⟨element, _, stack, hfails⟩ | ⟨count, rfl⟩
  · exact hfails.isOfBinding
  · rfl

/-- Rows are evaluated alike if their elements do the same to every stack. -/
theorem evaluateElements_of_forall₂ {values values' : Values} {elements elements' : List Element}
    (h : List.Forall₂ (fun element element' => ∀ stack,
      Element.run values stack element = Element.run values' stack element')
      elements elements') :
    evaluateElements values elements = evaluateElements values' elements' := by
  have hrun (stack : List Value) : elements.foldlM (Element.run values) stack =
      elements'.foldlM (Element.run values') stack := by
    induction h generalizing stack with
    | nil => rfl
    | @cons element element' elements elements' hstep _ ih =>
        rw [List.foldlM_cons, List.foldlM_cons, hstep]
        cases Element.run values' stack element' with
        | error fault => rfl
        | ok next => exact ih next
  rw [evaluateElements, evaluateElements, hrun]

/-- Only the values of the variables in a row count. -/
theorem evaluateElements_congr {values values' : Values} {elements : List Element}
    (h : ∀ name, Element.operand (.variable name) ∈ elements →
      values.lookup name = values'.lookup name) :
    evaluateElements values elements = evaluateElements values' elements := by
  refine evaluateElements_of_forall₂ (List.forall₂_same.2 fun element hmem stack => ?_)
  rcases element with (⟨text, value⟩ | c | name) | op
  · rfl
  · rfl
  · rw [Element.run, Element.run, Operand.value, Operand.value, h name hmem]
  · rfl

/-! ## Evaluation under bindings -/

namespace Expression

variable {expression : Expression} {bindings other : List (Text × Value)} {name : Text}

/-- An expression is evaluated under bindings that are taken as it is by itself, once they
are put into its slots. -/
theorem evaluate_of_taken (htaken : ∀ binding ∈ bindings, expression.Takes binding) :
    expression.evaluate bindings = (expression.substitute bindings).evaluate [] := by
  rw [evaluate, values_of_taken htaken]
  rfl

/-- The first binding that is refused decides, whatever the elements are. -/
theorem evaluate_of_firstRefused {fault : EvaluationFault}
    (h : expression.FirstRefused bindings fault) : expression.evaluate bindings = .error fault := by
  rw [evaluate, values_of_firstRefused h, error_bind]

/-- Where evaluation fails for a binding, it is the first one that is refused. -/
theorem evaluate_eq_error_iff {fault : EvaluationFault} (hfault : fault.isOfBinding = true) :
    expression.evaluate bindings = .error fault ↔ expression.FirstRefused bindings fault := by
  constructor
  · intro h
    rcases taken_or_firstRefused expression bindings with htaken | ⟨first, hfirst⟩
    · rw [evaluate, values_of_taken htaken, ok_bind] at h
      rw [isOfBinding_of_evaluateElements h] at hfault
      cases hfault
    · rw [evaluate_of_firstRefused hfirst] at h
      cases h
      exact hfirst
  · exact evaluate_of_firstRefused

/-- The first binding that is refused is one for a variable, with an integer that no double
is near. -/
def Overflows (expression : Expression) (bindings : List (Text × Value)) : Prop :=
  ∃ before name n after, bindings = before ++ (name, .int n) :: after ∧
    (∀ earlier ∈ before, expression.Takes earlier) ∧ expression.Knows name ∧
    (Float.ofInt n).isFinite = false

theorem firstRefused_tooLarge_iff :
    expression.FirstRefused bindings .tooLarge ↔ expression.Overflows bindings := by
  constructor
  · rintro ⟨before, ⟨name, value⟩, after, hbindings, hbefore, hrefused⟩
    cases hrefused with
    | tooLarge hknown hfits =>
        cases value with
        | float x => cases hfits
        | int n =>
            refine ⟨before, name, n, after, hbindings, hbefore, hknown, ?_⟩
            simpa [Value.fits, Value.toFloat?] using hfits
  · rintro ⟨before, name, n, after, hbindings, hbefore, hknown, hinfinite⟩
    refine ⟨before, _, after, hbindings, hbefore, .tooLarge hknown ?_⟩
    simp [Value.fits, Value.toFloat?, hinfinite]

/-- Among bindings that all have a double, the first that is refused is for no variable. -/
theorem firstRefused_unknown_iff (hfits : ∀ binding ∈ bindings, binding.2.fits = true) :
    expression.FirstRefused bindings (.unknownVariable name) ↔
      ∃ before value after, bindings = before ++ (name, value) :: after ∧
        (name ∉ expression.names ∧ Text.lower name ∉ expression.names) ∧
        ∀ binding ∈ before, expression.Knows binding.1 := by
  constructor
  · rintro ⟨before, ⟨name, value⟩, after, hbindings, hbefore, hrefused⟩
    cases hrefused with
    | unknown hexact hlower =>
        exact ⟨before, value, after, hbindings, ⟨hexact, hlower⟩,
          fun binding hmem => (hbefore binding hmem).1⟩
  · rintro ⟨before, value, after, rfl, ⟨hexact, hlower⟩, hbefore⟩
    refine ⟨before, _, after, rfl, fun binding hmem => ?_, .unknown hexact hlower⟩
    exact ⟨hbefore binding hmem, hfits binding (List.mem_append_left _ hmem)⟩

/-- Bindings that give the variables that are mentioned the same values give the same. -/
theorem evaluate_congr (htaken : ∀ binding ∈ bindings, expression.Takes binding)
    (hother : ∀ binding ∈ other, expression.Takes binding)
    (h : ∀ slot ∈ expression.slots, expression.Mentions slot.name →
      expression.valueUnder other slot = expression.valueUnder bindings slot) :
    expression.evaluate other = expression.evaluate bindings := by
  rw [evaluate, evaluate, values_of_taken htaken, values_of_taken hother, ok_bind, ok_bind]
  apply evaluateElements_congr
  intro name hname
  rw [lookup_substitute, lookup_substitute]
  cases hslot : expression.slot? name with
  | none => rfl
  | some slot =>
      have hfound : slot.name = name := by simpa using List.find?_some hslot
      have hmentions : expression.Mentions slot.name := hfound ▸ hname
      exact congrArg some (h slot (List.mem_of_find?_eq_some hslot) hmentions)

end Expression

/-! ## What is reported -/

/-- An outcome is reported if its fault is. -/
theorem reported_eq_ok {α : Type} {outcome : Except EvaluationFault α}
    (h : ∀ fault, outcome = .error fault → fault.isReported = true) :
    reported outcome = .ok outcome := by
  cases outcome with
  | ok value => rfl
  | error fault => rw [reported, if_pos (h fault rfl)]

namespace Expression

variable {expression : Expression} {bindings : List (Text × Value)}

/-- A truth value is missing for the reason for which the value is. -/
theorem evaluateAsBoolean_eq_error_iff {fault : EvaluationFault} :
    expression.evaluateAsBoolean bindings = .error fault ↔
      expression.evaluate bindings = .error fault := by
  rw [evaluateAsBoolean]
  cases expression.evaluate bindings with
  | ok value => exact ⟨fun h => (by cases h), fun h => (by cases h)⟩
  | error first =>
      constructor
      · intro h
        cases h
        rfl
      · intro h
        cases h
        rfl

/-- Evaluation finds a value for every variable that is mentioned, if each has a slot. -/
theorem evaluate_ne_noSlot (hslots : ∀ name, expression.Mentions name → name ∈ expression.names)
    (bindings : List (Text × Value)) (name : Text) :
    expression.evaluate bindings ≠ .error (.noSlot name) := by
  intro h
  rcases taken_or_firstRefused expression bindings with htaken | ⟨first, hfirst⟩
  · rw [evaluate, values_of_taken htaken, ok_bind] at h
    rcases fault_of_evaluateElements h with ⟨element, hmem, stack, hfails⟩ | ⟨count, hfault⟩
    · cases hfails with
      | noSlot hnone =>
          have hname : name ∈ (expression.substitute bindings).names := by
            rw [names_substitute]
            exact hslots name hmem
          rw [← isSome_lookup_ofSlots, hnone] at hname
          cases hname
    · cases hfault
  · rw [evaluate_of_firstRefused hfirst] at h
    cases h
    obtain ⟨_, _, _, _, _, hrefused⟩ := hfirst
    cases hrefused

/-- Then an evaluation is reported, unless a binding overflows. -/
theorem result_eq_ok (hslots : ∀ name, expression.Mentions name → name ∈ expression.names)
    (h : ¬ expression.Overflows bindings) :
    expression.result bindings = .ok (expression.evaluate bindings) ∧
      expression.booleanResult bindings = .ok (expression.evaluateAsBoolean bindings) := by
  have hreported (fault : EvaluationFault) (hfault : expression.evaluate bindings = .error fault) :
      fault.isReported = true := by
    cases fault with
    | noSlot name => exact absurd hfault (evaluate_ne_noSlot hslots bindings name)
    | tooLarge =>
        exact absurd (firstRefused_tooLarge_iff.1 ((evaluate_eq_error_iff rfl).1 hfault)) h
    | _ => rfl
  exact ⟨reported_eq_ok hreported,
    reported_eq_ok fun fault hfault => hreported fault (evaluateAsBoolean_eq_error_iff.1 hfault)⟩

/-- A binding that overflows is not reported. -/
theorem result_of_overflows (h : expression.Overflows bindings) :
    expression.result bindings = .error .tooLarge ∧
      expression.booleanResult bindings = .error .tooLarge := by
  have hvalue := evaluate_of_firstRefused (firstRefused_tooLarge_iff.2 h)
  have hboolean := evaluateAsBoolean_eq_error_iff.2 hvalue
  constructor
  · rw [result, hvalue]
    rfl
  · rw [booleanResult, hboolean]
    rfl

end Expression

/-- **Bindings are substituted, and leave no trace.**  Let every binding have a value that is a
double, or is near one.  Evaluation refuses the first binding that is for no variable, neither
as it is spelled nor in lower case, and does so before it looks at an element.  If there is
none, it gives what the expression gives by itself when each slot holds the double of the last
binding for it, or its own value if there is none; so other bindings that give the variables
that are mentioned the same doubles give the same outcome.  The expression is the same
afterwards, and questions to it are answered as if each were the only one, in whatever order
they come. -/
theorem evaluate_bindings (expression : Expression) (bindings : List (Text × Value))
    (hfits : ∀ binding ∈ bindings, binding.2.fits = true) :
    (∀ name,
      (expression.evaluate bindings = .error (.unknownVariable name) ↔
        ∃ before value after, bindings = before ++ (name, value) :: after ∧
          (name ∉ expression.names ∧ Text.lower name ∉ expression.names) ∧
          ∀ binding ∈ before, expression.Knows binding.1) ∧
      (EvaluationFault.unknownVariable name).message =
        "Unknown variable '" ++ String.ofList name ++ "'") ∧
    ((∀ binding ∈ bindings, expression.Knows binding.1) →
      expression.evaluate bindings = (expression.substitute bindings).evaluate [] ∧
      ∀ other : List (Text × Value),
        (∀ binding ∈ other, expression.Knows binding.1 ∧ binding.2.fits = true) →
        (∀ slot ∈ expression.slots, expression.Mentions slot.name →
          expression.valueUnder other slot = expression.valueUnder bindings slot) →
        expression.evaluate other = expression.evaluate bindings) ∧
    ∀ (session : Session) (questions : List Command), session.current = expression →
      (∀ question ∈ questions, question.asks = true) →
      (questions.foldl Session.after session).current = expression ∧
        session.answers questions =
          questions.map fun question => (session.run question).map Prod.fst := by
  refine ⟨?_, ?_, ?_⟩
  · intro name
    exact ⟨(Expression.evaluate_eq_error_iff rfl).trans
      (Expression.firstRefused_unknown_iff hfits), rfl⟩
  · intro hknown
    have htaken : ∀ binding ∈ bindings, expression.Takes binding :=
      fun binding hmem => ⟨hknown binding hmem, hfits binding hmem⟩
    exact ⟨Expression.evaluate_of_taken htaken,
      fun other hother h => Expression.evaluate_congr htaken hother h⟩
  · rintro session questions rfl hasks
    exact Session.answers_of_asks hasks session

/-- Two bindings for one variable, of which the last counts, one that is rounded, and one for
no variable. -/
theorem evaluate_bindings_twice :
    ∃ comparison, parse "x > y".toList [['x'], ['y']] {} = .ok comparison ∧
      comparison.evaluate [(['x'], .int 1), (['X'], .int 9007199254740993), (['Y'], 0.5)] =
        .ok 1.0 ∧
      comparison.valueUnder [(['x'], .int 1), (['X'], .int 9007199254740993), (['Y'], 0.5)]
        ⟨['x'], 0.0⟩ = 9007199254740992.0 ∧
      comparison.evaluate [(['x'], 0.25), (['z'], .int 2)] = .error (.unknownVariable ['z']) := by
  refine ⟨{ Expression.ofNames [['x'], ['y']] with
    elements := [.operand (.variable ['x']), .operand (.variable ['y']),
      .operation (.binary .greater)] }, rfl, ?_, by decide +kernel, ?_⟩
  · rw [((evaluate_bindings _ _ (by decide +kernel)).2.1 (by decide)).1]
    decide +kernel
  · apply ((evaluate_bindings _ _ (by decide +kernel)).1 ['z']).1.2
    exact ⟨[(['x'], 0.25)], .int 2, [], rfl, by decide, by decide⟩

/-- Two integers that differ are bound to one double.  In the slots they stay as they are, and
so does their difference. -/
theorem evaluate_rounded_bindings :
    ∃ difference, parse "x - y".toList [['x'], ['y']] {} = .ok difference ∧
      difference.evaluate [(['x'], .int 9007199254740993), (['y'], .int 9007199254740992)] =
        .ok 0.0 ∧
      { difference with slots := [⟨['x'], .int 9007199254740993⟩,
          ⟨['y'], .int 9007199254740992⟩] }.evaluate [] = .ok 1.0 ∧ (0.0 : Value) ≠ 1.0 := by
  refine ⟨{ Expression.ofNames [['x'], ['y']] with
    elements := [.operand (.variable ['x']), .operand (.variable ['y']),
      .operation (.binary .sub)] }, rfl, ?_, ?_, by decide⟩ <;> decide +kernel

end Formula
