import Formula.Grammar

/-!
# The tables agree with the words of the language

A scan looks symbols and terms up in tables, and reads numerals digit by digit.  What it finds
is what the words of the language say: every entry of a table is one of theirs, and none is
missing or says something else.

## Main results

* `Symbol.binary?_eq_some_iff`, `Symbol.unary?_eq_some_iff`: what symbols stand for.
* `Number.numeral?_eq`: which terms are numerals, and of which number.
* `Vocabulary.meaning?_eq_some_iff`: what a term means.
-/

namespace Formula

/-! ## Symbols -/

theorem Symbol.binary?_eq_some_iff {c : Char} {op : BinaryOperation} {level : Nat} :
    Symbol.binary? c = some ⟨op, level⟩ ↔ Joins c level op := by
  constructor
  · intro h
    unfold Symbol.binary? at h
    split at h <;> cases h <;> constructor
  · intro h
    cases h <;> rfl

theorem Symbol.unary?_eq_some_iff {c : Char} {op : UnaryOperation} :
    Symbol.unary? c = some op ↔ Applies c op := by
  constructor
  · intro h
    unfold Symbol.unary? at h
    split at h <;> cases h <;> constructor
  · intro h
    cases h <;> rfl

/-- Every operator joins phrases of one of the five levels. -/
theorem Joins.level_lt {c : Char} {level : Nat} {op : BinaryOperation} (h : Joins c level op) :
    level < topLevel := by
  cases h <;> decide

/-! ## Names -/

/-- Every entry of the table of functions is one of the language. -/
theorem Symbol.calls_of_mem {entry : Text × Operation} (h : entry ∈ Symbol.functions) :
    Calls entry.1 entry.2 := by
  have hall : ∀ entry ∈ Symbol.functions, Calls entry.1 entry.2 := by
    simp only [Symbol.functions, List.forall_mem_cons]
    exact ⟨.sqrt, .abs, .sign, .sq, .exp, .lg, .ln, .log, .sin, .cos, .tan, .sinh, .cosh, .tanh,
      by simp⟩
  exact hall entry h

theorem Symbol.function?_eq_some_iff {name : Text} {op : Operation} :
    Symbol.function? name = some op ↔ Calls name op := by
  constructor
  · intro h
    obtain ⟨before, after, hfunctions, _⟩ := List.lookup_eq_some_iff.1 h
    have hmem : (name, op) ∈ Symbol.functions := by
      rw [hfunctions]
      simp
    exact Symbol.calls_of_mem hmem
  · intro h
    cases h <;> rfl

theorem Symbol.constant?_eq_some_iff {name : Text} {c : Constant} :
    Symbol.constant? name = some c ↔ c.name = name ∧ Denotes name c.value := by
  constructor
  · intro h
    have hname : c.name = name := by simpa using List.find?_some h
    have hmem : c ∈ Symbol.constants := List.mem_of_find?_eq_some h
    refine ⟨hname, ?_⟩
    rw [← hname]
    rw [Symbol.constants, List.mem_cons, List.mem_singleton] at hmem
    rcases hmem with rfl | rfl <;> constructor
  · obtain ⟨name', value⟩ := c
    rintro ⟨rfl, h⟩
    cases h <;> rfl

/-- A name that denotes nothing is no constant. -/
theorem Symbol.constant?_eq_none_iff {name : Text} :
    Symbol.constant? name = none ↔ ∀ value, ¬ Denotes name value := by
  rw [Option.eq_none_iff_forall_ne_some]
  constructor
  · intro h value hdenotes
    exact h ⟨name, value⟩ (Symbol.constant?_eq_some_iff.2 ⟨rfl, hdenotes⟩)
  · intro h c hc
    exact h c.value (Symbol.constant?_eq_some_iff.1 hc).2

/-! ## Numbers -/

namespace Number

variable {whole : Text}

/-- A row of digits has the shape of a number unless it is empty. -/
theorem isNumberShaped_digits (hwhole : ∀ c ∈ whole, c.isDigit = true) :
    isNumberShaped whole = !whole.isEmpty := by
  have hpoint : whole.count '.' = 0 := List.count_eq_zero.2 fun hmem => by
    simpa using hwhole '.' hmem
  have hall : (whole.all fun c => c.isDigit || c == '.') = true :=
    List.all_eq_true.2 fun c hc => by rw [hwhole c hc, Bool.true_or]
  rw [isNumberShaped, hall, hpoint]
  cases whole with
  | nil => rfl
  | cons c rest => simp [hwhole c List.mem_cons_self]

/-- A point has nothing but digits around it, and one digit at least. -/
theorem isNumberShaped_point (hwhole : ∀ c ∈ whole, c.isDigit = true) (places : Text) :
    isNumberShaped (whole ++ '.' :: places) = true ↔
      (∀ c ∈ places, c.isDigit = true) ∧ (whole ≠ [] ∨ places ≠ []) := by
  have hpoint : whole.count '.' = 0 := List.count_eq_zero.2 fun hmem => by
    simpa using hwhole '.' hmem
  have hcount : (whole ++ '.' :: places).count '.' = places.count '.' + 1 := by
    rw [List.count_append, hpoint, List.count_cons_self, Nat.zero_add]
  rw [isNumberShaped, hcount, Bool.and_eq_true, Bool.and_eq_true, List.any_eq_true,
    List.all_eq_true, decide_eq_true_eq]
  constructor
  · rintro ⟨⟨⟨digit, hdigit, hisDigit⟩, hall⟩, hnone⟩
    have hnone : '.' ∉ places := List.count_eq_zero.1 (by omega)
    refine ⟨fun c hc => ?_, ?_⟩
    · have hshape := hall c (by simp [hc])
      rcases Bool.or_eq_true_iff.1 hshape with hc' | hc'
      · exact hc'
      · rw [eq_of_beq hc'] at hc
        exact absurd hc hnone
    · rcases List.mem_append.1 hdigit with hmem | hmem
      · exact .inl (List.ne_nil_of_mem hmem)
      · rcases List.mem_cons.1 hmem with rfl | hmem
        · cases hisDigit
        · exact .inr (List.ne_nil_of_mem hmem)
  · rintro ⟨hplaces, hsome⟩
    have hnone : places.count '.' = 0 := List.count_eq_zero.2 fun hmem => by
      simpa using hplaces '.' hmem
    refine ⟨⟨?_, fun c hc => ?_⟩, by omega⟩
    · rcases hsome with hsome | hsome
      · obtain ⟨c, hc⟩ := List.exists_mem_of_ne_nil _ hsome
        exact ⟨c, by simp [hc], hwhole c hc⟩
      · obtain ⟨c, hc⟩ := List.exists_mem_of_ne_nil _ hsome
        exact ⟨c, by simp [hc], hplaces c hc⟩
    · rcases List.mem_append.1 hc with hmem | hmem
      · rw [hwhole c hmem, Bool.true_or]
      · rcases List.mem_cons.1 hmem with rfl | hmem
        · rfl
        · rw [hplaces c hmem, Bool.true_or]

/-- Nothing but a digit or a point stands in a number. -/
theorem isNumberShaped_of_other {c : Char} (hdigit : c.isDigit = false) (hpoint : c ≠ '.')
    (places : Text) : isNumberShaped (whole ++ c :: places) = false := by
  have hall : ((whole ++ c :: places).all fun c => c.isDigit || c == '.') = false :=
    List.all_eq_false.2 ⟨c, by simp, by simp [hdigit, hpoint]⟩
  rw [isNumberShaped, hall, Bool.and_false, Bool.false_and]

/-- Digits are no point, so they are dropped in front of one. -/
theorem dropWhile_digits (hwhole : ∀ c ∈ whole, c.isDigit = true) (rest : Text) :
    (whole ++ rest).dropWhile (· != '.') = rest.dropWhile (· != '.') := by
  refine List.dropWhile_append_of_pos fun c hc => ?_
  have hdigit := hwhole c hc
  simp only [bne_iff_ne, ne_eq]
  rintro rfl
  cases hdigit

theorem spelledNumber_digits (hwhole : ∀ c ∈ whole, c.isDigit = true) :
    spelledNumber whole = Float.ofScientific (digitsValue whole) true 0 := by
  have hpoint := dropWhile_digits hwhole []
  rw [List.append_nil] at hpoint
  rw [spelledNumber, List.filter_eq_self.2 hwhole, hpoint]
  rfl

theorem spelledNumber_point {places : Text} (hwhole : ∀ c ∈ whole, c.isDigit = true)
    (hplaces : ∀ c ∈ places, c.isDigit = true) :
    spelledNumber (whole ++ '.' :: places) =
      Float.ofScientific (digitsValue (whole ++ places)) true places.length := by
  have hdigits : (whole ++ '.' :: places).filter Char.isDigit = whole ++ places := by
    rw [List.filter_append, List.filter_eq_self.2 hwhole,
      List.filter_cons_of_neg (by decide), List.filter_eq_self.2 hplaces]
  rw [spelledNumber, hdigits, dropWhile_digits hwhole]
  rfl

/-- The numerals are the terms of the shape of a number, each of the number that it spells. -/
theorem numeral?_eq (term : Text) :
    numeral? term = if isNumberShaped term then some (spelledNumber term) else none := by
  have hterm : term = term.takeWhile Char.isDigit ++ term.dropWhile Char.isDigit :=
    List.takeWhile_append_dropWhile.symm
  have hwhole : ∀ c ∈ term.takeWhile Char.isDigit, c.isDigit = true :=
    fun c hc => List.all_eq_true.1 List.all_takeWhile c hc
  rw [numeral?, splitNumeral?]
  generalize term.takeWhile Char.isDigit = whole at hterm hwhole ⊢
  cases hrest : term.dropWhile Char.isDigit with
  | nil =>
      rw [hrest, List.append_nil] at hterm
      subst hterm
      rw [isNumberShaped_digits hwhole, spelledNumber_digits hwhole]
      cases term <;> simp
  | cons c places =>
      have hdigit : c.isDigit = false := by
        have hhead := List.head?_dropWhile_not Char.isDigit term
        rw [hrest] at hhead
        simpa using hhead
      rw [hrest] at hterm
      subst hterm
      by_cases hpoint : c = '.'
      · subst hpoint
        simp only [true_and, List.all_eq_true]
        by_cases hshape : (∀ c ∈ places, c.isDigit = true) ∧ (whole ≠ [] ∨ places ≠ [])
        · rw [if_pos hshape, if_pos ((isNumberShaped_point hwhole places).2 hshape),
            spelledNumber_point hwhole hshape.1]
          rfl
        · rw [if_neg hshape, if_neg (mt (isNumberShaped_point hwhole places).1 hshape)]
          rfl
      · rw [isNumberShaped_of_other hdigit hpoint]
        simp [hpoint]

end Number

/-! ## Terms -/

/-- A name that denotes a number or calls a function has not the shape of one. -/
theorem Denotes.isNumberShaped_eq {name : Text} {value : Float} (h : Denotes name value) :
    isNumberShaped name = false := by
  cases h <;> rfl

theorem Calls.isNumberShaped_eq {name : Text} {op : Operation} (h : Calls name op) :
    isNumberShaped name = false := by
  cases h <;> rfl

/-- No function has the name of a constant. -/
theorem Calls.constant?_eq_none {name : Text} {op : Operation} (h : Calls name op) :
    Symbol.constant? name = none := by
  cases h <;> rfl

/-- What a scan finds a term to mean is what the term means. -/
theorem Vocabulary.meaning?_eq_some_iff {vocabulary : Vocabulary} {term : Text}
    {meaning : Meaning} :
    vocabulary.meaning? term = some meaning ↔ vocabulary.Means term meaning := by
  rw [meaning?, Number.numeral?_eq]
  constructor
  · intro h
    cases hshape : isNumberShaped term with
    | true =>
        simp only [hshape, if_true] at h
        split at h
        · rename_i hfinite
          cases h
          exact .number hshape hfinite
        · cases h
    | false =>
        simp only [hshape, Bool.false_eq_true, if_false] at h
        split at h
        · rename_i c hconstant
          cases h
          obtain ⟨rfl, hdenotes⟩ := Symbol.constant?_eq_some_iff.1 hconstant
          exact .constant hdenotes
        · rename_i hconstant
          split at h
          · rename_i hmem
            cases h
            exact .declared hmem hshape (Symbol.constant?_eq_none_iff.1 hconstant)
          · rename_i hmem
            obtain ⟨op, hop, rfl⟩ := Option.map_eq_some_iff.1 h
            exact .function (Symbol.function?_eq_some_iff.1 hop) hmem
  · intro h
    cases h with
    | number hshape hfinite => simp [hshape, hfinite]
    | @constant value hdenotes =>
        have hconstant : Symbol.constant? term = some ⟨term, value⟩ :=
          Symbol.constant?_eq_some_iff.2 ⟨rfl, hdenotes⟩
        simp [hdenotes.isNumberShaped_eq, hconstant]
    | declared hmem hshape hnone =>
        simp [hshape, Symbol.constant?_eq_none_iff.2 hnone, hmem]
    | function hcalls hmem =>
        simp [hcalls.isNumberShaped_eq, hcalls.constant?_eq_none, hmem,
          Symbol.function?_eq_some_iff.2 hcalls]

end Formula
