import Formula.Proofs.Grammar.Lexemes
import Formula.Proofs.Parse.Conservation
import Formula.Proofs.Parse.Limits
import Formula.Proofs.Scan.Frame
import Formula.Proofs.Token.Respelling
import Formula.Proofs.Expression.Binding

/-!
# A variable and its value

A value can be given to a variable in two ways: by a binding, when the expression is evaluated,
or by a numeral, written in the source wherever the variable stands.  Both give the same
outcome, whether the source makes sense or not.

Three things are needed for that.  Where a numeral is written in the place of a name, the
source has the same lexemes but for these (`Formula.Proofs.Token.Respelling`).  No move of a
scan depends on what its operand is, so the elements are the same but for the operands that
are exchanged.  And a row of elements is evaluated alike whatever its operands are, if they
have the same values.

## Main results

* `leads_mapOperands`: a scan does the same with other operands.
* `evaluateElements_mapOperand`: only the values of operands count.
* `parse_written`: a numeral in the source has the effect of a binding.
-/

namespace Formula

open Outcome

/-! ## Other operands -/

/-- An element with its operand exchanged. -/
def Element.mapOperand (f : Operand → Operand) : Element → Element
  | .operand o => .operand (f o)
  | .operation op => .operation op

/-- A move with its operand exchanged. -/
def Move.mapOperand (f : Operand → Operand) : Move → Move
  | .operand o => .operand (f o)
  | m => m

/-- A standing with the operands exchanged that are out. -/
def Standing.mapOperands (f : Operand → Operand) (standing : Standing) : Standing :=
  { standing with output := standing.output.map (Element.mapOperand f) }

theorem map_mapOperand_released (f : Operand → Operand) (entries : List Waiting) :
    (released entries).map (Element.mapOperand f) = released entries := by
  rw [released, List.map_map]
  rfl

section Exchanged

variable {f : Operand → Operand} {inner outer inner' : Scan}

/-- `Exchanged f inner outer` says that the outer scan is the inner one with operands
exchanged, wherever its parentheses stand. -/
def Exchanged (f : Operand → Operand) (inner outer : Scan) : Prop :=
  outer.standing = inner.standing.mapOperands f

namespace Exchanged

theorem expectation_eq (h : Exchanged f inner outer) :
    outer.expectation = inner.expectation := congrArg Standing.expectation h

theorem waiting_eq (h : Exchanged f inner outer) : outer.waiting = inner.waiting :=
  congrArg Standing.waiting h

theorem output_eq (h : Exchanged f inner outer) :
    outer.output = inner.output.map (Element.mapOperand f) := congrArg Standing.output h

theorem expect (h : Exchanged f inner outer) (expectation : Expectation) :
    Exchanged f (inner.expect expectation) (outer.expect expectation) := by
  show Standing.mk expectation outer.waiting outer.output = _
  rw [h.waiting_eq, h.output_eq]
  rfl

theorem push (h : Exchanged f inner outer) (entry : Waiting) :
    Exchanged f (inner.push entry) (outer.push entry) := by
  show Standing.mk outer.expectation (entry :: outer.waiting) outer.output = _
  rw [h.expectation_eq, h.waiting_eq, h.output_eq]
  rfl

theorem put (h : Exchanged f inner outer) (o : Operand) :
    Exchanged f (inner.put [.operand o]) (outer.put [.operand (f o)]) := by
  show Standing.mk outer.expectation outer.waiting (outer.output ++ [.operand (f o)]) = _
  rw [h.expectation_eq, h.waiting_eq, h.output_eq]
  simp [Standing.mapOperands, Scan.standing, Scan.put, Element.mapOperand]

/-- What waits holds no operand, so the same is released. -/
theorem release (h : Exchanged f inner outer) (entries waiting : List Waiting) :
    Exchanged f { inner with output := inner.output ++ released entries, waiting }
      { outer with output := outer.output ++ released entries, waiting } := by
  show Standing.mk outer.expectation waiting (outer.output ++ released entries) = _
  rw [h.expectation_eq, h.output_eq]
  simp [Standing.mapOperands, Scan.standing, map_mapOperand_released]

theorem drain (h : Exchanged f inner outer) (test : Waiting → Bool) :
    Exchanged f (inner.drain test) (outer.drain test) := by
  rw [Scan.drain, Scan.drain, h.waiting_eq]
  exact h.release _ _

end Exchanged

/-- **One move.**  What a move does to a scan, it does with other operands to the scan with
these operands. -/
theorem carries_mapOperand {position : Nat} {m : Move}
    (h : inner.advance position m = .ok inner') (f : Operand → Operand) :
    Carries (m.mapOperand f) (inner.standing.mapOperands f) (inner'.standing.mapOperands f) := by
  intro outer place hstanding
  have hexchanged : Exchanged f inner outer := hstanding
  cases m with
  | operand o =>
      cases h
      exact ⟨_, rfl, (hexchanged.put o).expect _⟩
  | function name op =>
      cases h
      exact ⟨_, rfl, (hexchanged.push _).expect _⟩
  | unary op =>
      cases h
      exact ⟨_, rfl, hexchanged.push _⟩
  | binary op =>
      cases h
      exact ⟨_, rfl, (((hexchanged.drain _).drain _).push _).expect _⟩
  | left =>
      cases h
      exact ⟨_, rfl, (hexchanged.push .left).expect .operand⟩
  | right =>
      obtain ⟨inside, outside, hwaiting, hinside, rfl⟩ := Scan.waiting_of_advance_right h
      have hclosed : Exchanged f
          { inner with
            output := inner.output ++ released inside
            waiting := outside
            opens := inner.opens.tail }
          { outer with
            output := outer.output ++ released inside
            waiting := outside
            opens := outer.opens.tail } := hexchanged.release inside outside
      refine ⟨_, Scan.advance_right ?_ hinside, (hclosed.drain _).expect _⟩
      rw [hexchanged.waiting_eq, hwaiting]
  | comma =>
      obtain ⟨inside, outside, hwaiting, hinside, rfl⟩ := Scan.waiting_of_advance_comma h
      refine ⟨_, Scan.advance_comma ?_ hinside,
        (hexchanged.release inside (.left :: outside)).expect _⟩
      rw [hexchanged.waiting_eq, hwaiting]

end Exchanged

/-- **A source.**  What a source does to a scan, other lexemes do to the scan with other
operands, if they ask for the same moves with these operands. -/
theorem leads_mapOperands {vocabulary : Vocabulary} {source : List Token} {scan scan' : Scan}
    {f : Operand → Operand} {g : Lexeme → Lexeme}
    (hreads : ∀ {expectation : Expectation} {lexeme : Lexeme} {m : Move},
      Reads vocabulary expectation lexeme m →
      Reads vocabulary expectation (g lexeme) (m.mapOperand f))
    (h : source.foldlM (Scan.proceed vocabulary) scan = .ok scan') :
    Leads vocabulary ((source.map Token.lexeme).map g) (scan.standing.mapOperands f)
      (scan'.standing.mapOperands f) := by
  refine Scan.foldlM_proceed_induction
    (fun scan later => Leads vocabulary (later.map g) (scan.standing.mapOperands f)
      (scan'.standing.mapOperands f)) h .nil ?_
  intro scan next token m later hread hadvance hlater
  exact .cons (hreads hread) (carries_mapOperand hadvance f) hlater

/-- A source with other operands is accepted as the source is. -/
theorem complete_mapOperands {vocabulary : Vocabulary} {source source' : List Token}
    {elements : List Element} {length : Nat} {f : Operand → Operand} {g : Lexeme → Lexeme}
    (hreads : ∀ {expectation : Expectation} {lexeme : Lexeme} {m : Move},
      Reads vocabulary expectation lexeme m →
      Reads vocabulary expectation (g lexeme) (m.mapOperand f))
    (h : Scan.complete vocabulary source length = .ok elements)
    (hsource : source'.map Token.lexeme = (source.map Token.lexeme).map g) (length' : Nat) :
    Scan.complete vocabulary source' length' = .ok (elements.map (Element.mapOperand f)) := by
  obtain ⟨scan, hscan, hconclude⟩ := Scan.exists_of_complete h
  obtain ⟨hopen, hclosed, rfl⟩ := Scan.content_of_conclude hconclude
  have hleads := leads_mapOperands hreads hscan
  rw [← hsource] at hleads
  have hcomplete := complete_of_leads hleads hopen hclosed length'
  rw [hcomplete, Scan.content, List.map_append, map_mapOperand_released]
  rfl

/-! ## Values of other operands -/

/-- Only the values of operands count. -/
theorem evaluateElements_mapOperand {values values' : Values} {elements : List Element}
    {f : Operand → Operand}
    (h : ∀ o, .operand o ∈ elements → (f o).value values' = o.value values) :
    evaluateElements values' (elements.map (Element.mapOperand f)) =
      evaluateElements values elements := by
  refine evaluateElements_of_forall₂ (List.forall₂_map_left_iff.2
    (List.forall₂_same.2 fun element hmem stack => ?_))
  cases element with
  | operand o => rw [Element.mapOperand, Element.run, Element.run, h o hmem]
  | operation op => rfl

/-! ## A binding that is put in -/

namespace Expression

variable {expression : Expression} {before after : List (Text × Value)} {name : Text}
  {value : Value}

/-- With one more binding that is taken, the first that is refused stays the first. -/
theorem FirstRefused.insert {fault : EvaluationFault} (htakes : expression.Takes (name, value))
    (h : expression.FirstRefused (before ++ after) fault) :
    expression.FirstRefused (before ++ (name, value) :: after) fault := by
  obtain ⟨front, refused, behind, hbindings, hfront, hrefused⟩ := h
  rcases List.append_eq_append_iff.1 hbindings with
    ⟨between, rfl, rfl⟩ | ⟨between, rfl, hbehind⟩
  · refine ⟨before ++ (name, value) :: between, refused, behind, by simp, ?_, hrefused⟩
    rw [List.forall_mem_append] at hfront ⊢
    exact ⟨hfront.1, List.forall_mem_cons.2 ⟨htakes, hfront.2⟩⟩
  · cases between with
    | nil =>
        rw [List.nil_append] at hbehind
        refine ⟨front ++ [(name, value)], refused, behind, by simp [← hbehind], ?_, hrefused⟩
        rw [List.forall_mem_append]
        exact ⟨hfront, List.forall_mem_singleton.2 htakes⟩
    | cons binding between =>
        obtain ⟨rfl, rfl⟩ := List.cons.inj hbehind
        exact ⟨front, refused, between ++ (name, value) :: after, by simp, hfront, hrefused⟩

theorem exists_slot?_of_mem (h : name ∈ expression.names) :
    ∃ slot, expression.slot? name = some slot ∧ slot.name = name := by
  obtain ⟨slot, hmem, hname⟩ := List.mem_map.1 h
  have hsome : (expression.slot? name).isSome := by
    rw [slot?, List.find?_isSome]
    exact ⟨slot, hmem, by simpa using hname⟩
  obtain ⟨found, hfound⟩ := Option.isSome_iff_exists.1 hsome
  exact ⟨found, hfound, by simpa using List.find?_some hfound⟩

/-- A binding counts for its own variable only. -/
theorem bound?_insert_of_ne {key other : Text} (hkey : expression.resolve? name = some key)
    (hne : other ≠ key) :
    expression.bound? (before ++ (name, value) :: after) other =
      expression.bound? (before ++ after) other := by
  have hnot : ¬ some key = some other := fun hsame => hne (Option.some.inj hsame).symm
  simp only [bound?, List.filter_append]
  rw [List.filter_cons_of_neg (by simpa [hkey] using hnot)]

/-- The only binding for a variable gives it its value. -/
theorem bound?_insert {key : Text} (hkey : expression.resolve? name = some key)
    (hbefore : ∀ binding ∈ before, expression.resolve? binding.1 ≠ some key)
    (hafter : ∀ binding ∈ after, expression.resolve? binding.1 ≠ some key) :
    expression.bound? (before ++ (name, value) :: after) key = some value.rounded := by
  have hnone {bindings : List (Text × Value)}
      (h : ∀ binding ∈ bindings, expression.resolve? binding.1 ≠ some key) :
      bindings.filter (fun binding => expression.resolve? binding.1 = some key) = [] :=
    List.filter_eq_nil_iff.2 fun binding hmem => by simpa using h binding hmem
  simp only [bound?, List.filter_append]
  rw [List.filter_cons_of_pos (by simpa using hkey), hnone hbefore, hnone hafter]
  rfl

end Expression

/-! ## Numerals in the place of a name -/

/-- A lexeme with a numeral in the place of a name. -/
def Lexeme.replaceTerm (name numeral : Text) : Lexeme → Lexeme
  | .term text => .term (if text = name then numeral else text)
  | .symbol c => .symbol c

/-- A source with a numeral in the place of every term that is the name. -/
def replaceTerm (name numeral source : Text) : Text :=
  respell (Lexeme.replaceTerm name numeral) source

/-- An operand, or a literal in the place of a variable. -/
def Operand.replaceVariable (name numeral : Text) (value : Float) : Operand → Operand
  | .variable text => if text = name then .literal numeral value else .variable text
  | o => o

theorem Operand.replaceVariable_self (name numeral : Text) (value : Float) :
    (Operand.variable name).replaceVariable name numeral value = .literal numeral value :=
  if_pos rfl

theorem Operand.replaceVariable_of_ne {text name : Text} (h : text ≠ name) (numeral : Text)
    (value : Float) :
    (Operand.variable text).replaceVariable name numeral value = .variable text :=
  if_neg h

/-- A name that is a variable wherever it stands, and a numeral for a finite double. -/
structure Replaceable (names : List Text) (name numeral : Text) (value : Float) : Prop where
  declared : name ∈ names
  not_numeral : Number.numeral? name = none
  not_constant : Symbol.constant? name = none
  spells : Number.numeral? numeral = some value
  finite : value.isFinite = true

section Replaced

variable {vocabulary : Vocabulary} {names : List Text} {name numeral source : Text}
  {value : Float}

theorem Lexeme.keepsKinds_replaceTerm (name : Text) (hnumeral : (Lexeme.term numeral).Proper) :
    KeepsKinds (Lexeme.replaceTerm name numeral) := by
  intro lexeme hproper
  cases lexeme with
  | symbol c => exact ⟨hproper, rfl⟩
  | term term =>
      rw [Lexeme.replaceTerm]
      split
      · exact ⟨hnumeral, rfl⟩
      · exact ⟨hproper, rfl⟩

/-- A source has the same lexemes with the numeral, but for the name. -/
theorem lexemes_replaceTerm (name : Text) (hnumeral : (Lexeme.term numeral).Proper)
    (source : Text) :
    lexemes (replaceTerm name numeral source) =
      (lexemes source).map (Lexeme.replaceTerm name numeral) := by
  have hmap := map_lexeme_respellFrom (Lexeme.keepsKinds_replaceTerm name hnumeral) 0 0 source
  rw [lexemes, lexemes, List.map_map]
  exact hmap

namespace Replaceable

/-- The name is a variable, and the numeral is a literal. -/
theorem meaning?_eq (h : Replaceable vocabulary.names name numeral value) :
    vocabulary.meaning? name = some (.operand (.variable name)) ∧
      vocabulary.meaning? numeral = some (.operand (.literal numeral value)) := by
  constructor
  · rw [Vocabulary.meaning?, h.not_numeral, h.not_constant]
    exact if_pos h.declared
  · rw [Vocabulary.meaning?, h.spells]
    exact if_pos h.finite

/-- With the numeral, a term that is an operand is the operand with the literal. -/
theorem meaning?_replaceTerm (h : Replaceable vocabulary.names name numeral value)
    {term : Text} {o : Operand} (ho : vocabulary.meaning? term = some (.operand o)) :
    vocabulary.meaning? (if term = name then numeral else term) =
      some (.operand (o.replaceVariable name numeral value)) := by
  obtain ⟨hname, hnumeral⟩ := h.meaning?_eq
  by_cases hterm : term = name
  · subst hterm
    rw [hname] at ho
    cases ho
    rw [if_pos rfl, hnumeral, Operand.replaceVariable_self]
  · rw [if_neg hterm, ho]
    rcases Vocabulary.operand_cases ho with ⟨_, _, _, rfl⟩ | ⟨_, _, _, rfl⟩ | ⟨_, rfl⟩
    · rfl
    · rfl
    · rw [Operand.replaceVariable_of_ne hterm]

/-- **One lexeme.**  With the numeral, a lexeme asks for the same move, with the literal. -/
theorem reads (h : Replaceable vocabulary.names name numeral value)
    {expectation : Expectation} {lexeme : Lexeme} {m : Move}
    (hread : Reads vocabulary expectation lexeme m) :
    Reads vocabulary expectation (lexeme.replaceTerm name numeral)
      (m.mapOperand (Operand.replaceVariable name numeral value)) := by
  cases hread with
  | operand hopen ho => exact .operand hopen (h.meaning?_replaceTerm ho)
  | @function _ term op hopen hop =>
      have hterm : term ≠ name := by
        rintro rfl
        rw [h.meaning?_eq.1] at hop
        cases hop
      rw [Lexeme.replaceTerm, if_neg hterm]
      exact .function hopen hop
  | unary hop => exact .unary hop
  | binary hop => exact .binary hop
  | left => exact .left
  | right hopen => exact .right hopen
  | comma hopen => exact .comma hopen

end Replaceable

/-- Numerals group no other lexemes than names do. -/
theorem opensAfter_replaceTerm (lexeme : Lexeme) (opens : Nat) :
    (lexeme.replaceTerm name numeral).opensAfter opens = lexeme.opensAfter opens := by
  cases lexeme <;> rfl

theorem deepest_map_replaceTerm (opens : Nat) (row : List Lexeme) :
    deepest opens (row.map (Lexeme.replaceTerm name numeral)) = deepest opens row := by
  induction row generalizing opens with
  | nil => rfl
  | cons lexeme row ih =>
      rw [List.map_cons, deepest, deepest, opensAfter_replaceTerm, ih]

/-- An element, or a literal in the place of a variable. -/
def Element.replaceVariable (name numeral : Text) (value : Float) (element : Element) : Element :=
  element.mapOperand (Operand.replaceVariable name numeral value)

variable {config : Config} {expression : Expression}

/-- With the numeral, a source is accepted, if that does not make it too long. -/
theorem parse_replaceTerm (hcase : config.caseFold = false)
    (h : Replaceable names name numeral value)
    (hparse : parse source names config = .ok expression)
    (hlength : (replaceTerm name numeral source).length ≤
      (config.limits.cap .expressionLength).val) :
    parse (replaceTerm name numeral source) names config =
      .ok { expression with
        elements := expression.elements.map (Element.replaceVariable name numeral value) } := by
  have hid : ∀ text : Text, config.fold text = text := Config.fold_eq_self hcase
  have hmap : names.map config.fold = names := Config.map_fold_eq_self hcase names
  have hnames : (config.vocabulary names).names = names := hmap
  have hvocabulary : Replaceable (config.vocabulary names).names name numeral value := by
    rwa [hnames]
  have hlexemes := lexemes_replaceTerm name (Number.proper_of_numeral? h.spells) source
  obtain ⟨hfree, hadmits⟩ := parse_eq_ok_iff.1 hparse
  rw [hid] at hadmits
  have hcomplete := complete_of_parse hparse
  rw [hid] at hcomplete
  have hreplaced := complete_mapOperands hvocabulary.reads hcomplete hlexemes
    (replaceTerm name numeral source).length
  refine parse_eq_ok_iff.2 ⟨?_, ?_⟩
  · rw [parseFreely] at hfree ⊢
    obtain ⟨elements, _, hexpression⟩ := exists_of_bind hfree
    cases hexpression
    rw [hid, hreplaced]
    rfl
  · rw [hid]
    refine ⟨hadmits.names, hlength, ?_, ?_⟩
    · rw [hlexemes, deepest_map_replaceTerm]
      exact hadmits.depth
    · rw [List.length_map]
      exact hadmits.elements

/-- With the literal, an operand has the value that it has with the binding. -/
theorem value_replaceVariable {before after : List (Text × Value)}
    (hmem : name ∈ expression.names)
    (hbefore : ∀ binding ∈ before, expression.resolve? binding.1 ≠ some name)
    (hafter : ∀ binding ∈ after, expression.resolve? binding.1 ≠ some name) (o : Operand) :
    (o.replaceVariable name numeral value).value
        (Values.ofSlots (expression.substitute (before ++ after)).slots) =
      o.value (Values.ofSlots
        (expression.substitute (before ++ (name, .float value) :: after)).slots) := by
  have hresolve := Expression.resolve?_of_mem hmem
  rcases o with ⟨text, x⟩ | c | text
  · rfl
  · rfl
  · by_cases htext : text = name
    · subst htext
      obtain ⟨slot, hslot, hname⟩ := Expression.exists_slot?_of_mem hmem
      rw [Operand.replaceVariable_self, Operand.value, Operand.value,
        Expression.lookup_substitute, hslot, Option.map_some, Expression.valueUnder, hname,
        Expression.bound?_insert hresolve hbefore hafter]
      rfl
    · rw [Operand.replaceVariable_of_ne htext, Operand.value, Operand.value,
        Expression.lookup_substitute, Expression.lookup_substitute]
      cases hslot : expression.slot? text with
      | none => rfl
      | some slot =>
          have hname : slot.name = text := by simpa using List.find?_some hslot
          simp only [Option.map_some, Expression.valueUnder, hname,
            Expression.bound?_insert_of_ne hresolve htext]

/-- **A numeral in the place of a variable.**  Let a source be accepted, case matter, and a
numeral of a finite value be written in it wherever a term is the name of a variable.  If it
is not too long then, it is accepted with the same names.  Its elements are the same, but with
the literal for every mention of the variable.  And under any bindings, none of which is for
the variable, it has the outcome, a value or a fault, that the source itself has with one
more binding that gives the variable the value of the numeral. -/
theorem parse_written (hcase : config.caseFold = false)
    (h : Replaceable names name numeral value)
    (hparse : parse source names config = .ok expression)
    (hlength : (replaceTerm name numeral source).length ≤
      (config.limits.cap .expressionLength).val) :
    ∃ written, parse (replaceTerm name numeral source) names config = .ok written ∧
      written = { expression with
        elements := expression.elements.map (Element.replaceVariable name numeral value) } ∧
      ∀ before after : List (Text × Value),
        (∀ binding ∈ before ++ after, expression.resolve? binding.1 ≠ some name) →
        written.evaluate (before ++ after) =
          expression.evaluate (before ++ (name, .float value) :: after) := by
  refine ⟨_, parse_replaceTerm hcase h hparse hlength, rfl, ?_⟩
  intro before after hother
  obtain ⟨hbefore, hafter⟩ := List.forall_mem_append.1 hother
  have hmem : name ∈ expression.names := by
    rw [Expression.names, slots_of_parse hparse, Config.map_fold_eq_self hcase]
    exact List.mem_map.2 (exists_slot_of_mem h.declared)
  have htakes : expression.Takes (name, .float value) := ⟨.inl hmem, rfl⟩
  show (expression.values (before ++ after) >>= fun values => evaluateElements values
      (expression.elements.map (Element.replaceVariable name numeral value))) =
    (expression.values (before ++ (name, .float value) :: after) >>= fun values =>
      evaluateElements values expression.elements)
  rcases Expression.taken_or_firstRefused expression (before ++ after) with
    htaken | ⟨fault, hfirst⟩
  · have hall : ∀ binding ∈ before ++ (name, .float value) :: after,
        expression.Takes binding := by
      rw [List.forall_mem_append] at htaken ⊢
      exact ⟨htaken.1, List.forall_mem_cons.2 ⟨htakes, htaken.2⟩⟩
    rw [Expression.values_of_taken htaken, Expression.values_of_taken hall, ok_bind, ok_bind]
    exact evaluateElements_mapOperand fun o _ => value_replaceVariable hmem hbefore hafter o
  · rw [Expression.values_of_firstRefused hfirst,
      Expression.values_of_firstRefused (hfirst.insert htakes)]
    rfl

/-- A numeral in a difference, and one in a row that makes no sense with it or without. -/
theorem parse_written_difference :
    let config : Config := ⟨false, none⟩
    let names : List Text := [['x'], ['y'], ['x', '1']]
    (∃ written, replaceTerm ['x'] "2.5".toList "x1 - y*x".toList = "x1 - y*2.5".toList ∧
      parse "x1 - y*2.5".toList names config = .ok written ∧
      written.evaluate [(['y'], 0.5), (['x', '1'], 2.0)] = .ok 0.75) ∧
    ∃ written, replaceTerm ['x'] "2.5".toList "x(y x1)".toList = "2.5(y x1)".toList ∧
      parse "2.5(y x1)".toList names config = .ok written ∧
      written.evaluate [(['y'], 0.5)] = .error (.valuesLeft 3) := by
  intro config names
  have hreplaceable : Replaceable names ['x'] "2.5".toList 2.5 :=
    ⟨by decide, rfl, rfl, rfl, rfl⟩
  constructor
  · have hparse : parse "x1 - y*x".toList names config = .ok { Expression.ofNames names with
        elements := [.operand (.variable ['x', '1']), .operand (.variable ['y']),
          .operand (.variable ['x']), .operation (.binary .mul),
          .operation (.binary .sub)] } := rfl
    obtain ⟨written, hwritten, _, hvalue⟩ :=
      parse_written rfl hreplaceable hparse (by decide +kernel)
    refine ⟨written, rfl, hwritten, ?_⟩
    rw [show [(['y'], (0.5 : Value)), (['x', '1'], 2.0)] =
        [(['y'], 0.5)] ++ [(['x', '1'], 2.0)] from rfl,
      hvalue _ _ (by decide)]
    rfl
  · have hparse : parse "x(y x1)".toList names config = .ok { Expression.ofNames names with
        elements := [.operand (.variable ['x']), .operand (.variable ['y']),
          .operand (.variable ['x', '1'])] } := rfl
    obtain ⟨written, hwritten, _, hvalue⟩ :=
      parse_written rfl hreplaceable hparse (by decide +kernel)
    refine ⟨written, rfl, hwritten, ?_⟩
    rw [← List.append_nil [(['y'], (0.5 : Value))], hvalue _ _ (by decide)]
    rfl

end Replaced

end Formula
