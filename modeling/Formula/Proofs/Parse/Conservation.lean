import Formula.Proofs.Parse.Folding
import Formula.Proofs.Parse.Limits

/-!
# Nothing is lost

What a lexeme stands for is told by the lexeme and by the one in front of it, which says
whether an operand is due.  So a row of lexemes has its elements, in the order in which they
are written, without a word on stacks.  A scan puts these elements out in another order.  It
neither loses one nor adds one, and it leaves the operands in their order: at every point,
the elements that are out and those that wait on the stack are the elements of the lexemes
taken so far.

One step shows it.  Of what is out and what waits, a move changes the places only, and adds
the element of its lexeme (`Scan.content_advance`); operands go out at once
(`Scan.operands_advance`).  What remains is that the lexeme in front says what the scan
expects (`operandDue_of_reads`).

## Main results

* `elements_of_reads`: the element of a move is the one that its lexeme stands for.
* `conserved_of_foldlM`: what is out or waits are the elements of the lexemes so far.
* `parse_conserves`: the elements of an expression are those of its source.
-/

namespace Formula

open Outcome

/-! ## The elements of lexemes -/

/-- Whether an operand is due behind a lexeme: at the beginning, and behind every symbol but
a closing parenthesis. -/
def operandDue : Option Lexeme → Bool
  | none => true
  | some (.term _) => false
  | some (.symbol c) => c != ')'

/-- The element that a lexeme stands for behind another one.  An operator is unary where an
operand is due, and a grouping stands for nothing. -/
def Vocabulary.element? (vocabulary : Vocabulary) (previous : Option Lexeme) :
    Lexeme → Option Element
  | .term term =>
    match vocabulary.meaning? term with
    | some (.operand o) => some (.operand o)
    | some (.function op) => some (.operation op)
    | none => none
  | .symbol c =>
    if operandDue previous then (Symbol.unary? c).map fun op => .operation (.unary op)
    else (Symbol.binary? c).map fun op => .operation (.binary op.operation)

/-- The elements that lexemes stand for, in the order in which they are written. -/
def Vocabulary.elementsOf (vocabulary : Vocabulary) : Option Lexeme → List Lexeme → List Element
  | _, [] => []
  | previous, lexeme :: later =>
    (vocabulary.element? previous lexeme).toList ++ vocabulary.elementsOf (some lexeme) later

/-- `Conserved vocabulary row elements` says that the elements are those of the row: all of
them, each once, one for each lexeme that does not group, and the operands in their order. -/
structure Conserved (vocabulary : Vocabulary) (row : List Lexeme) (elements : List Element) :
    Prop where
  perm : elements.Perm (vocabulary.elementsOf none row)
  operands : elements.filterMap Element.operand? =
    (vocabulary.elementsOf none row).filterMap Element.operand?
  length : elements.length + row.countP Lexeme.isGrouping = row.length

/-- An operand that is what it says: a literal is the finite number that its text spells, a
constant is the one of its name, and a variable has a slot. -/
def Operand.Resolved (slots : List Slot) : Operand → Prop
  | .literal text value => Number.numeral? text = some value ∧ value.isFinite = true
  | .constant c => Symbol.constant? c.name = some c
  | .variable name => ∃ slot ∈ slots, slot.name = name

/-! ## A lexeme and its move -/

section Reads

variable {vocabulary : Vocabulary} {expectation : Expectation} {previous : Option Lexeme}
  {lexeme : Lexeme} {m : Move}

/-- The lexeme in front of a scan says whether the scan expects an operand. -/
def Announces (previous : Option Lexeme) (expectation : Expectation) : Prop :=
  operandDue previous = true ↔ expectation = .operand

theorem ne_right_of_grouping?_eq_none {c : Char} (h : Symbol.grouping? c = none) : c ≠ ')' := by
  rintro rfl
  cases h

/-- A lexeme that is taken says what is expected next. -/
theorem operandDue_of_reads (h : Reads vocabulary expectation lexeme m) :
    Announces (some lexeme) (m.next expectation) := by
  cases h with
  | unary hop =>
      have hc := ne_right_of_grouping?_eq_none (Symbol.grouping?_eq_none_of_unary hop)
      simp [Announces, operandDue, Move.next, hc]
  | binary hop =>
      have hc := ne_right_of_grouping?_eq_none (Symbol.grouping?_eq_none_of_binary hop)
      simp [Announces, operandDue, Move.next, hc]
  | _ => simp [Announces, operandDue, Move.next]

theorem element?_of_grouping {c : Char} {grouping : Grouping}
    (h : Symbol.grouping? c = some grouping) :
    vocabulary.element? previous (.symbol c) = none := by
  have hc := Symbol.eq_char_of_grouping? h
  subst hc
  cases grouping <;> cases hdue : operandDue previous <;>
    simp [Vocabulary.element?, hdue, Grouping.char, Symbol.unary?, Symbol.binary?]

/-- The element of a move is the one that its lexeme stands for. -/
theorem elements_of_reads (h : Reads vocabulary expectation lexeme m)
    (hannounces : Announces previous expectation) :
    m.elements = (vocabulary.element? previous lexeme).toList := by
  cases h with
  | operand _ hmeaning => simp [Vocabulary.element?, hmeaning, Move.elements]
  | function _ hmeaning => simp [Vocabulary.element?, hmeaning, Move.elements]
  | unary hop =>
      have hdue : operandDue previous = true := hannounces.2 rfl
      simp [Vocabulary.element?, hdue, hop, Move.elements]
  | binary hop =>
      have hdue : operandDue previous = false := by
        cases hvalue : operandDue previous with
        | false => rfl
        | true => cases hannounces.1 hvalue
      simp [Vocabulary.element?, hdue, hop, Move.elements]
  | left => rw [element?_of_grouping rfl]; rfl
  | right _ => rw [element?_of_grouping rfl]; rfl
  | comma _ => rw [element?_of_grouping rfl]; rfl

end Reads

/-! ## A whole scan -/

namespace Scan

variable {vocabulary : Vocabulary} {scan scan' : Scan} {source : List Token}

/-- A lexeme that is taken says what the scan behind it expects. -/
theorem announces_of_advance {position : Nat} {lexeme : Lexeme} {m : Move}
    (hread : Reads vocabulary scan.expectation lexeme m)
    (hadvance : scan.advance position m = .ok scan') :
    Announces (some lexeme) scan'.expectation := by
  rw [expectation_advance hadvance]
  exact operandDue_of_reads hread

/-- Tokens add their elements to what is out or waits. -/
theorem content_foldlM (h : source.foldlM (proceed vocabulary) scan = .ok scan') :
    ∀ previous, Announces previous scan.expectation →
      scan'.content.Perm
        (scan.content ++ vocabulary.elementsOf previous (source.map Token.lexeme)) := by
  refine foldlM_proceed_induction
    (fun scan later => ∀ previous, Announces previous scan.expectation →
      scan'.content.Perm (scan.content ++ vocabulary.elementsOf previous later)) h ?_ ?_
  · intro previous _
    rw [Vocabulary.elementsOf, List.append_nil]
  · intro scan next token m later hread hadvance hlater previous hannounces
    have hnext := announces_of_advance hread hadvance
    have hone := content_advance hadvance
    rw [elements_of_reads hread hannounces] at hone
    rw [Vocabulary.elementsOf, ← List.append_assoc]
    exact (hlater _ hnext).trans (hone.append_right _)

/-- Tokens add their operands to those that are out, behind them. -/
theorem operands_foldlM_elementsOf (h : source.foldlM (proceed vocabulary) scan = .ok scan') :
    ∀ previous, Announces previous scan.expectation →
      scan'.operands = scan.operands ++
        (vocabulary.elementsOf previous (source.map Token.lexeme)).filterMap
          Element.operand? := by
  refine foldlM_proceed_induction
    (fun scan later => ∀ previous, Announces previous scan.expectation →
      scan'.operands = scan.operands ++
        (vocabulary.elementsOf previous later).filterMap Element.operand?) h ?_ ?_
  · intro previous _
    exact (List.append_nil _).symm
  · intro scan next token m later hread hadvance hlater previous hannounces
    have hnext := announces_of_advance hread hadvance
    rw [hlater _ hnext, operands_advance hadvance, elements_of_reads hread hannounces,
      Vocabulary.elementsOf, List.filterMap_append, List.append_assoc]

theorem filterMap_content (scan : Scan) :
    scan.content.filterMap Element.operand? = scan.operands := by
  rw [content, List.filterMap_append, filterMap_released, List.append_nil, operands]

/-- What is out or waits are the elements of the lexemes taken so far. -/
theorem conserved_of_foldlM (h : source.foldlM (proceed vocabulary) {} = .ok scan) :
    Conserved vocabulary (source.map Token.lexeme) scan.content := by
  have hstart : Announces none ({} : Scan).expectation := by
    simp [Announces, operandDue]
  constructor
  · exact content_foldlM h none hstart
  · rw [filterMap_content]
    exact operands_foldlM_elementsOf h none hstart
  · have hweight : scan.weight = 0 + elementCount (source.map Token.lexeme) := weight_foldlM h
    have hcount := List.length_eq_countP_add_countP Lexeme.isGrouping
      (l := source.map Token.lexeme)
    have hothers : elementCount (source.map Token.lexeme) =
        (source.map Token.lexeme).countP fun lexeme => decide ¬lexeme.isGrouping = true := by
      apply List.countP_congr
      intro lexeme _
      simp
    show scan.weight + _ = _
    omega

end Scan

/-! ## What operands are resolved to -/

/-- The three kinds of operands, and when a term is one. -/
theorem Vocabulary.operand_cases {vocabulary : Vocabulary} {term : Text} {o : Operand}
    (h : vocabulary.meaning? term = some (.operand o)) :
    (∃ value, Number.numeral? term = some value ∧ value.isFinite = true ∧
      o = .literal term value) ∨
    (∃ c, Symbol.constant? term = some c ∧ c.name = term ∧ o = .constant c) ∨
    (term ∈ vocabulary.names ∧ o = .variable term) := by
  unfold Vocabulary.meaning? at h
  cases hnumeral : Number.numeral? term with
  | some value =>
      by_cases hfinite : value.isFinite = true
      · simp only [hnumeral, hfinite, if_true] at h
        cases h
        exact .inl ⟨value, rfl, hfinite, rfl⟩
      · simp [hnumeral, hfinite] at h
  | none =>
      cases hconstant : Symbol.constant? term with
      | some c =>
          have hname : c.name = term := by simpa using List.find?_some hconstant
          simp only [hnumeral, hconstant] at h
          cases h
          exact .inr (.inl ⟨c, rfl, hname, rfl⟩)
      | none =>
          by_cases hmem : term ∈ vocabulary.names
          · simp only [hnumeral, hconstant, hmem, if_true] at h
            cases h
            exact .inr (.inr ⟨hmem, rfl⟩)
          · simp [hnumeral, hconstant, hmem] at h

/-- An operand among the elements of some lexemes is what one of their terms means. -/
theorem Vocabulary.exists_term_of_mem {vocabulary : Vocabulary} {row : List Lexeme}
    {previous : Option Lexeme} {o : Operand}
    (h : .operand o ∈ vocabulary.elementsOf previous row) :
    ∃ term, .term term ∈ row ∧ vocabulary.meaning? term = some (.operand o) := by
  induction row generalizing previous with
  | nil => cases h
  | cons lexeme later ih =>
      rcases List.mem_append.1 h with hfirst | hlater
      · have helement : vocabulary.element? previous lexeme = some (.operand o) := by
          simpa using hfirst
        cases lexeme with
        | symbol c =>
            cases hdue : operandDue previous <;> simp [Vocabulary.element?, hdue] at helement
        | term term =>
            refine ⟨term, List.mem_cons_self, ?_⟩
            unfold Vocabulary.element? at helement
            cases hmeaning : vocabulary.meaning? term with
            | none => simp [hmeaning] at helement
            | some meaning =>
                cases meaning with
                | operand o' =>
                    simp only [hmeaning, Option.some.injEq, Element.operand.injEq] at helement
                    rw [helement]
                | function op => simp [hmeaning] at helement
      · obtain ⟨term, hterm, hmeaning⟩ := ih hlater
        exact ⟨term, List.mem_cons_of_mem _ hterm, hmeaning⟩

theorem meaning?_of_operand? {vocabulary : Vocabulary} {term : Text} {o : Operand}
    (h : vocabulary.operand? term = some o) :
    vocabulary.meaning? term = some (.operand o) := by
  unfold Vocabulary.operand? at h
  split at h
  · rename_i hmeaning
    cases h
    exact hmeaning
  · cases h

variable {source : Text} {names : List Text} {config : Config}

/-- The operands of a parsed expression have the texts of terms of its source, and are
resolved. -/
theorem resolved_of_meaning? {expression : Expression} {term : Text} {o : Operand}
    (hparse : parse source names config = .ok expression)
    (h : (config.vocabulary names).meaning? term = some (.operand o)) :
    o.text = term ∧ o.Resolved expression.slots := by
  rcases Vocabulary.operand_cases h with
    ⟨value, hnumeral, hfinite, rfl⟩ | ⟨c, hconstant, hname, rfl⟩ | ⟨hmem, rfl⟩
  · exact ⟨rfl, hnumeral, hfinite⟩
  · refine ⟨hname, ?_⟩
    rw [← hname] at hconstant
    exact hconstant
  · refine ⟨rfl, ?_⟩
    rw [slots_of_parse hparse]
    exact exists_slot_of_mem hmem

/-- The operands of a parsed expression are resolved. -/
theorem resolved_of_parse {expression : Expression} {o : Operand}
    (hparse : parse source names config = .ok expression)
    (h : .operand o ∈ expression.elements) : o.Resolved expression.slots := by
  have hmem : o ∈ expression.elements.filterMap Element.operand? :=
    List.mem_filterMap.2 ⟨.operand o, h, rfl⟩
  rw [operands_of_parse hparse] at hmem
  obtain ⟨term, _, hterm⟩ := List.mem_filterMap.1 hmem
  exact (resolved_of_meaning? hparse (meaning?_of_operand? hterm)).2

/-- **Nothing is lost, doubled or moved.**  The elements of a parsed expression are those
that the lexemes of its source stand for, each once, and the operands among them in the
order of the source; every lexeme that does not group is one of them.  Each operand has the
text of a term of the source, and is resolved.  And at every point of a scan, whatever
becomes of it later, what is out and what waits on the stack are the elements of the lexemes
taken so far. -/
theorem parse_conserves (source : Text) (names : List Text) (config : Config) :
    (∀ expression, parse source names config = .ok expression →
      Conserved (config.vocabulary names) (lexemes (config.fold source)) expression.elements ∧
      ∀ o, .operand o ∈ expression.elements →
        .term o.text ∈ lexemes (config.fold source) ∧ o.Resolved expression.slots) ∧
    ∀ (taken : List Token) (scan : Scan),
      taken.foldlM (Scan.step (config.vocabulary names)) {} = .ok scan →
      Conserved (config.vocabulary names) (taken.map Token.lexeme)
        (scan.output ++ released scan.waiting) := by
  constructor
  · intro expression hparse
    obtain ⟨scan, hscan, hconclude⟩ := Scan.exists_of_complete (complete_of_parse hparse)
    obtain ⟨_, _, helements⟩ := Scan.content_of_conclude hconclude
    have hconserved := Scan.conserved_of_foldlM hscan
    rw [← helements] at hconserved
    refine ⟨hconserved, ?_⟩
    intro o ho
    obtain ⟨term, hterm, hmeaning⟩ :=
      Vocabulary.exists_term_of_mem (hconserved.perm.mem_iff.1 ho)
    obtain ⟨rfl, hresolved⟩ := resolved_of_meaning? hparse hmeaning
    exact ⟨hterm, hresolved⟩
  · intro taken scan hscan
    exact Scan.conserved_of_foldlM (Scan.foldlM_proceed_of_step hscan)

end Formula
