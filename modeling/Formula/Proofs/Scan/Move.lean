import Formula.Scan
import Formula.Proofs.Outcome

/-!
# Moves of a scan

A step of a scan does two things that do not depend on each other.  The token and the
expectation settle what the token is: an operand, a function, an operator, a grouping, or
a fault.  The stack settles what follows from that.  Between the two stands a *move*,
and there are seven of them; whatever is proved of every step of a scan is proved for the
seven moves.

## Main results

* `Expectation.read_eq_ok_iff`: which lexemes ask for which move.
* `Scan.step_eq`: a step reads the token and carries its move out.
-/

namespace Formula

open Outcome

/-- What a token makes a scan do. -/
inductive Move where
  | operand (o : Operand)
  | function (name : Text) (op : Operation)
  | unary (op : UnaryOperation)
  | binary (op : BinaryOperator)
  | left
  | right
  | comma

namespace Move

/-- The move of a term. -/
def ofTerm (vocabulary : Vocabulary) (term : Text) : Except ParseFault Move :=
  match vocabulary.meaning? term with
  | some (.operand o) => .ok (.operand o)
  | some (.function op) => .ok (.function term op)
  | none => .error (.unrecognized term)

/-- The move of an operator.  Where an operand is expected, it is a unary one. -/
def ofOperator (expectation : Expectation) (c : Char) : Except ParseFault Move :=
  match expectation with
  | .operand =>
    match Symbol.unary? c with
    | some op => .ok (.unary op)
    | none => .error (.unrecognized [c])
  | _ =>
    match Symbol.binary? c with
    | some op => .ok (.binary op)
    | none => .error (.unrecognized [c])

/-- The move of a symbol. -/
def ofSymbol (expectation : Expectation) (c : Char) : Except ParseFault Move :=
  match Symbol.grouping? c with
  | some .left => .ok .left
  | some .right => .ok .right
  | some .comma => .ok .comma
  | none => ofOperator expectation c

/-- Whether a move groups: it puts neither an operand nor an operation anywhere. -/
def isGrouping : Move → Bool
  | left | right | comma => true
  | _ => false

/-- The elements that a move adds. -/
def elements : Move → List Element
  | operand o => [.operand o]
  | function _ op => [.operation op]
  | unary op => [.operation (.unary op)]
  | binary op => [.operation (.binary op.operation)]
  | left | right | comma => []

/-- The number of open parentheses behind a move. -/
def opensAfter (opens : Nat) : Move → Nat
  | left => opens + 1
  | right => opens - 1
  | _ => opens

/-- What is expected behind a move. -/
def next (expectation : Expectation) : Move → Expectation
  | operand _ | right => .operator
  | function name _ => .openParen name
  | unary _ => expectation
  | binary _ | left | comma => .operand

end Move

namespace Expectation

/-- Whether nothing but an open parenthesis is accepted. -/
def isOpenParen : Expectation → Bool
  | openParen _ => true
  | _ => false

theorem openParen_cases (expectation : Expectation) :
    expectation.isOpenParen = false ∨ ∃ function, expectation = .openParen function := by
  cases expectation with
  | openParen function => exact .inr ⟨function, rfl⟩
  | operand => exact .inl rfl
  | operator => exact .inl rfl

/-- The move that a lexeme asks for. -/
def read (vocabulary : Vocabulary) : Expectation → Lexeme → Except ParseFault Move
  | openParen function, lexeme =>
      if lexeme = .symbol '(' then .ok .left else .error (.missingLeft function)
  | _, .term term => Move.ofTerm vocabulary term
  | expectation, .symbol c => Move.ofSymbol expectation c

end Expectation

/-- `Reads vocabulary expectation lexeme move` lists the lexemes that ask for a move. -/
inductive Reads (vocabulary : Vocabulary) : Expectation → Lexeme → Move → Prop where
  | operand {expectation : Expectation} {term : Text} {o : Operand} :
    expectation.isOpenParen = false → vocabulary.meaning? term = some (.operand o) →
    Reads vocabulary expectation (.term term) (.operand o)
  | function {expectation : Expectation} {name : Text} {op : Operation} :
    expectation.isOpenParen = false → vocabulary.meaning? name = some (.function op) →
    Reads vocabulary expectation (.term name) (.function name op)
  | unary {c : Char} {op : UnaryOperation} :
    Symbol.unary? c = some op → Reads vocabulary .operand (.symbol c) (.unary op)
  | binary {c : Char} {op : BinaryOperator} :
    Symbol.binary? c = some op → Reads vocabulary .operator (.symbol c) (.binary op)
  | left {expectation : Expectation} : Reads vocabulary expectation (.symbol '(') .left
  | right {expectation : Expectation} :
    expectation.isOpenParen = false → Reads vocabulary expectation (.symbol ')') .right
  | comma {expectation : Expectation} :
    expectation.isOpenParen = false → Reads vocabulary expectation (.symbol ',') .comma

/-! ## Which lexemes ask for which move -/

theorem Symbol.grouping?_eq_none_of_unary {c : Char} {op : UnaryOperation}
    (h : Symbol.unary? c = some op) : Symbol.grouping? c = none := by
  unfold Symbol.unary? at h
  split at h <;> first | rfl | cases h

theorem Symbol.grouping?_eq_none_of_binary {c : Char} {op : BinaryOperator}
    (h : Symbol.binary? c = some op) : Symbol.grouping? c = none := by
  unfold Symbol.binary? at h
  split at h <;> first | rfl | cases h

/-- The character of a grouping. -/
def Grouping.char : Grouping → Char
  | left => '('
  | right => ')'
  | comma => ','

theorem Symbol.eq_char_of_grouping? {c : Char} {grouping : Grouping}
    (h : Symbol.grouping? c = some grouping) : c = grouping.char := by
  unfold Symbol.grouping? at h
  split at h <;> cases h <;> rfl

namespace Expectation

variable {vocabulary : Vocabulary} {expectation : Expectation} {lexeme : Lexeme} {move : Move}

theorem read_term (hopen : expectation.isOpenParen = false) (term : Text) :
    expectation.read vocabulary (.term term) = Move.ofTerm vocabulary term := by
  cases expectation with
  | openParen function => cases hopen
  | operand => rfl
  | operator => rfl

theorem read_symbol (hopen : expectation.isOpenParen = false) (c : Char) :
    expectation.read vocabulary (.symbol c) = Move.ofSymbol expectation c := by
  cases expectation with
  | openParen function => cases hopen
  | operand => rfl
  | operator => rfl

theorem reads_of_ofTerm {term : Text} (hopen : expectation.isOpenParen = false)
    (h : Move.ofTerm vocabulary term = .ok move) :
    Reads vocabulary expectation (.term term) move := by
  unfold Move.ofTerm at h
  split at h
  · rename_i o hmeaning
    cases h
    exact .operand hopen hmeaning
  · rename_i op hmeaning
    cases h
    exact .function hopen hmeaning
  · cases h

theorem reads_of_ofOperator {c : Char} (hopen : expectation.isOpenParen = false)
    (h : Move.ofOperator expectation c = .ok move) :
    Reads vocabulary expectation (.symbol c) move := by
  cases expectation with
  | operand =>
      simp only [Move.ofOperator] at h
      split at h
      · rename_i op hop
        cases h
        exact .unary hop
      · cases h
  | operator =>
      simp only [Move.ofOperator] at h
      split at h
      · rename_i op hop
        cases h
        exact .binary hop
      · cases h
  | openParen function => cases hopen

theorem reads_of_ofSymbol {c : Char} (hopen : expectation.isOpenParen = false)
    (h : Move.ofSymbol expectation c = .ok move) :
    Reads vocabulary expectation (.symbol c) move := by
  unfold Move.ofSymbol at h
  cases hgrouping : Symbol.grouping? c with
  | none =>
      rw [hgrouping] at h
      exact reads_of_ofOperator hopen h
  | some grouping =>
      rw [hgrouping] at h
      have hc := Symbol.eq_char_of_grouping? hgrouping
      subst hc
      cases grouping with
      | left =>
          cases h
          exact .left
      | right =>
          cases h
          exact .right hopen
      | comma =>
          cases h
          exact .comma hopen

theorem reads_of_read (h : expectation.read vocabulary lexeme = .ok move) :
    Reads vocabulary expectation lexeme move := by
  rcases openParen_cases expectation with hopen | ⟨function, rfl⟩
  · cases lexeme with
    | term term => exact reads_of_ofTerm hopen ((read_term hopen term).symm.trans h)
    | symbol c => exact reads_of_ofSymbol hopen ((read_symbol hopen c).symm.trans h)
  · rw [read] at h
    split at h
    · rename_i hleft
      cases h
      subst hleft
      exact .left
    · cases h

theorem read_of_reads (h : Reads vocabulary expectation lexeme move) :
    expectation.read vocabulary lexeme = .ok move := by
  cases h with
  | operand hopen hmeaning => rw [read_term hopen, Move.ofTerm, hmeaning]
  | function hopen hmeaning => rw [read_term hopen, Move.ofTerm, hmeaning]
  | unary hop =>
      rw [read_symbol rfl, Move.ofSymbol, Symbol.grouping?_eq_none_of_unary hop]
      simp only [Move.ofOperator, hop]
  | binary hop =>
      rw [read_symbol rfl, Move.ofSymbol, Symbol.grouping?_eq_none_of_binary hop]
      simp only [Move.ofOperator, hop]
  | left => cases expectation <;> rfl
  | right hopen => rw [read_symbol hopen]; rfl
  | comma hopen => rw [read_symbol hopen]; rfl

/-- What is read is what the list of moves says. -/
theorem read_eq_ok_iff :
    expectation.read vocabulary lexeme = .ok move ↔
      Reads vocabulary expectation lexeme move :=
  ⟨reads_of_read, read_of_reads⟩

end Expectation

/-- Whether a lexeme groups. -/
def Lexeme.isGrouping : Lexeme → Bool
  | .symbol c => (Symbol.grouping? c).isSome
  | .term _ => false

/-- A move groups if its lexeme does. -/
theorem Reads.isGrouping_eq {vocabulary : Vocabulary} {expectation : Expectation}
    {lexeme : Lexeme} {move : Move} (h : Reads vocabulary expectation lexeme move) :
    lexeme.isGrouping = move.isGrouping := by
  cases h with
  | unary hop => rw [Lexeme.isGrouping, Symbol.grouping?_eq_none_of_unary hop]; rfl
  | binary hop => rw [Lexeme.isGrouping, Symbol.grouping?_eq_none_of_binary hop]; rfl
  | _ => rfl

namespace Scan

/-! ## Steps as moves -/

/-- Carries a move out, with the limits checked. -/
def move (limits : Limits) (scan : Scan) (position : Nat) : Move → Except ScanFault Scan
  | .operand o => scan.takeOperand limits o
  | .function name op => .ok (scan.takeFunction name op)
  | .unary op => .ok (scan.push (.applied (.unary op)))
  | .binary op => scan.takeBinary limits op
  | .left => scan.takeLeft limits position
  | .right => scan.takeRight limits position
  | .comma => scan.takeComma limits position

theorem takeTerm_eq (vocabulary : Vocabulary) (scan : Scan) (term : Text) (position : Nat) :
    scan.takeTerm vocabulary term position =
      match Move.ofTerm vocabulary term with
      | .ok m => scan.move vocabulary.limits position m
      | .error fault => .error (.parse fault position) := by
  unfold takeTerm Move.ofTerm
  cases vocabulary.meaning? term with
  | none => rfl
  | some meaning => cases meaning <;> rfl

theorem takeSymbol_eq (limits : Limits) (scan : Scan) (c : Char) (position : Nat) :
    scan.takeSymbol limits c position =
      match Move.ofSymbol scan.expectation c with
      | .ok m => scan.move limits position m
      | .error fault => .error (.parse fault position) := by
  unfold takeSymbol Move.ofSymbol
  cases Symbol.grouping? c with
  | some grouping => cases grouping <;> rfl
  | none =>
      simp only [takeOperator, Move.ofOperator]
      cases scan.expectation with
      | operand => cases Symbol.unary? c <;> rfl
      | operator => cases Symbol.binary? c <;> rfl
      | openParen function => cases Symbol.binary? c <;> rfl

/-- A step reads the token and carries its move out. -/
theorem step_eq (vocabulary : Vocabulary) (scan : Scan) (token : Token) :
    scan.step vocabulary token =
      match scan.expectation.read vocabulary token.lexeme with
      | .ok m => scan.move vocabulary.limits token.position m
      | .error fault => .error (.parse fault token.position) := by
  unfold step missingLeft?
  cases hexpectation : scan.expectation with
  | openParen function =>
      rw [Expectation.read]
      by_cases hleft : token.lexeme = .symbol '('
      · simp only [hleft, ↓reduceIte]
        rfl
      · simp only [hleft, ↓reduceIte]
  | operand =>
      cases token.lexeme with
      | term term => exact takeTerm_eq vocabulary scan term token.position
      | symbol c => simp only [takeSymbol_eq, hexpectation, Expectation.read]
  | operator =>
      cases token.lexeme with
      | term term => exact takeTerm_eq vocabulary scan term token.position
      | symbol c => simp only [takeSymbol_eq, hexpectation, Expectation.read]

end Scan

end Formula
