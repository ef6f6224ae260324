import Formula.Proofs.Scan.Refusal

/-!
# Positions are only names

A scan compares no positions and computes with none.  It keeps those of open parentheses, and
reports them.  So tokens that stand elsewhere lead to the same elements, or to the same fault
where its token then stands.

In particular the tokens of a source may be numbered: what a scan makes of a source is known
from its lexemes, up to where they stand.

## Main results

* `Scan.advance_relocate`: a move does the same with other positions.
* `Scan.complete_relocate`: so does a scan without limits.
* `Scan.complete_tokens`: what becomes of the tokens of a source, from its lexemes.
-/

namespace Formula

open Outcome

/-- The token at another position. -/
def Token.relocate (place : Nat → Nat) (token : Token) : Token :=
  { token with position := place token.position }

/-- The scan with open positions elsewhere. -/
def Scan.relocate (place : Nat → Nat) (scan : Scan) : Scan :=
  { scan with opens := scan.opens.map place }

/-- The fault at another position. -/
def ScanFault.relocate (place : Nat → Nat) : ScanFault → ScanFault
  | .parse fault position => .parse fault (place position)
  | .limit excess => .limit excess

namespace Scan

variable {place : Nat → Nat}

/-- **One move.**  With other positions a move does the same. -/
theorem advance_relocate (scan : Scan) (position : Nat) (m : Move) :
    (scan.relocate place).advance (place position) m =
      ((scan.advance position m).map (relocate place)).mapError (ScanFault.relocate place) := by
  cases m with
  | right =>
      rcases Waiting.stack_cases scan.waiting with hclosed | ⟨inside, outside, hw, hin⟩
      · have hclosed' : ∀ entry ∈ (scan.relocate place).waiting, entry.isInside = true := hclosed
        rw [advance_right_of_closed hclosed, advance_right_of_closed hclosed']
        rfl
      · have hw' : (scan.relocate place).waiting = inside ++ .left :: outside := hw
        rw [advance_right hw hin, advance_right hw' hin]
        show Except.ok _ = Except.ok _
        simp [relocate, drain, expect]
  | comma =>
      rcases Waiting.stack_cases scan.waiting with hclosed | ⟨inside, outside, hw, hin⟩
      · have hclosed' : ∀ entry ∈ (scan.relocate place).waiting, entry.isInside = true := hclosed
        rw [advance_comma_of_closed hclosed, advance_comma_of_closed hclosed']
        rfl
      · have hw' : (scan.relocate place).waiting = inside ++ .left :: outside := hw
        rw [advance_comma hw hin, advance_comma hw' hin]
        rfl
  | operand o => rfl
  | function name op => rfl
  | unary op => rfl
  | binary op => rfl
  | left => rfl

theorem proceed_relocate (vocabulary : Vocabulary) (scan : Scan) (token : Token) :
    (scan.relocate place).proceed vocabulary (token.relocate place) =
      ((scan.proceed vocabulary token).map (relocate place)).mapError
        (ScanFault.relocate place) := by
  have hread : (scan.relocate place).expectation.read vocabulary (token.relocate place).lexeme =
      scan.expectation.read vocabulary token.lexeme := rfl
  rw [proceed, proceed, hread]
  cases scan.expectation.read vocabulary token.lexeme with
  | error fault => rfl
  | ok m => exact advance_relocate scan token.position m

theorem conclude_relocate (scan : Scan) (length : Nat) :
    (scan.relocate place).conclude (place length) =
      (scan.conclude length).mapError (ScanFault.relocate place) := by
  rcases Expectation.openParen_cases scan.expectation with hopen | ⟨function, hfunction⟩
  · have hopen' : (scan.relocate place).expectation.isOpenParen = false := hopen
    rcases Waiting.stack_cases scan.waiting with hclosed | ⟨inside, outside, hw, hin⟩
    · have hclosed' : ∀ entry ∈ (scan.relocate place).waiting, entry.isInside = true := hclosed
      rw [conclude_of_closed hopen hclosed, conclude_of_closed hopen' hclosed']
      rfl
    · have hw' : (scan.relocate place).waiting = inside ++ .left :: outside := hw
      rw [conclude_of_split hopen hw hin, conclude_of_split hopen' hw' hin]
      show Except.error (ScanFault.parse _ ((scan.opens.map place).headD (place length))) = _
      cases scan.opens <;> rfl
  · have hfunction' : (scan.relocate place).expectation = .openParen function := hfunction
    rw [conclude_of_openParen hfunction, conclude_of_openParen hfunction']
    rfl

/-- **A source.**  Tokens that stand elsewhere are scanned to the same elements, or the same
fault is found where they stand. -/
theorem complete_relocate (vocabulary : Vocabulary) (source : List Token) (length : Nat) :
    complete vocabulary (source.map (Token.relocate place)) (place length) =
      (complete vocabulary source length).mapError (ScanFault.relocate place) := by
  have hfold : (source.map (Token.relocate place)).foldlM (proceed vocabulary) {} =
      ((source.foldlM (proceed vocabulary) {}).map (relocate place)).mapError
        (ScanFault.relocate place) :=
    foldlM_image (proceed_relocate vocabulary) {}
  rw [complete, complete, hfold]
  cases source.foldlM (proceed vocabulary) {} with
  | error fault => rfl
  | ok scan => exact conclude_relocate scan length

end Scan

/-! ## Numbers for positions -/

/-- The lexemes of a row as tokens, each at its number. -/
def numbered (row : List Lexeme) : List Token :=
  row.zipIdx.map fun entry => ⟨entry.1, entry.2⟩

/-- Where the token with a number stands in a source.  Behind the last token is the end. -/
def place (source : Text) (number : Nat) : Nat :=
  ((tokens source)[number]?.map Token.position).getD source.length

theorem place_length (source : Text) : place source (lexemes source).length = source.length := by
  have hnone : (tokens source)[(lexemes source).length]? = none := by simp [lexemes]
  rw [place, hnone]
  rfl

/-- The tokens of a source are its lexemes, each where it stands. -/
theorem tokens_eq_map_numbered (source : Text) :
    tokens source = (numbered (lexemes source)).map (Token.relocate (place source)) := by
  apply List.ext_getElem?
  intro number
  cases htoken : (tokens source)[number]? with
  | none => simp [numbered, lexemes, htoken]
  | some token => simp [numbered, lexemes, htoken, Token.relocate, place]

/-- What becomes of the tokens of a source is known from its lexemes, up to where they
stand. -/
theorem Scan.complete_tokens (vocabulary : Vocabulary) (source : Text) :
    complete vocabulary (tokens source) source.length =
      (complete vocabulary (numbered (lexemes source)) (lexemes source).length).mapError
        (ScanFault.relocate (place source)) := by
  rw [← complete_relocate, ← tokens_eq_map_numbered, place_length]

/-- A fault is found at one of the lexemes, or behind the last. -/
theorem exists_of_complete_numbered_error {vocabulary : Vocabulary} {row : List Lexeme}
    {fault : ScanFault}
    (h : Scan.complete vocabulary (numbered row) row.length = .error fault) :
    ∃ cause number, fault = .parse cause number ∧ number ≤ row.length := by
  have houtline := Scan.outline_complete vocabulary (numbered row) row.length
  rw [h] at houtline
  obtain ⟨cause, number, rfl⟩ := Outline.fault_of_run houtline
  refine ⟨cause, number, rfl, ?_⟩
  rcases Outline.refused_of_run houtline with rfl | ⟨before, token, after, hrow, rfl, _⟩
  · exact Nat.le_refl _
  · have hmem : token ∈ numbered row := by simp [hrow]
    obtain ⟨entry, hentry, rfl⟩ := List.mem_map.1 hmem
    have hlt : entry.2 < 0 + row.length := (List.mem_zipIdx hentry).2.1
    rw [Nat.zero_add] at hlt
    exact hlt.le

end Formula
