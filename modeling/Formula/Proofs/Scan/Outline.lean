import Formula.Scan.Outline
import Formula.Proofs.Language
import Formula.Proofs.Parse

/-!
# The outline decides

A scan finds most faults while it takes its stack down.  Its outline has no stack: it
knows what is expected and where parentheses are open, and nothing else.  Both read the
same moves, and they stay in step because the open parentheses on the stack are as many
as the open positions.  So the outline alone decides which sources are accepted, and
which fault is reported of another, and where.

## Main results

* `Outline.scanned_of_run`: the faults that an outline reports.
* `Scan.outline_advance`: a move of the scan is a move of its outline.
* `Scan.outline_complete`: a scan without limits ends as its outline does.
* `parse_outline`: what any parse reports.
-/

namespace Formula

open Outcome

/-! ## Faults that a scan finds -/

/-- `cause.Scanned` says that a fault is one of those that a scan finds in a source. -/
inductive ParseFault.Scanned : ParseFault → Prop where
  | unrecognized (term : Text) : Scanned (.unrecognized term)
  | missingLeft (function : Text) : Scanned (.missingLeft function)
  | unmatchedRight : Scanned .unmatchedRight
  | unmatchedComma : Scanned .unmatchedComma
  | unmatchedLeft : Scanned .unmatchedLeft

theorem Move.scanned_of_ofOperator {expectation : Expectation} {c : Char} {cause : ParseFault}
    (h : ofOperator expectation c = .error cause) : cause.Scanned := by
  unfold ofOperator at h
  split at h <;> split at h <;> cases h <;> exact .unrecognized [c]

/-- A lexeme that is not taken means nothing, or stands where a parenthesis has to. -/
theorem Expectation.scanned_of_read {vocabulary : Vocabulary} {expectation : Expectation}
    {lexeme : Lexeme} {cause : ParseFault}
    (h : expectation.read vocabulary lexeme = .error cause) : cause.Scanned := by
  rcases openParen_cases expectation with hopen | ⟨function, rfl⟩
  · cases lexeme with
    | term term =>
        rw [read_term hopen, Move.ofTerm] at h
        split at h <;> cases h
        exact .unrecognized term
    | symbol c =>
        rw [read_symbol hopen, Move.ofSymbol] at h
        cases hgrouping : Symbol.grouping? c with
        | some grouping =>
            rw [hgrouping] at h
            cases grouping <;> cases h
        | none =>
            rw [hgrouping] at h
            exact Move.scanned_of_ofOperator h
  · rw [read] at h
    split at h <;> cases h
    exact .missingLeft function

/-! ## Moves of an outline -/

namespace Outline

/-- Carries a move out. -/
def advance (outline : Outline) (position : Nat) : Move → Except ScanFault Outline
  | .operand _ => .ok { outline with expectation := .operator }
  | .function name _ => .ok { outline with expectation := .openParen name }
  | .unary _ => .ok outline
  | .binary _ => .ok { outline with expectation := .operand }
  | .left => .ok ⟨.operand, position :: outline.opens⟩
  | .right =>
    match outline.opens with
    | [] => .error (.parse .unmatchedRight position)
    | _ :: opens => .ok ⟨.operator, opens⟩
  | .comma =>
    match outline.opens with
    | [] => .error (.parse .unmatchedComma position)
    | opens => .ok ⟨.operand, opens⟩

/-- The names of constants and functions that are written out are those of the tables. -/
theorem isSome_constant? (name : Text) :
    (Symbol.constant? name).isSome ↔ name ∈ constantNames := by
  rw [Symbol.constant?, List.find?_isSome, show constantNames = Symbol.constants.map Constant.name
    from rfl, List.mem_map]
  simp only [beq_iff_eq]

theorem isSome_function? (name : Text) :
    (Symbol.function? name).isSome ↔ name ∈ functionNames := by
  rw [Symbol.function?, List.lookup_isSome_iff, show functionNames = Symbol.functions.map Prod.fst
    from rfl, List.mem_map]
  simp only [beq_iff_eq, eq_comm (a := name)]

/-- A term that is taken is the one that a scan takes it for. -/
theorem takeTerm_eq (vocabulary : Vocabulary) (outline : Outline) (term : Text)
    (position : Nat) :
    outline.takeTerm vocabulary.names term position =
      match Move.ofTerm vocabulary term with
      | .ok m => outline.advance position m
      | .error fault => .error (.parse fault position) := by
  unfold takeTerm Move.ofTerm Vocabulary.meaning?
  simp only [Number.numeral?_eq, Bool.or_eq_true, List.contains_iff_mem]
  by_cases hshape : isNumberShaped term = true
  · simp only [if_pos hshape]
    cases (spelledNumber term).isFinite <;> rfl
  · simp only [if_neg hshape]
    cases hconstant : Symbol.constant? term with
    | some c =>
        have hmem := (isSome_constant? term).1 (by rw [hconstant]; rfl)
        rw [if_pos (.inl hmem)]
        rfl
    | none =>
        have hmem : term ∉ constantNames := fun hmem => by
          simpa [hconstant] using (isSome_constant? term).2 hmem
        by_cases hname : term ∈ vocabulary.names
        · rw [if_pos (.inr hname), if_pos hname]
          rfl
        · rw [if_neg (not_or.2 ⟨hmem, hname⟩), if_neg hname]
          cases hfunction : Symbol.function? term with
          | some op =>
              rw [if_pos ((isSome_function? term).1 (by rw [hfunction]; rfl))]
              rfl
          | none =>
              rw [if_neg fun hmem => by simpa [hfunction] using (isSome_function? term).2 hmem]
              rfl

/-- The operators that are written out are those of the tables. -/
theorem takeOperator_eq (outline : Outline) (c : Char) (position : Nat) :
    outline.takeOperator c position =
      match Move.ofOperator outline.expectation c with
      | .ok m => outline.advance position m
      | .error fault => .error (.parse fault position) := by
  obtain ⟨expectation, opens⟩ := outline
  have hunary : (Symbol.unary? c).isSome ↔ c ∈ ['-', '!'] := by
    unfold Symbol.unary?
    split <;> simp_all
  have hbinary : (Symbol.binary? c).isSome ↔
      c ∈ ['&', '|', '>', '<', '=', '+', '-', '*', '/', '%', '^'] := by
    unfold Symbol.binary?
    split <;> simp_all
  cases expectation with
  | operand =>
      simp only [takeOperator, Move.ofOperator, ← hunary]
      cases Symbol.unary? c <;> rfl
  | operator =>
      simp only [takeOperator, Move.ofOperator, ← hbinary]
      cases Symbol.binary? c <;> rfl
  | openParen function =>
      simp only [takeOperator, Move.ofOperator, ← hbinary]
      cases Symbol.binary? c <;> rfl

theorem takeSymbol_eq (outline : Outline) (c : Char) (position : Nat) :
    outline.takeSymbol c position =
      match Move.ofSymbol outline.expectation c with
      | .ok m => outline.advance position m
      | .error fault => .error (.parse fault position) := by
  obtain ⟨expectation, opens⟩ := outline
  unfold takeSymbol
  split
  · rfl
  · cases opens <;> rfl
  · cases opens <;> rfl
  · rename_i hleft hright hcomma
    have hnone : Symbol.grouping? c = none := by
      unfold Symbol.grouping?
      split
      · exact (hleft rfl).elim
      · exact (hright rfl).elim
      · exact (hcomma rfl).elim
      · rfl
    rw [Move.ofSymbol, hnone]
    exact takeOperator_eq ⟨expectation, opens⟩ c position

/-- A step of an outline reads the token and carries its move out. -/
theorem step_eq (vocabulary : Vocabulary) (outline : Outline) (token : Token) :
    outline.step vocabulary.names token =
      match outline.expectation.read vocabulary token.lexeme with
      | .ok m => outline.advance token.position m
      | .error fault => .error (.parse fault token.position) := by
  obtain ⟨expectation, opens⟩ := outline
  obtain ⟨lexeme, position⟩ := token
  cases expectation with
  | openParen function =>
      by_cases hleft : lexeme = .symbol '('
      · subst hleft
        rfl
      · have hread : Expectation.read vocabulary (.openParen function) lexeme =
            .error (.missingLeft function) := if_neg hleft
        rw [hread, step]
        split
        · rename_i _ hlexeme
          exact absurd hlexeme hleft
        · rename_i hexpectation _
          cases hexpectation
          rfl
        · rename_i hnot
          exact (hnot function rfl).elim
        · rename_i hnot
          exact (hnot function rfl).elim
  | operand =>
      cases lexeme with
      | term term => exact takeTerm_eq vocabulary _ term position
      | symbol c => exact takeSymbol_eq _ c position
  | operator =>
      cases lexeme with
      | term term => exact takeTerm_eq vocabulary _ term position
      | symbol c => exact takeSymbol_eq _ c position

theorem finish_of_not_openParen {outline : Outline}
    (hopen : outline.expectation.isOpenParen = false) (length : Nat) :
    outline.finish length =
      match outline.opens with
      | [] => .ok ()
      | innermost :: _ => .error (.parse .unmatchedLeft innermost) := by
  obtain ⟨expectation, opens⟩ := outline
  cases expectation with
  | openParen function => cases hopen
  | operand => cases opens <;> rfl
  | operator => cases opens <;> rfl

/-! ## An outline has no limits -/

theorem fault_of_advance {outline : Outline} {position : Nat} {m : Move}
    {fault : ScanFault} (h : outline.advance position m = .error fault) :
    ∃ cause : ParseFault, cause.Scanned ∧ fault = .parse cause position := by
  cases m with
  | right =>
      cases hopens : outline.opens with
      | nil =>
          rw [advance, hopens] at h
          cases h
          exact ⟨_, .unmatchedRight, rfl⟩
      | cons innermost opens =>
          rw [advance, hopens] at h
          cases h
  | comma =>
      cases hopens : outline.opens with
      | nil =>
          rw [advance, hopens] at h
          cases h
          exact ⟨_, .unmatchedComma, rfl⟩
      | cons innermost opens =>
          rw [advance, hopens] at h
          cases h
  | _ => cases h

theorem fault_of_step {vocabulary : Vocabulary} {token : Token} {outline : Outline}
    {fault : ScanFault} (h : outline.step vocabulary.names token = .error fault) :
    ∃ cause : ParseFault, cause.Scanned ∧ fault = .parse cause token.position := by
  rw [step_eq] at h
  cases hread : outline.expectation.read vocabulary token.lexeme with
  | error cause =>
      rw [hread] at h
      cases h
      exact ⟨cause, Expectation.scanned_of_read hread, rfl⟩
  | ok m =>
      rw [hread] at h
      exact fault_of_advance h

theorem fault_of_finish {outline : Outline} {length : Nat} {fault : ScanFault}
    (h : outline.finish length = .error fault) :
    ∃ (cause : ParseFault) (position : Nat), cause.Scanned ∧ fault = .parse cause position := by
  rcases Expectation.openParen_cases outline.expectation with hopen | ⟨function, hexpectation⟩
  · rw [finish_of_not_openParen hopen] at h
    cases hopens : outline.opens with
    | nil =>
        rw [hopens] at h
        cases h
    | cons innermost opens =>
        rw [hopens] at h
        cases h
        exact ⟨_, innermost, .unmatchedLeft, rfl⟩
  · rw [finish, hexpectation] at h
    cases h
    exact ⟨_, length, .missingLeft function, rfl⟩

/-- What an outline refuses, it refuses for a fault that a scan can find. -/
theorem scanned_of_run {vocabulary : Vocabulary} {source : List Token} {length : Nat}
    {fault : ScanFault} (h : run vocabulary.names source length = .error fault) :
    ∃ (cause : ParseFault) (position : Nat), cause.Scanned ∧ fault = .parse cause position := by
  rw [run] at h
  cases hfold : source.foldlM (step vocabulary.names) {} with
  | error first =>
      rw [hfold, error_bind] at h
      cases h
      obtain ⟨token, _, outline, hstep⟩ := exists_of_foldlM_error hfold
      obtain ⟨cause, hscanned, rfl⟩ := fault_of_step hstep
      exact ⟨cause, token.position, hscanned, rfl⟩
  | ok outline =>
      rw [hfold, ok_bind] at h
      exact fault_of_finish h

/-- What an outline refuses, it refuses for a fault of the source. -/
theorem fault_of_run {vocabulary : Vocabulary} {source : List Token} {length : Nat}
    {fault : ScanFault} (h : run vocabulary.names source length = .error fault) :
    ∃ cause position, fault = .parse cause position := by
  obtain ⟨cause, position, _, hfault⟩ := scanned_of_run h
  exact ⟨cause, position, hfault⟩

end Outline

namespace Scan

variable {scan scan' : Scan}

/-- A move of a scan is a move of its outline: it is refused by both for the same reason,
or it leads to corresponding states. -/
theorem outline_advance (hmatched : scan.Matched) (position : Nat) (m : Move) :
    scan.outline.advance position m = (scan.advance position m).map outline := by
  cases m with
  | right =>
      rcases closing_cases hmatched with
        ⟨hopens, hclosed⟩ | ⟨innermost, opens, inside, outside, hopens, hw, hin⟩
      · rw [advance_right_of_closed hclosed]
        simp only [Outline.advance, outline, hopens]
        rfl
      · rw [advance_right hw hin]
        simp only [Outline.advance, outline, hopens]
        rfl
  | comma =>
      rcases closing_cases hmatched with
        ⟨hopens, hclosed⟩ | ⟨innermost, opens, inside, outside, hopens, hw, hin⟩
      · rw [advance_comma_of_closed hclosed]
        simp only [Outline.advance, outline, hopens]
        rfl
      · rw [advance_comma hw hin]
        simp only [Outline.advance, outline, hopens]
        rw [← hopens]
        rfl
  | operand o => rfl
  | function name op => rfl
  | unary op => rfl
  | binary op => rfl
  | left => rfl

theorem outline_proceed (hmatched : scan.Matched) (vocabulary : Vocabulary)
    (token : Token) :
    scan.outline.step vocabulary.names token = (scan.proceed vocabulary token).map outline := by
  rw [Outline.step_eq, proceed, outline]
  cases scan.expectation.read vocabulary token.lexeme with
  | error fault => rfl
  | ok m => exact outline_advance hmatched token.position m

/-- Tokens lead a scan and its outline to corresponding states, and leave the parentheses
on the stack matched with the open positions. -/
theorem outline_foldlM (hmatched : scan.Matched) (vocabulary : Vocabulary)
    (source : List Token) :
    source.foldlM (Outline.step vocabulary.names) scan.outline =
        (source.foldlM (proceed vocabulary) scan).map outline ∧
      ∀ scan', source.foldlM (proceed vocabulary) scan = .ok scan' → scan'.Matched := by
  induction source generalizing scan with
  | nil =>
      refine ⟨rfl, fun scan' h => ?_⟩
      cases h
      exact hmatched
  | cons token source ih =>
      rw [List.foldlM_cons, List.foldlM_cons, outline_proceed hmatched]
      cases hnext : scan.proceed vocabulary token with
      | error fault => exact ⟨rfl, fun scan' h => nomatch h⟩
      | ok next =>
          obtain ⟨m, _, hadvance⟩ := reads_of_proceed hnext
          exact ih (matched_advance hmatched hadvance)

/-- Tokens that are taken with limits leave them matched as well. -/
theorem matched_of_foldlM_step {vocabulary : Vocabulary} {source : List Token}
    (h : source.foldlM (step vocabulary) {} = .ok scan) : scan.Matched :=
  have hempty : Matched ({} : Scan) := rfl
  (outline_foldlM hempty vocabulary source).2 scan (foldlM_proceed_of_step h)

/-- The end of a source is the end of its outline. -/
theorem outline_conclude (hmatched : scan.Matched) (length : Nat) :
    scan.outline.finish length = (scan.conclude length).map fun _ => () := by
  rcases Expectation.openParen_cases scan.expectation with hopen | ⟨function, hexpectation⟩
  · rw [Outline.finish_of_not_openParen hopen]
    rcases closing_cases hmatched with
      ⟨hopens, hclosed⟩ | ⟨innermost, opens, inside, outside, hopens, hw, hin⟩
    · rw [conclude_of_closed hopen hclosed, outline, hopens]
      rfl
    · rw [conclude_of_split hopen hw hin, outline, hopens]
      rfl
  · rw [conclude_of_openParen hexpectation, outline, hexpectation]
    rfl

/-- A scan without limits ends as its outline does. -/
theorem outline_complete (vocabulary : Vocabulary) (source : List Token) (length : Nat) :
    Outline.run vocabulary.names source length =
      (complete vocabulary source length).map fun _ => () := by
  have hempty : Matched ({} : Scan) := rfl
  obtain ⟨hfold, hmatched⟩ := outline_foldlM hempty vocabulary source
  rw [Outline.run, complete, show ({} : Outline) = ({} : Scan).outline from rfl, hfold]
  cases hscan : source.foldlM (proceed vocabulary) {} with
  | error fault => rfl
  | ok scan => exact outline_conclude (hmatched scan hscan) length

end Scan

/-- What a parse reports, by the outline over its vocabulary. -/
theorem outlined_of_parse (source : Text) (names : List Text) (config : Config) :
    (∃ excess, parse source names config = .error (.limit excess) ∧
      excess.limit = (config.limits.cap excess.bound).val ∧
      excess.limit < sourceDemand names (config.fold source) excess.bound) ∨
    match Outline.run (config.vocabulary names).names (tokens (config.fold source))
      (config.fold source).length with
    | .ok () => ∃ elements, parse source names config =
        .ok { Expression.ofNames (names.map config.fold) with elements }
    | .error (.parse fault position) => parse source names config =
        .error (.parse fault position (config.fold source))
    | .error (.limit _) => False := by
  rcases parse_agrees source names config with ⟨hsame, _⟩ | hlimit
  · refine .inr ?_
    rw [hsame, parseFreely]
    have houtline := Scan.outline_complete (config.vocabulary names)
      (tokens (config.fold source)) (config.fold source).length
    cases hcomplete : Scan.complete (config.vocabulary names) (tokens (config.fold source))
      (config.fold source).length with
    | ok elements =>
        rw [hcomplete] at houtline
        rw [houtline]
        exact ⟨elements, rfl⟩
    | error fault =>
        rw [hcomplete] at houtline
        obtain ⟨cause, position, rfl⟩ := Outline.fault_of_run houtline
        rw [houtline]
        rfl
  · exact .inl hlimit

/-- **What decides a parse.**  Source and names are folded to lower case unless case matters.
A parse reports a limit that the source exceeds; or it accepts the source if the outline does,
and otherwise reports the fault that the outline finds, at the same place of the folded
source. -/
theorem parse_outline (source : Text) (names : List Text) (config : Config) :
    let fold (text : Text) : Text := if config.caseFold then Text.lower text else text
    (∃ excess, parse source names config = .error (.limit excess) ∧
      excess.limit = (config.limits.cap excess.bound).val ∧
      excess.limit < sourceDemand names (fold source) excess.bound) ∨
    match Outline.run (names.map fold) (tokens (fold source)) (fold source).length with
    | .ok () => ∃ elements, parse source names config =
        .ok { Expression.ofNames (names.map fold) with elements }
    | .error (.parse fault position) => parse source names config =
        .error (.parse fault position (fold source))
    | .error (.limit _) => False :=
  outlined_of_parse source names config

end Formula
