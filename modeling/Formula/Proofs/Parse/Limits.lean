import Formula.Proofs.Scan.Outline

/-!
# Limits are exact

A scan checks its limits as it goes, wherever an element is put out and wherever a
parenthesis opens.  Seen from outside, these checks are one check of the totals: a parse
that would succeed without limits succeeds with them exactly if four numbers are within
them, the names, the length, the greatest depth and the elements in the end.

Two facts carry this.  No element that is out or waiting is ever lost, so a count that is
beyond the limit on the way is beyond it in the end.  And a scan that goes on is within its
limit on depth at every token, so the greatest depth is.

## Main results

* `Scan.length_of_complete`: a source has as many elements as lexemes that do not group.
* `Scan.deepest_le_of_run`: what is accepted never went deeper than the limit.
* `parse_limits`: what limits do to a parse.
-/

namespace Formula

open Outcome

namespace Scan

variable {vocabulary : Vocabulary} {scan scan' : Scan} {source : List Token} {length : Nat}
  {elements : List Element}

/-! ## Elements in the end -/

/-- Tokens add their elements to those that are out or waiting. -/
theorem weight_foldlM (h : source.foldlM (proceed vocabulary) scan = .ok scan') :
    scan'.weight = scan.weight + elementCount (source.map Token.lexeme) := by
  refine foldlM_proceed_induction
    (fun scan later => scan'.weight = scan.weight + elementCount later) h rfl ?_
  intro scan next token m later hread hadvance hlater
  rw [hlater, weight_advance hadvance, elementCount_cons, hread.isGrouping_eq]
  omega

/-- A source has as many elements as it has lexemes that do not group. -/
theorem length_of_complete (h : complete vocabulary source length = .ok elements) :
    elements.length = elementCount (source.map Token.lexeme) := by
  obtain ⟨scan, hscan, hconclude⟩ := exists_of_complete h
  obtain ⟨_, _, rfl⟩ := content_of_conclude hconclude
  have hweight : scan.weight = 0 + elementCount (source.map Token.lexeme) :=
    weight_foldlM hscan
  rwa [Nat.zero_add] at hweight

/-! ## Depth on the way -/

/-- A scan that takes tokens with its limits stays within them. -/
theorem deepest_le_of_foldlM (hwithin : scan.Within vocabulary.limits)
    (h : source.foldlM (step vocabulary) scan = .ok scan') :
    deepest scan.opens.length (source.map Token.lexeme) ≤
      (vocabulary.limits.cap .nestingDepth).val := by
  induction source generalizing scan with
  | nil => exact hwithin.opens
  | cons token source ih =>
      rw [List.foldlM_cons, step_eq] at h
      cases hread : scan.expectation.read vocabulary token.lexeme with
      | error fault =>
          rw [hread] at h
          cases h
      | ok m =>
          rw [hread] at h
          obtain ⟨next, hnext, hrest⟩ := exists_of_bind h
          have hmove : scan.move vocabulary.limits token.position m = .ok next := hnext
          rcases move_agrees hwithin token.position m with
            ⟨hsame, hnext⟩ | ⟨bound, herror, _⟩
          · rw [hmove] at hsame
            have hdeep := ih (hnext next hsame.symm) hrest
            rw [length_opens_advance hsame.symm,
              ← (Expectation.reads_of_read hread).opensAfter_eq] at hdeep
            exact Nat.max_le.2 ⟨hwithin.opens, hdeep⟩
          · rw [hmove] at herror
            cases herror

/-- What is accepted never went deeper than the limit. -/
theorem deepest_le_of_run (h : run vocabulary source length = .ok elements) :
    deepest 0 (source.map Token.lexeme) ≤ (vocabulary.limits.cap .nestingDepth).val := by
  obtain ⟨scan, hscan, _⟩ := exists_of_bind h
  exact deepest_le_of_foldlM (within_start vocabulary.limits) hscan

/-! ## What a scan reports of its limits -/

/-- Without limits, only the source can be at fault. -/
theorem fault_of_complete {fault : ScanFault}
    (h : complete vocabulary source length = .error fault) :
    ∃ cause position, fault = .parse cause position := by
  have houtline := outline_complete vocabulary source length
  rw [h] at houtline
  exact Outline.fault_of_run houtline

/-- A scan stops at the first count beyond its limit on depth or on elements. -/
theorem excess_of_run {excess : LimitExceeded}
    (h : run vocabulary source length = .error (.limit excess)) :
    ∃ bound, (bound = .nestingDepth ∨ bound = .outputElements) ∧
      ScanFault.limit excess = vocabulary.limits.excess bound := by
  rcases run_agrees vocabulary source length with ⟨hsame, _⟩ | ⟨bound, herror, hdemand⟩
  · rw [h] at hsame
    obtain ⟨cause, position, hparse⟩ := fault_of_complete hsame.symm
    cases hparse
  · rw [h] at herror
    refine ⟨bound, ?_, Except.error.inj herror⟩
    cases bound with
    | nestingDepth => exact .inl rfl
    | outputElements => exact .inr rfl
    | expressionLength => exact absurd hdemand (Nat.not_lt_zero _)
    | variableCount => exact absurd hdemand (Nat.not_lt_zero _)

end Scan

/-! ## What a parse reports of its limits -/

variable {source : Text} {names : List Text} {config : Config}

/-- Without limits, configurations with the same folding give the same parse. -/
theorem parseFreely_congr {other : Config} (hfold : other.caseFold = config.caseFold) :
    parseFreely source names other = parseFreely source names config := by
  have hfolds : other.fold = config.fold := by
    funext text
    rw [Config.fold, Config.fold, hfold]
  have hvocabulary : Scan.complete (other.vocabulary names) =
      Scan.complete (config.vocabulary names) := by
    rw [Config.vocabulary, Config.vocabulary, hfolds]
    rfl
  rw [parseFreely, parseFreely, hfolds, hvocabulary]

/-- Once the names and the length are within their limits, a parse reports a limit if the
scan does. -/
theorem run_of_parse_limit {excess : LimitExceeded}
    (hnames : names.length ≤ (config.limits.cap .variableCount).val)
    (hlength : (config.fold source).length ≤ (config.limits.cap .expressionLength).val)
    (h : parse source names config = .error (.limit excess)) :
    Scan.run (config.vocabulary names) (tokens (config.fold source))
      (config.fold source).length = .error (.limit excess) := by
  rw [parse_of_within hnames hlength] at h
  cases hrun : Scan.run (config.vocabulary names) (tokens (config.fold source))
    (config.fold source).length with
  | ok elements =>
      rw [hrun] at h
      cases h
  | error fault =>
      rw [hrun] at h
      cases fault with
      | parse cause position => cases h
      | limit excess' =>
          cases h
          rfl

/-- The count that is reported with a limit: the names and the length are counted as a
whole, depth and elements up to the first that is too many. -/
def reportedCount (names : List Text) (source : Text) (limit : Nat) : Bound → Nat
  | .variableCount => names.length
  | .expressionLength => source.length
  | .nestingDepth | .outputElements => limit + 1

/-- A limit is reported as it is, and with its count. -/
theorem excess_of_parse {excess : LimitExceeded}
    (h : parse source names config = .error (.limit excess)) :
    excess.limit = (config.limits.cap excess.bound).val ∧
      excess.actual = reportedCount names (config.fold source) excess.limit excess.bound := by
  by_cases hnames : names.length ≤ (config.limits.cap .variableCount).val
  · by_cases hlength : (config.fold source).length ≤ (config.limits.cap .expressionLength).val
    · obtain ⟨bound, hbound, hexcess⟩ :=
        Scan.excess_of_run (run_of_parse_limit hnames hlength h)
      cases hexcess
      rcases hbound with rfl | rfl
      · exact ⟨rfl, rfl⟩
      · exact ⟨rfl, rfl⟩
    · rw [parse_of_length_gt hnames (Nat.lt_of_not_le hlength)] at h
      cases h
      exact ⟨rfl, rfl⟩
  · rw [parse_of_names_gt (Nat.lt_of_not_le hnames)] at h
    cases h
    exact ⟨rfl, rfl⟩

/-! ## Which parses succeed -/

/-- The four totals of a parse that gives some elements are within the limits. -/
structure Limits.Admit (limits : Limits) (names : List Text) (source : Text)
    (elements : List Element) : Prop where
  names : names.length ≤ (limits.cap .variableCount).val
  length : source.length ≤ (limits.cap .expressionLength).val
  depth : deepest 0 (lexemes source) ≤ (limits.cap .nestingDepth).val
  elements : elements.length ≤ (limits.cap .outputElements).val

/-- A source that is accepted without limits needs of them what it ends with. -/
theorem sourceDemand_le_cap {expression : Expression}
    (hfree : parseFreely source names config = .ok expression)
    (hadmits : config.limits.Admit names (config.fold source) expression.elements)
    (bound : Bound) :
    sourceDemand names (config.fold source) bound ≤ (config.limits.cap bound).val := by
  obtain ⟨elements, hcomplete, hexpression⟩ := exists_of_bind hfree
  cases hexpression
  have hcount := Scan.length_of_complete (eq_ok_of_mapError hcomplete)
  cases bound with
  | expressionLength => exact hadmits.length
  | nestingDepth => exact hadmits.depth
  | outputElements =>
      show elementCount ((tokens (config.fold source)).map Token.lexeme) ≤ _
      rw [← hcount]
      exact hadmits.elements
  | variableCount => exact hadmits.names

/-- A parse that succeeds has its totals within the limits. -/
theorem admit_of_parse {expression : Expression}
    (h : parse source names config = .ok expression) :
    config.limits.Admit names (config.fold source) expression.elements := by
  by_cases hnames : names.length ≤ (config.limits.cap .variableCount).val
  · by_cases hlength : (config.fold source).length ≤ (config.limits.cap .expressionLength).val
    · rcases parse_agrees source names config with ⟨_, helements⟩ | ⟨excess, herror, _⟩
      · have hrun := h
        rw [parse_of_within hnames hlength] at hrun
        obtain ⟨elements, hrun, _⟩ := exists_of_bind hrun
        exact ⟨hnames, hlength, Scan.deepest_le_of_run (eq_ok_of_mapError hrun),
          helements expression h⟩
      · rw [h] at herror
        cases herror
    · rw [parse_of_length_gt hnames (Nat.lt_of_not_le hlength)] at h
      cases h
  · rw [parse_of_names_gt (Nat.lt_of_not_le hnames)] at h
    cases h

/-- A parse succeeds exactly if it would without limits, and its totals are within them. -/
theorem parse_eq_ok_iff {expression : Expression} :
    parse source names config = .ok expression ↔
      parseFreely source names config = .ok expression ∧
        config.limits.Admit names (config.fold source) expression.elements := by
  constructor
  · intro h
    refine ⟨?_, admit_of_parse h⟩
    rcases parse_agrees source names config with ⟨hsame, _⟩ | ⟨excess, herror, _⟩
    · rw [← hsame, h]
    · rw [h] at herror
      cases herror
  · rintro ⟨hfree, hadmits⟩
    rw [parse_eq_parseFreely (sourceDemand_le_cap hfree hadmits), hfree]

/-- Higher limits admit more. -/
theorem Limits.Admit.mono {limits larger : Limits} {elements : List Element}
    (hlarger : ∀ bound, (limits.cap bound).val ≤ (larger.cap bound).val)
    (h : limits.Admit names source elements) : larger.Admit names source elements :=
  ⟨Nat.le_trans h.names (hlarger _), Nat.le_trans h.length (hlarger _),
    Nat.le_trans h.depth (hlarger _), Nat.le_trans h.elements (hlarger _)⟩

/-- **What limits do.**  Let two configurations differ in their limits only, and let the
second report none.  The first then gives what the second gives, or reports a limit.  If
the second succeeds, so does the first, exactly if the four totals are within its limits.
A limit is reported with the count that is beyond it, of names before all else and of
characters before any token is looked at.  Higher limits keep every success. -/
theorem parse_limits (source : Text) (names : List Text) (config free : Config)
    (hfold : free.caseFold = config.caseFold)
    (hfree : ∀ excess, parse source names free ≠ .error (.limit excess)) :
    (parse source names config = parse source names free ∨
      ∃ excess, parse source names config = .error (.limit excess)) ∧
    (∀ expression, parse source names free = .ok expression →
      ((∃ expression', parse source names config = .ok expression') ↔
        config.limits.Admit names (config.fold source) expression.elements)) ∧
    (∀ excess, parse source names config = .error (.limit excess) →
      excess.limit = (config.limits.cap excess.bound).val ∧
      excess.actual = reportedCount names (config.fold source) excess.limit excess.bound) ∧
    ((config.limits.cap .variableCount).val < names.length →
      parse source names config = .error (.limit
        ⟨.variableCount, (config.limits.cap .variableCount).val, names.length⟩)) ∧
    (names.length ≤ (config.limits.cap .variableCount).val →
      (config.limits.cap .expressionLength).val < (config.fold source).length →
      parse source names config = .error (.limit
        ⟨.expressionLength, (config.limits.cap .expressionLength).val,
          (config.fold source).length⟩)) ∧
    (∀ larger : Config, larger.caseFold = config.caseFold →
      (∀ bound, (config.limits.cap bound).val ≤ (larger.limits.cap bound).val) →
      ∀ expression, parse source names config = .ok expression →
        parse source names larger = .ok expression) := by
  have hfreely : parse source names free = parseFreely source names config := by
    rcases parse_agrees source names free with ⟨hsame, _⟩ | ⟨excess, herror, _⟩
    · rw [hsame, parseFreely_congr hfold]
    · exact absurd herror (hfree excess)
  refine ⟨?_, ?_, fun excess h => excess_of_parse h, parse_of_names_gt, parse_of_length_gt, ?_⟩
  · rw [hfreely]
    rcases parse_agrees source names config with ⟨hsame, _⟩ | ⟨excess, herror, _⟩
    · exact .inl hsame
    · exact .inr ⟨excess, herror⟩
  · intro expression hexpression
    rw [hfreely] at hexpression
    constructor
    · rintro ⟨expression', h⟩
      obtain ⟨hfree', hadmits⟩ := parse_eq_ok_iff.1 h
      rw [hexpression] at hfree'
      cases hfree'
      exact hadmits
    · intro hadmits
      exact ⟨expression, parse_eq_ok_iff.2 ⟨hexpression, hadmits⟩⟩
  · intro larger hcase hlarger expression h
    obtain ⟨hfree', hadmits⟩ := parse_eq_ok_iff.1 h
    have hfolds : larger.fold source = config.fold source := by
      rw [Config.fold, Config.fold, hcase]
    refine parse_eq_ok_iff.2 ⟨?_, ?_⟩
    · rw [parseFreely_congr hcase, hfree']
    · rw [hfolds]
      exact hadmits.mono hlarger

/-- Two parentheses are open at a time where one is admitted: the parse that succeeds
without the limit reports it. -/
theorem parse_limits_depth :
    let tight : Config := { expressionLimits := some { nestingDepth := ⟨1, Nat.one_pos⟩ } }
    (∀ excess, parse "((x))".toList [['x']] {} ≠ .error (.limit excess)) ∧
      ∃ excess, parse "((x))".toList [['x']] tight = .error (.limit excess) ∧
        excess.limit = (tight.limits.cap excess.bound).val ∧
        excess.actual = reportedCount [['x']] (tight.fold "((x))".toList) excess.limit
          excess.bound := by
  intro tight
  have hparse : parse "((x))".toList [['x']] {} = .ok
      { Expression.ofNames [['x']] with elements := [.operand (.variable ['x'])] } := rfl
  have hfree : ∀ excess, parse "((x))".toList [['x']] {} ≠ .error (.limit excess) := by
    intro excess h
    rw [hparse] at h
    cases h
  obtain ⟨hsame, hadmits, hcount, _⟩ := parse_limits "((x))".toList [['x']] tight {} rfl hfree
  refine ⟨hfree, ?_⟩
  rcases hsame with hsame | ⟨excess, hexcess⟩
  · have hdepth := ((hadmits _ hparse).1 ⟨_, hsame.trans hparse⟩).depth
    exact absurd hdepth (by decide +kernel)
  · exact ⟨excess, hexcess, hcount excess hexcess⟩

end Formula
