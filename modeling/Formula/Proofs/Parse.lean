import Formula.Parse
import Formula.Proofs.Scan.Demand

/-!
# Parsing and its limits

A parse checks four limits.  Two of them are on what it is given, the names and the
length of the source, and two on what the scan makes of it.  Within the limits a parse is
the scan without limits, with faults located in the folded source.

## Main results

* `parse_agrees`: a parse is the scan without limits, or it reports a limit that the
  source really exceeds.
* `complete_of_parse`: what a parse accepts has been scanned to its elements.
-/

namespace Formula

open Outcome

/-- The lexemes of a source. -/
def lexemes (source : Text) : List Lexeme := (tokens source).map Token.lexeme

/-- What a folded source with its names needs of each limit: the characters it has, the
greatest number of parentheses open at a time, the lexemes that become elements, and the
names, repetitions counted. -/
def sourceDemand (names : List Text) (source : Text) : Bound → Nat
  | .expressionLength => source.length
  | .nestingDepth => deepest 0 (lexemes source)
  | .outputElements => elementCount (lexemes source)
  | .variableCount => names.length

/-- The vocabulary of a parse. -/
def Config.vocabulary (config : Config) (names : List Text) : Vocabulary :=
  ⟨names.map config.fold, config.limits⟩

/-- A fault of a scan as an error about the source. -/
def ScanFault.located (source : Text) : ScanFault → ExpressionError
  | .parse fault position => .parse fault position source
  | .limit excess => .limit excess

/-- A parse that checks no limit. -/
def parseFreely (source : Text) (names : List Text) (config : Config) :
    Except ExpressionError Expression := do
  let folded := config.fold source
  let elements ← (Scan.complete (config.vocabulary names) (tokens folded)
    folded.length).mapError (ScanFault.located folded)
  return { Expression.ofNames (names.map config.fold) with elements }

theorem demand_start_le (names : List Text) (source : Text) (bound : Bound) :
    ({} : Scan).demand (lexemes source) bound ≤ sourceDemand names source bound := by
  cases bound with
  | outputElements => simp [Scan.demand, Scan.weight, Scan.content, sourceDemand]
  | nestingDepth => exact Nat.le_refl _
  | expressionLength => exact Nat.zero_le _
  | variableCount => exact Nat.zero_le _

/-- Limits that hold of what a parse is given go unnoticed. -/
theorem parse_of_within {source : Text} {names : List Text} {config : Config}
    (hnames : names.length ≤ (config.limits.cap .variableCount).val)
    (hlength : (config.fold source).length ≤ (config.limits.cap .expressionLength).val) :
    parse source names config = (do
      let elements ← (Scan.run (config.vocabulary names) (tokens (config.fold source))
        (config.fold source).length).mapError (ScanFault.located (config.fold source))
      return { Expression.ofNames (names.map config.fold) with elements }) := by
  have hn := (config.limits.check_eq_ok_iff .variableCount names.length).2 hnames
  have hl := (config.limits.check_eq_ok_iff .expressionLength _).2 hlength
  unfold parse scanSource
  rw [hn]
  simp only [mapError_ok, ok_bind, hl]
  rfl

theorem check_eq_error {limits : Limits} {bound : Bound} {count : Nat}
    (h : (limits.cap bound).val < count) :
    limits.check bound count = .error ⟨bound, (limits.cap bound).val, count⟩ := by
  rw [Limits.check, if_pos h]

/-- Too many names are reported before anything is read. -/
theorem parse_of_names_gt {source : Text} {names : List Text} {config : Config}
    (h : (config.limits.cap .variableCount).val < names.length) :
    parse source names config = .error (.limit
      ⟨.variableCount, (config.limits.cap .variableCount).val, names.length⟩) := by
  unfold parse
  rw [check_eq_error h]
  rfl

/-- A source that is too long is reported next. -/
theorem parse_of_length_gt {source : Text} {names : List Text} {config : Config}
    (hnames : names.length ≤ (config.limits.cap .variableCount).val)
    (h : (config.limits.cap .expressionLength).val < (config.fold source).length) :
    parse source names config = .error (.limit
      ⟨.expressionLength, (config.limits.cap .expressionLength).val,
        (config.fold source).length⟩) := by
  unfold parse
  rw [(config.limits.check_eq_ok_iff .variableCount names.length).2 hnames]
  simp only [mapError_ok, ok_bind, check_eq_error h]
  rfl

/-- A parse is the scan without limits, and then its elements are within their limit; or
it reports a limit, and the source needs more than that limit. -/
theorem parse_agrees (source : Text) (names : List Text) (config : Config) :
    (parse source names config = parseFreely source names config ∧
      ∀ expression, parse source names config = .ok expression →
        expression.elements.length ≤ (config.limits.cap .outputElements).val) ∨
    ∃ excess, parse source names config = .error (.limit excess) ∧
      excess.limit = (config.limits.cap excess.bound).val ∧
      excess.limit < sourceDemand names (config.fold source) excess.bound := by
  by_cases hnames : names.length ≤ (config.limits.cap .variableCount).val
  · by_cases hlength : (config.fold source).length ≤ (config.limits.cap .expressionLength).val
    · rw [parse_of_within hnames hlength, parseFreely]
      rcases Scan.run_agrees (config.vocabulary names) (tokens (config.fold source))
        (config.fold source).length with ⟨hsame, helements⟩ | ⟨bound, herror, hdemand⟩
      · refine .inl ⟨by rw [hsame], fun expression hexpression => ?_⟩
        rw [hsame] at hexpression
        obtain ⟨elements, hcomplete, hresult⟩ := exists_of_bind hexpression
        cases hresult
        exact helements elements (eq_ok_of_mapError hcomplete)
      · refine .inr ⟨⟨bound, (config.limits.cap bound).val,
          (config.limits.cap bound).val + 1⟩, ?_, rfl, ?_⟩
        · rw [herror]
          rfl
        · exact Nat.lt_of_lt_of_le hdemand (demand_start_le names _ bound)
    · have hgt := Nat.lt_of_not_le hlength
      exact .inr ⟨_, parse_of_length_gt hnames hgt, rfl, hgt⟩
  · have hgt := Nat.lt_of_not_le hnames
    exact .inr ⟨_, parse_of_names_gt hgt, rfl, hgt⟩

/-- What a parse accepts, the scan without limits accepts with the same elements. -/
theorem complete_of_parse {source : Text} {names : List Text} {config : Config}
    {expression : Expression} (h : parse source names config = .ok expression) :
    Scan.complete (config.vocabulary names) (tokens (config.fold source))
      (config.fold source).length = .ok expression.elements := by
  rcases parse_agrees source names config with ⟨hsame, _⟩ | ⟨excess, herror, _⟩
  · rw [h, parseFreely] at hsame
    obtain ⟨elements, hcomplete, hexpression⟩ := exists_of_bind hsame.symm
    cases hexpression
    exact eq_ok_of_mapError hcomplete
  · rw [h] at herror
    cases herror

/-- A source that needs no more than the limits is parsed as without limits. -/
theorem parse_eq_parseFreely {source : Text} {names : List Text} {config : Config}
    (hwithin : ∀ bound,
      sourceDemand names (config.fold source) bound ≤ (config.limits.cap bound).val) :
    parse source names config = parseFreely source names config := by
  rcases parse_agrees source names config with hsame | ⟨excess, _, hlimit, hdemand⟩
  · exact hsame.1
  · have hle := hwithin excess.bound
    omega

end Formula
