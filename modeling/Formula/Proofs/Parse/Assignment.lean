import Formula.Parse
import Formula.Proofs.Token.Reading

/-!
# Assignments as they are written

An assignment is written as a target, an equals sign and a remainder.  Blanks may stand
before the target and on both sides of the sign; they belong to none of the three.  The
remainder is anything that begins with neither a blank nor a second equals sign, and it may
be empty.  What is so written is written in one way only: each of its parts ends where the
text cannot go on with it.

Splitting reads two tokens, the target and the sign, and keeps what the cursor has not read.
So it undoes writing; and of a text that is not written so, one of the two tokens is missing
or is another, or a second sign follows, and that token is where the fault is reported.

## Main results

* `WrittenAssignment.text_injective`: an assignment is written in one way only.
* `splitAssignment_text`: what is written as an assignment is split into its parts.
* `splitAssignment_cases`: what is not written so is refused, and where.
* `splitAssignment_outcome`: which texts are split, and what is reported of the others.
-/

namespace Formula

/-- The parts of an assignment in the order in which they are written.  The blanks between
them, spaces and tabs, are parts of their own. -/
structure WrittenAssignment where
  before : Text
  target : Text
  between : Text
  behind : Text
  remainder : Text
  blank_before : ∀ c ∈ before, c = ' ' ∨ c = '\t'
  target_ne_nil : target ≠ []
  term_target : ∀ c ∈ target, c = '.' ∨ Text.isAlphanumeric c = true
  blank_between : ∀ c ∈ between, c = ' ' ∨ c = '\t'
  blank_behind : ∀ c ∈ behind, c = ' ' ∨ c = '\t'
  head_remainder : ∀ c ∈ remainder.head?, c ≠ ' ' ∧ c ≠ '\t' ∧ c ≠ '='

theorem isBlank_iff {c : Char} : isBlank c = true ↔ c = ' ' ∨ c = '\t' := by
  simp [isBlank]

theorem isTermChar_iff {c : Char} :
    isTermChar c = true ↔ c = '.' ∨ Text.isAlphanumeric c = true := by
  simp [isTermChar]

namespace WrittenAssignment

theorem isBlank_before (written : WrittenAssignment) : ∀ c ∈ written.before, isBlank c = true :=
  fun c hc => isBlank_iff.2 (written.blank_before c hc)

theorem isBlank_between (written : WrittenAssignment) :
    ∀ c ∈ written.between, isBlank c = true :=
  fun c hc => isBlank_iff.2 (written.blank_between c hc)

theorem isBlank_behind (written : WrittenAssignment) : ∀ c ∈ written.behind, isBlank c = true :=
  fun c hc => isBlank_iff.2 (written.blank_behind c hc)

theorem isTermChar_target (written : WrittenAssignment) :
    ∀ c ∈ written.target, isTermChar c = true :=
  fun c hc => isTermChar_iff.2 (written.term_target c hc)

/-- No blank is left in front of the remainder. -/
theorem not_isBlank_head (written : WrittenAssignment) {c : Char}
    (hc : c ∈ written.remainder.head?) : isBlank c = false := by
  obtain ⟨hspace, htab, _⟩ := written.head_remainder c hc
  simp [isBlank, hspace, htab]

/-- The text of an assignment. -/
def text (written : WrittenAssignment) : Text :=
  written.before ++ (written.target ++ (written.between ++
    ('=' :: (written.behind ++ written.remainder))))

/-- What follows the target. -/
def afterTarget (written : WrittenAssignment) : Text :=
  written.between ++ ('=' :: (written.behind ++ written.remainder))

/-- The text of an assignment begins with its target. -/
theorem begins_target (written : WrittenAssignment) :
    Begins written.text written.before (.term written.target) written.afterTarget := by
  refine ⟨rfl, written.isBlank_before, ⟨written.target_ne_nil, written.isTermChar_target⟩, ?_⟩
  intro _ c hc
  rw [afterTarget] at hc
  cases hbetween : written.between with
  | nil =>
      rw [hbetween] at hc
      cases hc
      rfl
  | cons d between =>
      rw [hbetween] at hc
      cases hc
      apply isTermChar_of_isBlank
      apply written.isBlank_between
      rw [hbetween]
      exact List.mem_cons_self

theorem proper_sign : (Lexeme.symbol '=').Proper :=
  Symbol.not_isTermChar_of_isKnown rfl

/-- Behind the target comes the sign. -/
theorem begins_sign (written : WrittenAssignment) :
    Begins written.afterTarget written.between (.symbol '=')
      (written.behind ++ written.remainder) := by
  refine ⟨rfl, written.isBlank_between, proper_sign, ?_⟩
  intro hterm
  cases hterm

/-- Behind the blanks that follow the sign comes the remainder. -/
theorem dropWhile_behind (written : WrittenAssignment) :
    (written.behind ++ written.remainder).dropWhile isBlank = written.remainder := by
  rw [List.dropWhile_append_of_pos written.isBlank_behind]
  apply dropWhile_of_head
  intro c hc
  exact written.not_isBlank_head hc

/-- An assignment is written in one way only. -/
theorem text_injective {first second : WrittenAssignment} (h : first.text = second.text) :
    first = second := by
  have htarget := first.begins_target
  rw [h] at htarget
  obtain ⟨hbefore, hlexeme, hafter⟩ := htarget.unique second.begins_target
  have hsign := first.begins_sign
  rw [hafter] at hsign
  obtain ⟨hbetween, _, hrest⟩ := hsign.unique second.begins_sign
  have hremainder : first.remainder = second.remainder := by
    rw [← first.dropWhile_behind, hrest, second.dropWhile_behind]
  have hbehind : first.behind = second.behind := by
    rw [hremainder] at hrest
    exact List.append_cancel_right hrest
  obtain ⟨before, target, between, behind, remainder, _, _, _, _, _, _⟩ := first
  cases hbefore
  cases hlexeme
  cases hbetween
  cases hbehind
  cases hremainder
  rfl

/-- A text that begins with a term, and goes on with one equals sign, is written as an
assignment. -/
theorem exists_of_begins {source before target after between rest : Text}
    (htarget : Begins source before (.term target) after)
    (hsign : Begins after between (.symbol '=') rest)
    (hone : (rest.dropWhile isBlank).head? ≠ some '=') :
    ∃ written : WrittenAssignment, written.text = source ∧ written.target = target ∧
      written.remainder = rest.dropWhile isBlank := by
  have hbefore : ∀ c ∈ before, c = ' ' ∨ c = '\t' :=
    fun c hc => isBlank_iff.1 (htarget.blank c hc)
  have hterm : ∀ c ∈ target, c = '.' ∨ Text.isAlphanumeric c = true :=
    fun c hc => isTermChar_iff.1 (htarget.proper.2 c hc)
  have hbetween : ∀ c ∈ between, c = ' ' ∨ c = '\t' :=
    fun c hc => isBlank_iff.1 (hsign.blank c hc)
  have hbehind : ∀ c ∈ rest.takeWhile isBlank, c = ' ' ∨ c = '\t' :=
    fun c hc => isBlank_iff.1 (List.all_eq_true.1 List.all_takeWhile c hc)
  have hremainder : ∀ c ∈ (rest.dropWhile isBlank).head?, c ≠ ' ' ∧ c ≠ '\t' ∧ c ≠ '=' := by
    intro c hc
    have hblank := head_dropWhile isBlank rest c hc
    refine ⟨?_, ?_, ?_⟩
    · rintro rfl
      cases hblank
    · rintro rfl
      cases hblank
    · rintro rfl
      exact hone hc
  refine ⟨⟨before, target, between, rest.takeWhile isBlank, rest.dropWhile isBlank,
    hbefore, htarget.proper.1, hterm, hbetween, hbehind, hremainder⟩, ?_, rfl, rfl⟩
  show before ++ (target ++ (between ++
    ('=' :: (rest.takeWhile isBlank ++ rest.dropWhile isBlank)))) = source
  rw [List.takeWhile_append_dropWhile, htarget.text_eq, hsign.text_eq]
  rfl

end WrittenAssignment

/-! ## Splitting by what the text begins with -/

section Split

variable {source before after target : Text} {config : Config}

theorem splitAssignment_of_blank (h : ∀ c ∈ source, isBlank c = true) :
    splitAssignment source config = .error (.parse .malformedAssignment 0 source) := by
  have hrest : ∀ c ∈ (Cursor.mk source 0).rest, isBlank c = true := h
  have hread := Cursor.read_of_blank hrest
  rw [splitAssignment, hread]

theorem splitAssignment_of_symbol {c : Char} (h : Begins source before (.symbol c) after) :
    splitAssignment source config =
      .error (.parse .malformedAssignment before.length source) := by
  have hstart : Begins (Cursor.mk source 0).rest before (.symbol c) after := h
  have hread := Cursor.read_of_begins hstart
  rw [splitAssignment, hread]
  show _ = Except.error (ExpressionError.parse _ before.length source)
  simp only [Nat.zero_add]

/-- The cursor behind the target. -/
def behindTarget (source before target : Text) : Cursor :=
  (Cursor.mk source 0).advance (before.length + target.length)

theorem rest_behindTarget (h : Begins source before (.term target) after) :
    (behindTarget source before target).rest = after := by
  have hstart : Begins (Cursor.mk source 0).rest before (.term target) after := h
  exact Cursor.rest_of_begins hstart

theorem splitAssignment_of_term (h : Begins source before (.term target) after) :
    splitAssignment source config =
      match (behindTarget source before target).read with
      | (none, _) => .error (.parse .malformedAssignment
          (behindTarget source before target).skipBlanks.position source)
      | (some ⟨lexeme, position⟩, behindSign) =>
        if lexeme = .symbol '=' ∧ behindSign.rest.head? ≠ some '=' then
          .ok ⟨config.fold target, behindSign.rest⟩
        else .error (.parse .malformedAssignment position source) := by
  have hstart : Begins (Cursor.mk source 0).rest before (.term target) after := h
  have hread := Cursor.read_of_begins hstart
  rw [← Cursor.read_skipBlanks (behindTarget source before target)]
  rw [splitAssignment, hread]
  rfl

theorem splitAssignment_of_end (h : Begins source before (.term target) after)
    (hblank : ∀ c ∈ after, isBlank c = true) :
    splitAssignment source config =
      .error (.parse .malformedAssignment source.length source) := by
  have hrest : ∀ c ∈ (behindTarget source before target).rest, isBlank c = true := by
    rw [rest_behindTarget h]
    exact hblank
  have hall : after.takeWhile isBlank = after := by
    have hsame : (after ++ []).takeWhile isBlank = after ++ ([] : Text).takeWhile isBlank :=
      List.takeWhile_append_of_pos hblank
    simpa using hsame
  have hposition : (behindTarget source before target).skipBlanks.position = source.length := by
    show 0 + (before.length + target.length) +
      ((behindTarget source before target).rest.takeWhile isBlank).length = source.length
    rw [rest_behindTarget h, hall, h.length_eq, Lexeme.text]
    omega
  rw [splitAssignment_of_term h, Cursor.read_of_blank hrest]
  simp only [hposition]

theorem splitAssignment_of_second {between rest : Text} {lexeme : Lexeme}
    (h : Begins source before (.term target) after) (h' : Begins after between lexeme rest) :
    splitAssignment source config =
      if lexeme = .symbol '=' ∧ (rest.dropWhile isBlank).head? ≠ some '=' then
        .ok ⟨config.fold target, rest.dropWhile isBlank⟩
      else .error (.parse .malformedAssignment
        (before.length + target.length + between.length) source) := by
  have hbegins : Begins (behindTarget source before target).rest between lexeme rest := by
    rw [rest_behindTarget h]
    exact h'
  have hrest := Cursor.rest_of_begins hbegins
  rw [splitAssignment_of_term h, Cursor.read_of_begins hbegins]
  simp only [Cursor.rest_skipBlanks, hrest]
  have hposition : (behindTarget source before target).position + between.length =
      before.length + target.length + between.length := by
    show 0 + (before.length + target.length) + between.length = _
    omega
  rw [hposition]

end Split

/-! ## Which texts are split -/

/-- What is written as an assignment is split into its parts. -/
theorem splitAssignment_text (written : WrittenAssignment) (config : Config) :
    splitAssignment written.text config =
      .ok ⟨config.fold written.target, written.remainder⟩ := by
  rw [splitAssignment_of_second written.begins_target written.begins_sign,
    written.dropWhile_behind, if_pos]
  refine ⟨rfl, ?_⟩
  intro hsign
  exact (written.head_remainder '=' hsign).2.2 rfl

/-- Where an assignment is wrong: at the first token if that is no term, else at the second
one, or at the end if there is none. -/
def assignmentFault (source : Text) : Nat :=
  match tokens source with
  | [] => 0
  | ⟨.symbol _, position⟩ :: _ => position
  | [_] => source.length
  | _ :: second :: _ => second.position

/-- A text is written as an assignment, or a fault is reported of it. -/
theorem splitAssignment_cases (source : Text) (config : Config) :
    (∃ written : WrittenAssignment, written.text = source) ∨
      splitAssignment source config =
        .error (.parse .malformedAssignment (assignmentFault source) source) := by
  rcases blank_or_begins source with hblank | ⟨before, lexeme, after, hfirst⟩
  · right
    have hnone : tokens source = [] := tokensFrom_of_blank hblank 0
    rw [splitAssignment_of_blank hblank, assignmentFault, hnone]
  · have htokens : tokens source = ⟨lexeme, 0 + before.length⟩ ::
        tokensFrom (0 + before.length + lexeme.text.length) after := hfirst.tokensFrom_eq 0
    cases lexeme with
    | symbol c =>
        right
        rw [splitAssignment_of_symbol hfirst, assignmentFault, htokens]
        simp only [Nat.zero_add]
    | term target =>
        rcases blank_or_begins after with hblank | ⟨between, second, rest, hsecond⟩
        · right
          rw [tokensFrom_of_blank hblank] at htokens
          rw [splitAssignment_of_end hfirst hblank, assignmentFault, htokens]
        · rw [hsecond.tokensFrom_eq] at htokens
          by_cases hsign : second = .symbol '=' ∧ (rest.dropWhile isBlank).head? ≠ some '='
          · left
            obtain ⟨rfl, hone⟩ := hsign
            obtain ⟨written, htext, _⟩ := WrittenAssignment.exists_of_begins hfirst hsecond hone
            exact ⟨written, htext⟩
          · right
            rw [splitAssignment_of_second hfirst hsecond, if_neg hsign, assignmentFault, htokens]
            simp only [Lexeme.text, Nat.zero_add]

/-- **Splitting an assignment.**  Whatever is written as an assignment is split into its
target, in lower case unless case matters, and its remainder, as it stands; and there is one
way only to write it.  A text is split exactly if it is written so.  Of every other text the
fault is reported at the first token if that is no term, else at the second one, and at the
beginning or the end if there is no such token; with the text as it was given. -/
theorem splitAssignment_outcome (config : Config) :
    (∀ written : WrittenAssignment, splitAssignment written.text config =
      .ok ⟨if config.caseFold then Text.lower written.target else written.target,
        written.remainder⟩) ∧
    (∀ first second : WrittenAssignment, first.text = second.text → first = second) ∧
    ∀ source : Text,
      ((∃ assignment, splitAssignment source config = .ok assignment) ↔
        ∃ written : WrittenAssignment, written.text = source) ∧
      ((¬ ∃ written : WrittenAssignment, written.text = source) →
        splitAssignment source config =
          .error (.parse .malformedAssignment (assignmentFault source) source)) := by
  refine ⟨fun written => splitAssignment_text written config,
    fun _ _ => WrittenAssignment.text_injective, ?_⟩
  intro source
  constructor
  · constructor
    · rintro ⟨assignment, hsplit⟩
      rcases splitAssignment_cases source config with hwritten | herror
      · exact hwritten
      · rw [hsplit] at herror
        cases herror
    · rintro ⟨written, rfl⟩
      exact ⟨_, splitAssignment_text written config⟩
  · intro hnot
    exact (splitAssignment_cases source config).resolve_left hnot

end Formula
