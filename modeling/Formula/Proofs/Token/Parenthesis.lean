import Formula.Token
import Mathlib.Data.List.Basic

/-!
# Which parentheses are closed

A row of tokens is *balanced* when its parentheses open and close in pairs, one pair inside
another or behind it.  A `(` is closed by the `)` behind it that has a balanced row in front of
it, up to the `(`.  That is all there is to the matching of parentheses, and no stack is needed
to say it.

A scan reads a row from the left.  What it has to know is what one more token does to those `(`
of the row that are not closed: another `(` is one more of them, a `)` closes the last of them,
and no other token makes a difference.

## Main results

* `closes_zero_iff`: whether a `(` is closed can be counted.
* `Balanced.unclosed_append`: a balanced row leaves no `(` behind.
* `balanced_iff`: a row is balanced if every `(` of it is closed, and no `)` closes more.
* `unclosed_concat_left`, `unclosed_concat_right`, `unclosed_concat_other`: one more token.
-/

namespace Formula

/-! ## Pairs of parentheses -/

/-- Whether a token is a `(`. -/
def Token.IsLeft (token : Token) : Prop := token.lexeme = .symbol '('

/-- Whether a token is a `)`. -/
def Token.IsRight (token : Token) : Prop := token.lexeme = .symbol ')'

instance (token : Token) : Decidable token.IsLeft :=
  inferInstanceAs (Decidable (token.lexeme = .symbol '('))

instance (token : Token) : Decidable token.IsRight :=
  inferInstanceAs (Decidable (token.lexeme = .symbol ')'))

theorem Token.IsLeft.not_isRight {token : Token} (h : token.IsLeft) : ¬ token.IsRight := by
  intro hright
  rw [IsLeft, hright] at h
  exact absurd h (by decide)

/-- `Balanced row` says that the parentheses of a row open and close in pairs. -/
inductive Balanced : List Token → Prop where
  | nil : Balanced []
  | other {token : Token} {row : List Token} :
    ¬ token.IsLeft → ¬ token.IsRight → Balanced row → Balanced (token :: row)
  | pair {left right : Token} {inner row : List Token} :
    left.IsLeft → right.IsRight → Balanced inner → Balanced row →
    Balanced (left :: (inner ++ right :: row))

/-- `Closed after` says that a `(` directly in front of a row is closed in it. -/
def Closed (after : List Token) : Prop :=
  ∃ inner right rest, after = inner ++ right :: rest ∧ Balanced inner ∧ right.IsRight

/-- Whether the outermost of some parentheses that are open in front of a row is closed in it,
when `depth` others are open inside that one. -/
def closes : Nat → List Token → Bool
  | _, [] => false
  | depth, token :: row =>
    if token.IsLeft then closes (depth + 1) row
    else if token.IsRight then depth == 0 || closes (depth - 1) row
    else closes depth row

section Counting

variable {token : Token} {row inner : List Token} {depth : Nat}

theorem closes_left (h : token.IsLeft) : closes depth (token :: row) = closes (depth + 1) row := by
  rw [closes, if_pos h]

theorem closes_right_zero (h : token.IsRight) : closes 0 (token :: row) = true := by
  have hleft : ¬ token.IsLeft := fun hleft => hleft.not_isRight h
  rw [closes, if_neg hleft, if_pos h]
  rfl

theorem closes_right_succ (h : token.IsRight) :
    closes (depth + 1) (token :: row) = closes depth row := by
  have hleft : ¬ token.IsLeft := fun hleft => hleft.not_isRight h
  rw [closes, if_neg hleft, if_pos h]
  rfl

theorem closes_other (hleft : ¬ token.IsLeft) (hright : ¬ token.IsRight) :
    closes depth (token :: row) = closes depth row := by
  rw [closes, if_neg hleft, if_neg hright]

/-- A balanced row does not count. -/
theorem Balanced.closes_append (h : Balanced inner) (depth : Nat) (row : List Token) :
    closes depth (inner ++ row) = closes depth row := by
  induction h generalizing depth row with
  | nil => rfl
  | other hleft hright _ ih => rw [List.cons_append, closes_other hleft hright, ih]
  | pair hleft hright _ _ ihinner ihrow =>
      rw [List.cons_append, List.append_assoc, List.cons_append, closes_left hleft, ihinner,
        closes_right_succ hright, ihrow]

/-- Where the outermost parenthesis is closed, so is the innermost, and then what is left closes
the others. -/
theorem exists_of_closes (h : closes depth row = true) :
    ∃ inner right rest, row = inner ++ right :: rest ∧ Balanced inner ∧ right.IsRight ∧
      ∀ outer, depth = outer + 1 → closes outer rest = true := by
  -- On the length: behind a pair the count goes on with what is left of the row.
  induction hlength : row.length using Nat.strongRecOn generalizing depth row with
  | ind length ih =>
    subst hlength
    cases row with
    | nil => cases h
    | cons token row =>
      by_cases hleft : token.IsLeft
      · rw [closes_left hleft] at h
        obtain ⟨inner, right, rest, rfl, hinner, hright, hrest⟩ :=
          ih row.length (by simp) h rfl
        obtain ⟨inner', right', rest', rfl, hinner', hright', hrest'⟩ :=
          ih rest.length (by simp; omega) (hrest depth rfl) rfl
        exact ⟨token :: (inner ++ right :: inner'), right', rest', by simp,
          .pair hleft hright hinner hinner', hright', hrest'⟩
      · by_cases hright : token.IsRight
        · refine ⟨[], token, row, rfl, .nil, hright, ?_⟩
          rintro outer rfl
          rwa [closes_right_succ hright] at h
        · rw [closes_other hleft hright] at h
          obtain ⟨inner, right, rest, rfl, hinner, hright', hrest⟩ :=
            ih row.length (by simp) h rfl
          exact ⟨token :: inner, right, rest, rfl, .other hleft hright hinner, hright', hrest⟩

/-- Whether a `(` is closed can be counted. -/
theorem closes_zero_iff : closes 0 row = true ↔ Closed row := by
  constructor
  · intro h
    obtain ⟨inner, right, rest, hrow, hinner, hright, _⟩ := exists_of_closes h
    exact ⟨inner, right, rest, hrow, hinner, hright⟩
  · rintro ⟨inner, right, rest, rfl, hinner, hright⟩
    rw [hinner.closes_append, closes_right_zero hright]

instance (row : List Token) : Decidable (Closed row) := decidable_of_iff _ closes_zero_iff

end Counting

/-! ## What is not closed -/

/-- The `(` of a row that are not closed in it, in order. -/
def unclosed : List Token → List Token
  | [] => []
  | token :: after =>
    if token.IsLeft ∧ ¬ Closed after then token :: unclosed after else unclosed after

/-- The first of three groups is closed. -/
example : (unclosed (tokens "f(x) + (2 * (y, ".toList)).map Token.position = [7, 12] := by
  decide

section Unclosed

variable {token : Token} {row inner : List Token}

theorem unclosed_cons_of_pos (hleft : token.IsLeft) (hclosed : ¬ Closed row) :
    unclosed (token :: row) = token :: unclosed row := by
  rw [unclosed, if_pos ⟨hleft, hclosed⟩]

theorem unclosed_cons_of_closed (hclosed : Closed row) :
    unclosed (token :: row) = unclosed row := by
  rw [unclosed, if_neg fun h => h.2 hclosed]

theorem unclosed_cons_of_not_isLeft (hleft : ¬ token.IsLeft) :
    unclosed (token :: row) = unclosed row := by
  rw [unclosed, if_neg fun h => hleft h.1]

theorem unclosed_sublist (row : List Token) : (unclosed row).Sublist row := by
  induction row with
  | nil => exact .slnil
  | cons token row ih =>
      rw [unclosed]
      split
      · exact ih.cons_cons token
      · exact ih.cons token

/-- A balanced row leaves no `(` behind. -/
theorem Balanced.unclosed_append (h : Balanced inner) (row : List Token) :
    unclosed (inner ++ row) = unclosed row := by
  induction h generalizing row with
  | nil => rfl
  | other hleft _ _ ih => rw [List.cons_append, unclosed_cons_of_not_isLeft hleft, ih]
  | @pair left right inner rest _ hright hinner _ ihinner ihrest =>
      have hclosed : Closed (inner ++ right :: (rest ++ row)) :=
        ⟨inner, right, rest ++ row, rfl, hinner, hright⟩
      have hnot : ¬ right.IsLeft := fun hleft => hleft.not_isRight hright
      rw [List.cons_append, List.append_assoc, List.cons_append,
        unclosed_cons_of_closed hclosed, ihinner, unclosed_cons_of_not_isLeft hnot, ihrest]

/-- What is closed behind something balanced is closed with it in front. -/
theorem Closed.append (h : Closed row) (hinner : Balanced inner) : Closed (inner ++ row) := by
  rw [← closes_zero_iff, hinner.closes_append, closes_zero_iff]
  exact h

/-- A row is balanced if every `(` of it is closed, and no `)` of it would close one more. -/
theorem balanced_iff : Balanced row ↔ unclosed row = [] ∧ ¬ Closed row := by
  constructor
  · intro h
    have hunclosed := h.unclosed_append []
    have hcloses := h.closes_append 0 []
    rw [List.append_nil] at hunclosed hcloses
    refine ⟨hunclosed, fun hclosed => ?_⟩
    rw [closes_zero_iff.2 hclosed] at hcloses
    cases hcloses
  · rintro ⟨hunclosed, hclosed⟩
    induction hlength : row.length using Nat.strongRecOn generalizing row with
    | ind length ih =>
      subst hlength
      cases row with
      | nil => exact .nil
      | cons token row =>
        by_cases hleft : token.IsLeft
        · -- The `(` is closed, so the row is a pair with something balanced behind it.
          have hlater : Closed row := by
            by_contra hnot
            rw [unclosed_cons_of_pos hleft hnot] at hunclosed
            cases hunclosed
          rw [unclosed_cons_of_closed hlater] at hunclosed
          obtain ⟨inner, right, rest, rfl, hinner, hright⟩ := hlater
          have hnot : ¬ right.IsLeft := fun h => h.not_isRight hright
          rw [hinner.unclosed_append, unclosed_cons_of_not_isLeft hnot] at hunclosed
          refine .pair hleft hright hinner (ih rest.length (by simp; omega) hunclosed ?_ rfl)
          intro hrest
          have hpair : Balanced (token :: (inner ++ [right])) := .pair hleft hright hinner .nil
          have hrow := hrest.append hpair
          rw [List.cons_append, List.append_assoc] at hrow
          exact hclosed hrow
        · have hright : ¬ token.IsRight := fun hright => hclosed ⟨[], token, row, rfl, .nil, hright⟩
          rw [unclosed_cons_of_not_isLeft hleft] at hunclosed
          refine .other hleft hright (ih row.length (by simp) hunclosed (fun hrow => ?_) rfl)
          exact hclosed (hrow.append (.other hleft hright .nil))

/-! ## One more token -/

theorem closes_concat (hright : ¬ token.IsRight) (depth : Nat) (row : List Token) :
    closes depth (row ++ [token]) = closes depth row := by
  induction row generalizing depth with
  | nil =>
      by_cases hleft : token.IsLeft
      · exact closes_left hleft
      · exact closes_other hleft hright
  | cons first row ih =>
      rw [List.cons_append]
      by_cases hfirst : first.IsLeft
      · rw [closes_left hfirst, closes_left hfirst, ih]
      · by_cases hfirst' : first.IsRight
        · cases depth with
          | zero => rw [closes_right_zero hfirst', closes_right_zero hfirst']
          | succ depth => rw [closes_right_succ hfirst', closes_right_succ hfirst', ih]
        · rw [closes_other hfirst hfirst', closes_other hfirst hfirst', ih]

/-- A token that is no `)` closes nothing. -/
theorem unclosed_concat (hright : ¬ token.IsRight) (row : List Token) :
    unclosed (row ++ [token]) = unclosed row ++ unclosed [token] := by
  induction row with
  | nil => rfl
  | cons first row ih =>
      have hclosed : Closed (row ++ [token]) ↔ Closed row := by
        rw [← closes_zero_iff, ← closes_zero_iff, closes_concat hright]
      rw [List.cons_append, unclosed, unclosed, ih]
      simp only [hclosed]
      split <;> rfl

/-- Another `(` is one more. -/
theorem unclosed_concat_left (hleft : token.IsLeft) (row : List Token) :
    unclosed (row ++ [token]) = unclosed row ++ [token] := by
  have hnone : ¬ Closed [] := by decide
  rw [unclosed_concat hleft.not_isRight, unclosed_cons_of_pos hleft hnone]
  rfl

/-- What is no parenthesis makes no difference. -/
theorem unclosed_concat_other (hleft : ¬ token.IsLeft) (hright : ¬ token.IsRight)
    (row : List Token) : unclosed (row ++ [token]) = unclosed row := by
  rw [unclosed_concat hright, unclosed_cons_of_not_isLeft hleft]
  exact List.append_nil _

/-- Behind a row comes a `)`.  It closes a `(` in front of the row if the row has done so, or if
the row is balanced. -/
theorem closed_concat_right (hright : token.IsRight) :
    Closed (row ++ [token]) ↔ Closed row ∨ Balanced row := by
  constructor
  · rintro ⟨inner, right, rest, hrow, hinner, hright'⟩
    rcases List.eq_nil_or_concat' rest with rfl | ⟨front, last, rfl⟩
    · right
      rw [(List.append_inj' hrow rfl).1]
      exact hinner
    · left
      rw [← List.cons_append, ← List.append_assoc] at hrow
      exact ⟨inner, right, front, (List.append_inj' hrow rfl).1, hinner, hright'⟩
  · rintro (⟨inner, right, rest, rfl, hinner, hright'⟩ | hbalanced)
    · exact ⟨inner, right, rest ++ [token], by simp, hinner, hright'⟩
    · exact ⟨row, token, [], rfl, hbalanced, hright⟩

/-- A `)` closes the last that is not closed. -/
theorem unclosed_concat_right (hright : token.IsRight) (row : List Token) :
    unclosed (row ++ [token]) = (unclosed row).dropLast := by
  induction row with
  | nil => exact unclosed_cons_of_not_isLeft fun hleft => hleft.not_isRight hright
  | cons first row ih =>
      rw [List.cons_append]
      by_cases hfirst : first.IsLeft
      · by_cases hclosed : Closed row
        · rw [unclosed_cons_of_closed hclosed, ← ih]
          exact unclosed_cons_of_closed ((closed_concat_right hright).2 (.inl hclosed))
        · rw [unclosed_cons_of_pos hfirst hclosed]
          by_cases hbalanced : Balanced row
          · have hnone := (balanced_iff.1 hbalanced).1
            rw [hnone] at ih ⊢
            rw [unclosed_cons_of_closed ((closed_concat_right hright).2 (.inr hbalanced)), ih]
            rfl
          · have hsome : unclosed row ≠ [] := fun hnone =>
              hbalanced (balanced_iff.2 ⟨hnone, hclosed⟩)
            have hopen : ¬ Closed (row ++ [token]) := fun hlater =>
              ((closed_concat_right hright).1 hlater).elim hclosed hbalanced
            rw [unclosed_cons_of_pos hfirst hopen, ih, List.dropLast_cons_of_ne_nil hsome]
      · rw [unclosed_cons_of_not_isLeft hfirst, unclosed_cons_of_not_isLeft hfirst, ih]

end Unclosed

end Formula
