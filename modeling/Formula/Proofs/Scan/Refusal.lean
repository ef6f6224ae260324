import Formula.Proofs.Grammar.Lexemes
import Formula.Proofs.Scan.Outline

/-!
# Where a source is refused

A source is refused at one of its tokens, or at its end.  The token is the first that is not
taken, or a parenthesis that is still open behind the last one.  Either way, all that is in
front of it has been taken: every lexeme there is known.

## Main results

* `Outline.opens_of_foldlM`: what is open is the position of a token that was taken.
* `Outline.refused_of_run`: the token at which a source is refused, and what is in front of it.
-/

namespace Formula

open Outcome

/-- What asks for a move is known. -/
theorem Reads.knows {vocabulary : Vocabulary} {expectation : Expectation} {lexeme : Lexeme}
    {move : Move} (h : Reads vocabulary expectation lexeme move) : vocabulary.Knows lexeme := by
  cases h with
  | operand _ hmeaning =>
      rw [Vocabulary.Knows, hmeaning]
      rfl
  | function _ hmeaning =>
      rw [Vocabulary.Knows, hmeaning]
      rfl
  | unary hop => exact Symbol.isKnown_of_unary hop
  | binary hop => exact Symbol.isKnown_of_binary hop
  | left => rfl
  | right _ => rfl
  | comma _ => rfl

namespace Outline

variable {vocabulary : Vocabulary} {outline outline' : Outline} {token : Token}

theorem reads_of_step (h : outline.step vocabulary.names token = .ok outline') :
    ∃ m, Reads vocabulary outline.expectation token.lexeme m ∧
      outline.advance token.position m = .ok outline' := by
  rw [step_eq] at h
  cases hread : outline.expectation.read vocabulary token.lexeme with
  | error cause =>
      rw [hread] at h
      cases h
  | ok m =>
      rw [hread] at h
      exact ⟨m, Expectation.reads_of_read hread, h⟩

/-- A token that is taken is known. -/
theorem knows_of_step (h : outline.step vocabulary.names token = .ok outline') :
    vocabulary.Knows token.lexeme := by
  obtain ⟨m, hreads, _⟩ := reads_of_step h
  exact hreads.knows

/-- A move opens at most the position that it is made at. -/
theorem opens_of_advance {position : Nat} {m : Move}
    (h : outline.advance position m = .ok outline') :
    ∀ place ∈ outline'.opens, place = position ∨ place ∈ outline.opens := by
  intro place hplace
  cases m with
  | left =>
      cases h
      exact List.mem_cons.1 hplace
  | right =>
      cases hopens : outline.opens with
      | nil =>
          rw [advance, hopens] at h
          cases h
      | cons innermost opens =>
          rw [advance, hopens] at h
          cases h
          exact .inr (List.mem_cons_of_mem _ hplace)
  | comma =>
      cases hopens : outline.opens with
      | nil =>
          rw [advance, hopens] at h
          cases h
      | cons innermost opens =>
          rw [advance, hopens] at h
          cases h
          exact .inr hplace
  | operand o =>
      cases h
      exact .inr hplace
  | function name op =>
      cases h
      exact .inr hplace
  | unary op =>
      cases h
      exact .inr hplace
  | binary op =>
      cases h
      exact .inr hplace

/-- What is open is the position of a token that was taken, or was open before. -/
theorem opens_of_foldlM {taken : List Token}
    (h : taken.foldlM (step vocabulary.names) outline = .ok outline') :
    ∀ place ∈ outline'.opens,
      (∃ token ∈ taken, token.position = place) ∨ place ∈ outline.opens := by
  induction taken generalizing outline with
  | nil =>
      cases h
      exact fun place hplace => .inr hplace
  | cons token taken ih =>
      rw [List.foldlM_cons] at h
      obtain ⟨next, hnext, hlater⟩ := exists_of_bind h
      obtain ⟨m, _, hadvance⟩ := reads_of_step hnext
      intro place hplace
      rcases ih hlater place hplace with ⟨opened, hopened, hposition⟩ | hbefore
      · exact .inl ⟨opened, List.mem_cons_of_mem _ hopened, hposition⟩
      · rcases opens_of_advance hadvance place hbefore with rfl | hopen
        · exact .inl ⟨token, List.mem_cons_self, rfl⟩
        · exact .inr hopen

/-- The place where a source is refused is its end, or a token with nothing but known lexemes
in front of it. -/
theorem refused_of_run {source : List Token} {length : Nat} {cause : ParseFault}
    {position : Nat} (h : run vocabulary.names source length = .error (.parse cause position)) :
    position = length ∨ ∃ before token after, source = before ++ token :: after ∧
      token.position = position ∧ ∀ earlier ∈ before, vocabulary.Knows earlier.lexeme := by
  rw [run] at h
  cases hfold : source.foldlM (step vocabulary.names) {} with
  | error first =>
      rw [hfold, error_bind] at h
      cases h
      obtain ⟨before, token, after, outline, rfl, hbefore, hstep⟩ :=
        exists_split_of_foldlM_error hfold
      obtain ⟨_, _, hfault⟩ := fault_of_step hstep
      cases hfault
      have hknows := forall_of_foldlM_ok hbefore fun _ _ _ => knows_of_step
      exact .inr ⟨before, token, after, rfl, rfl, hknows⟩
  | ok outline =>
      rw [hfold, ok_bind] at h
      have hknows := forall_of_foldlM_ok hfold fun _ _ _ => knows_of_step
      rcases Expectation.openParen_cases outline.expectation with hopen | ⟨function, hfunction⟩
      · rw [finish_of_not_openParen hopen] at h
        cases hopens : outline.opens with
        | nil =>
            rw [hopens] at h
            cases h
        | cons innermost opens =>
            rw [hopens] at h
            cases h
            -- The innermost parenthesis is a token, and all tokens have been taken.
            have hinnermost : position ∈ outline.opens := by simp [hopens]
            rcases opens_of_foldlM hfold position hinnermost with ⟨token, htoken, hposition⟩ | hno
            · obtain ⟨before, after, rfl⟩ := List.append_of_mem htoken
              exact .inr ⟨before, token, after, rfl, hposition, fun earlier hearlier =>
                hknows earlier (List.mem_append_left _ hearlier)⟩
            · cases hno
      · rw [finish, hfunction] at h
        cases h
        exact .inl rfl

end Outline

end Formula
