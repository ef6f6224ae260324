import Formula.Token
import Mathlib.Data.List.Chain

/-!
# Texts that spell lexemes

A text spells some lexemes if these stand in it one behind the other, with any blanks in
front of, between and behind them.  Tokenising such a text gives the lexemes back, if
nothing runs together: a term ends where a character comes that cannot be part of one, so
only between two terms a blank is needed.

## Main results

* `exists_split_of_mem`: a token stands in its source where its position says.
* `map_lexeme_tokensFrom`: the tokens of a text that spells some lexemes are these.
* `spellsTokens`: every text spells the lexemes of its tokens.
-/

namespace Formula

/-- `Spells lexemes text` says that the text is the lexemes in order, with blanks
anywhere around them. -/
inductive Spells : List Lexeme → Text → Prop where
  | blanks {text : Text} : (∀ c ∈ text, isBlank c = true) → Spells [] text
  | lexeme {lexeme : Lexeme} {later : List Lexeme} {before after : Text} :
    (∀ c ∈ before, isBlank c = true) → Spells later after →
    Spells (lexeme :: later) (before ++ lexeme.text ++ after)

/-- A lexeme that tokenising can give: a symbol that is neither part of a term nor blank,
or a row of the characters of terms. -/
def Lexeme.Proper : Lexeme → Prop
  | .symbol c => isTermChar c = false ∧ isBlank c = false
  | .term text => text ≠ [] ∧ ∀ c ∈ text, isTermChar c = true

/-- Whether a lexeme is a term. -/
def Lexeme.isTerm : Lexeme → Bool
  | .term _ => true
  | .symbol _ => false

/-- Two lexemes that keep apart without a blank between them. -/
def Lexeme.Apart (first second : Lexeme) : Prop :=
  first.isTerm = false ∨ second.isTerm = false

theorem Spells.blank {lexemes : List Lexeme} {text : Text} {c : Char}
    (hblank : isBlank c = true) (h : Spells lexemes text) : Spells lexemes (c :: text) := by
  cases h with
  | blanks hall => exact .blanks (by simpa [hblank] using hall)
  | @lexeme lexeme later before after hall hlater =>
      have hcons : ∀ d ∈ c :: before, isBlank d = true := by simpa [hblank] using hall
      exact .lexeme hcons hlater

theorem isTermChar_of_isBlank {c : Char} (h : isBlank c = true) : isTermChar c = false := by
  rw [isBlank, Bool.or_eq_true, beq_iff_eq, beq_iff_eq] at h
  rcases h with rfl | rfl <;> rfl

theorem isTermChar_of_isDigit {c : Char} (h : c.isDigit = true) : isTermChar c = true := by
  have hsmall : c.toNat < 128 := by
    simp only [Char.isDigit, Bool.and_eq_true, decide_eq_true_eq, UInt32.le_iff_toNat_le] at h
    exact Nat.lt_of_le_of_lt h.2 (by decide)
  simp [isTermChar, Text.isAlphanumeric, hsmall, Char.isAlphanum, h]

/-! ## A character in front of tokens -/

section Prepend

variable {c : Char} {position : Nat} {later : List Token}

theorem prepend_blank (h : isBlank c = true) : Token.prepend c position later = later := by
  unfold Token.prepend
  rw [if_pos h]

theorem prepend_symbol (h : (Lexeme.symbol c).Proper) :
    Token.prepend c position later = ⟨.symbol c, position⟩ :: later := by
  unfold Token.prepend
  rw [if_neg (by simp [h.2]), if_neg (by simp [h.1])]

theorem not_isBlank_of_isTermChar (h : isTermChar c = true) : ¬ isBlank c = true :=
  fun hblank => by simp [isTermChar_of_isBlank hblank] at h

/-- A character joins a term that stands right behind it. -/
theorem prepend_join (h : isTermChar c = true) (text : Text) :
    Token.prepend c position (⟨.term text, position + 1⟩ :: later) =
      ⟨.term (c :: text), position⟩ :: later := by
  unfold Token.prepend
  rw [if_neg (not_isBlank_of_isTermChar h), if_pos h]
  exact if_pos rfl

/-- Otherwise it is a term alone. -/
theorem prepend_alone (h : isTermChar c = true)
    (hlater : ∀ token ∈ later.head?,
      token.lexeme.isTerm = true → token.position ≠ position + 1) :
    Token.prepend c position later = ⟨.term [c], position⟩ :: later := by
  unfold Token.prepend
  rw [if_neg (not_isBlank_of_isTermChar h), if_pos h]
  split
  · exact if_neg (hlater _ rfl rfl)
  · rfl

/-- A character is skipped, joins the term behind it, or is a token alone. -/
theorem prepend_split (c : Char) (position : Nat) (later : List Token) :
    isBlank c = true ∧ Token.prepend c position later = later ∨
    (∃ term kept, isTermChar c = true ∧ later = ⟨.term term, position + 1⟩ :: kept ∧
      Token.prepend c position later = ⟨.term (c :: term), position⟩ :: kept) ∨
    ∃ lexeme, lexeme.Proper ∧ lexeme.text = [c] ∧
      Token.prepend c position later = ⟨lexeme, position⟩ :: later := by
  by_cases hblank : isBlank c = true
  · exact .inl ⟨hblank, prepend_blank hblank⟩
  · by_cases hterm : isTermChar c = true
    · by_cases hjoin : ∃ term kept, later = ⟨.term term, position + 1⟩ :: kept
      · obtain ⟨term, kept, rfl⟩ := hjoin
        exact .inr (.inl ⟨term, kept, hterm, rfl, prepend_join hterm term⟩)
      · refine .inr (.inr ⟨.term [c], ⟨by simp, by simpa using hterm⟩, rfl,
          prepend_alone hterm ?_⟩)
        rintro ⟨lexeme, place⟩ hhead hisTerm rfl
        cases lexeme with
        | symbol d => cases hisTerm
        | term term =>
            obtain ⟨kept, hkept⟩ := List.head?_eq_some_iff.1 hhead
            exact hjoin ⟨term, kept, hkept⟩
    · have hproper : (Lexeme.symbol c).Proper := ⟨by simpa using hterm, by simpa using hblank⟩
      exact .inr (.inr ⟨.symbol c, hproper, rfl, prepend_symbol hproper⟩)

end Prepend

/-! ## Tokens of a text -/

/-- A token stands in its source where its position says, and is a symbol or a row of the
characters of terms. -/
theorem exists_split_of_mem {text : Text} {position : Nat} {token : Token}
    (h : token ∈ tokensFrom position text) :
    token.lexeme.Proper ∧ ∃ before after, text = before ++ token.text ++ after ∧
      token.position = position + before.length := by
  induction text generalizing position token with
  | nil => cases h
  | cons c text ih =>
      have hbehind (hmem : token ∈ tokensFrom (position + 1) text) :
          token.lexeme.Proper ∧ ∃ before after, c :: text = before ++ token.text ++ after ∧
            token.position = position + before.length := by
        obtain ⟨hproper, before, after, htext, hposition⟩ := ih hmem
        refine ⟨hproper, c :: before, after, by rw [htext]; rfl, ?_⟩
        rw [hposition, List.length_cons]
        omega
      rw [tokensFrom] at h
      rcases prepend_split c position (tokensFrom (position + 1) text) with
        ⟨_, hskip⟩ | ⟨term, kept, hc, hlater, hjoin⟩ | ⟨lexeme, hproper, htext, halone⟩
      · rw [hskip] at h
        exact hbehind h
      · rw [hjoin] at h
        rcases List.mem_cons.1 h with rfl | hkept
        · have hmem : ⟨.term term, position + 1⟩ ∈ tokensFrom (position + 1) text := by
            simp [hlater]
          obtain ⟨⟨_, hall⟩, before, after, htext, hposition⟩ := ih hmem
          have hbefore : before = [] := List.length_eq_zero_iff.1 (by simpa using hposition)
          subst hbefore
          refine ⟨⟨by simp, by simpa [hc] using hall⟩, [], after, ?_, rfl⟩
          rw [htext]
          rfl
        · exact hbehind (by simp [hlater, hkept])
      · rw [halone] at h
        rcases List.mem_cons.1 h with rfl | hlater
        · refine ⟨hproper, [], text, ?_, rfl⟩
          rw [Token.text, htext]
          rfl
        · exact hbehind hlater

/-- No token begins before its text does. -/
theorem le_position_of_mem_tokensFrom {text : Text} {position : Nat} {token : Token}
    (h : token ∈ tokensFrom position text) : position ≤ token.position := by
  obtain ⟨_, before, after, _, hposition⟩ := exists_split_of_mem h
  omega

theorem tokensFrom_blanks {before : Text} (hblank : ∀ c ∈ before, isBlank c = true)
    (position : Nat) (text : Text) :
    tokensFrom position (before ++ text) = tokensFrom (position + before.length) text := by
  induction before generalizing position with
  | nil => rfl
  | cons c before ih =>
      have hrest := ih (fun d hd => hblank d (by simp [hd])) (position + 1)
      rw [List.cons_append, tokensFrom, prepend_blank (hblank c (by simp)), hrest,
        List.length_cons]
      congr 1
      omega

theorem tokensFrom_symbol {c : Char} (h : (Lexeme.symbol c).Proper) (position : Nat)
    (text : Text) :
    tokensFrom position (c :: text) =
      ⟨.symbol c, position⟩ :: tokensFrom (position + 1) text := by
  rw [tokensFrom, prepend_symbol h]

/-- A text that does not begin with the characters of a term has no term where it
begins. -/
theorem position_ne_of_head {text : Text} {position : Nat}
    (hend : ∀ c ∈ text.head?, isTermChar c = false) :
    ∀ token ∈ (tokensFrom position text).head?,
      token.lexeme.isTerm = true → token.position ≠ position := by
  intro token hhead hterm
  cases text with
  | nil => cases hhead
  | cons c text =>
      have hc : isTermChar c = false := hend c rfl
      by_cases hblank : isBlank c = true
      · rw [tokensFrom, prepend_blank hblank] at hhead
        have hle := le_position_of_mem_tokensFrom (List.mem_of_mem_head? hhead)
        omega
      · rw [tokensFrom_symbol ⟨hc, by simpa using hblank⟩] at hhead
        cases hhead
        cases hterm

/-- A row of the characters of terms is one term, if the row ends there. -/
theorem tokensFrom_term {term : Text} (h : (Lexeme.term term).Proper) (position : Nat)
    {text : Text} (hend : ∀ c ∈ text.head?, isTermChar c = false) :
    tokensFrom position (term ++ text) =
      ⟨.term term, position⟩ :: tokensFrom (position + term.length) text := by
  obtain ⟨hne, hall⟩ := h
  induction term generalizing position with
  | nil => exact absurd rfl hne
  | cons c term ih =>
      have hc : isTermChar c = true := hall c (by simp)
      rw [List.cons_append, tokensFrom]
      cases term with
      | nil => exact prepend_alone hc (position_ne_of_head hend)
      | cons d term =>
          rw [ih (position + 1) (by simp) fun e he => hall e (by simp [he]), prepend_join hc]
          congr 2
          simp only [List.length_cons]
          omega

/-! ## Tokens of a spelling -/

/-- Behind a term, a text goes on with no character of a term. -/
theorem Spells.head_not_isTermChar {lexemes : List Lexeme} {text : Text}
    (h : Spells lexemes text) (hproper : ∀ lexeme ∈ lexemes, lexeme.Proper)
    (hsymbol : ∀ lexeme ∈ lexemes.head?, lexeme.isTerm = false) :
    ∀ c ∈ text.head?, isTermChar c = false := by
  intro c hc
  cases h with
  | blanks hblank => exact isTermChar_of_isBlank (hblank c (List.mem_of_mem_head? hc))
  | @lexeme lexeme later before after hblank hlater =>
      cases before with
      | cons d before =>
          cases hc
          exact isTermChar_of_isBlank (hblank c (by simp))
      | nil =>
          cases lexeme with
          | term term => exact absurd (hsymbol _ rfl) (by simp [Lexeme.isTerm])
          | symbol d =>
              cases hc
              exact (hproper (.symbol c) (by simp)).1

/-- The tokens of a text that spells some lexemes are these lexemes, when no two terms
follow each other. -/
theorem map_lexeme_tokensFrom {lexemes : List Lexeme} {text : Text}
    (h : Spells lexemes text) (hproper : ∀ lexeme ∈ lexemes, lexeme.Proper)
    (hapart : lexemes.IsChain Lexeme.Apart) (position : Nat) :
    (tokensFrom position text).map Token.lexeme = lexemes := by
  induction h generalizing position with
  | @blanks text hblank =>
      have hnone := tokensFrom_blanks hblank position []
      rw [List.append_nil] at hnone
      rw [hnone]
      rfl
  | @lexeme lexeme later before after hblank hlater ih =>
      obtain ⟨hnext, hrest⟩ := List.isChain_cons.1 hapart
      have hlater' : ∀ lexeme ∈ later, lexeme.Proper := fun l hl => hproper l (by simp [hl])
      rw [List.append_assoc, tokensFrom_blanks hblank]
      cases lexeme with
      | symbol c =>
          rw [Lexeme.text, List.singleton_append, tokensFrom_symbol (hproper _ (by simp)),
            List.map_cons, ih hlater' hrest]
      | term term =>
          have hend := hlater.head_not_isTermChar hlater' fun next hmem =>
            (hnext next hmem).resolve_left (by simp [Lexeme.isTerm])
          rw [Lexeme.text, tokensFrom_term (hproper _ (by simp)) _ hend, List.map_cons,
            ih hlater' hrest]

/-! ## The spelling of a text -/

/-- A text spells its own tokens.  If the first of them stands at the beginning, it has no
blank in front of it. -/
def SpellsTokens (text : Text) (position : Nat) : Prop :=
  Spells ((tokensFrom position text).map Token.lexeme) text ∧
    ∀ token later, tokensFrom position text = token :: later → token.position = position →
      ∃ after, text = token.lexeme.text ++ after ∧ Spells (later.map Token.lexeme) after

/-- A character that is not blank begins a token, alone or with the term behind it. -/
theorem exists_first_token {c : Char} {position : Nat} {text : Text}
    (hblank : ¬ isBlank c = true) (h : SpellsTokens text (position + 1)) :
    ∃ lexeme later after, tokensFrom position (c :: text) = ⟨lexeme, position⟩ :: later ∧
      c :: text = lexeme.text ++ after ∧ Spells (later.map Token.lexeme) after := by
  obtain ⟨hspells, hfirst⟩ := h
  rw [tokensFrom]
  rcases prepend_split c position (tokensFrom (position + 1) text) with
    ⟨hc, _⟩ | ⟨term, kept, _, hlater, hjoin⟩ | ⟨lexeme, _, htext, halone⟩
  · exact absurd hc hblank
  · obtain ⟨after, htext, hafter⟩ := hfirst _ _ hlater rfl
    exact ⟨.term (c :: term), kept, after, hjoin, by rw [htext]; rfl, hafter⟩
  · exact ⟨lexeme, _, text, halone, by rw [htext]; rfl, hspells⟩

theorem spellsTokens (text : Text) (position : Nat) : SpellsTokens text position := by
  induction text generalizing position with
  | nil => exact ⟨.blanks (by simp), fun token later h => by cases h⟩
  | cons c text ih =>
      have hrest := ih (position + 1)
      by_cases hblank : isBlank c = true
      · rw [SpellsTokens, tokensFrom, prepend_blank hblank]
        refine ⟨hrest.1.blank hblank, fun token later h hposition => ?_⟩
        have hmem : token ∈ tokensFrom (position + 1) text := by simp [h]
        have hle := le_position_of_mem_tokensFrom hmem
        omega
      · obtain ⟨lexeme, later, after, hsplit, htext, hafter⟩ := exists_first_token hblank hrest
        rw [SpellsTokens, hsplit]
        refine ⟨?_, fun token later' h _ => ?_⟩
        · have hnone : ∀ d ∈ ([] : Text), isBlank d = true := by simp
          have hall : Spells (lexeme :: later.map Token.lexeme)
              ([] ++ lexeme.text ++ after) := .lexeme hnone hafter
          rwa [List.nil_append, ← htext] at hall
        · cases h
          exact ⟨after, htext, hafter⟩

end Formula
