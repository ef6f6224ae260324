import Formula.Proofs.Token.Reading

/-!
# Respelling the tokens of a text

To respell a text is to write other lexemes in the place of its own, and to leave the blanks
as they are.  Tokens get longer or shorter by that and change their places.  As long as terms
become terms and symbols become symbols, they do not run into each other: where a term ended
at a blank or a symbol, the new one does.  So the lexemes of the new text are the new lexemes.

## Main results

* `head_respellFrom`: what cannot go on with a term cannot do so respelled.
* `map_lexeme_respellFrom`: the lexemes of a respelled text are the respelled lexemes.
-/

namespace Formula

/-- Writes other lexemes in the place of the tokens of a text that begins at a position.
What is between them stays. -/
def respellFrom (f : Lexeme → Lexeme) (position : Nat) : List Token → Text → Text
  | [], text => text
  | token :: later, text =>
      let before := text.take (token.position - position)
      let after := text.drop (before.length + token.text.length)
      before ++ ((f token.lexeme).text ++
        respellFrom f (token.position + token.text.length) later after)

/-- Writes other lexemes in the place of those of a text. -/
def respell (f : Lexeme → Lexeme) (text : Text) : Text := respellFrom f 0 (tokens text) text

/-- A change of lexemes that makes terms of terms and symbols of symbols. -/
def KeepsKinds (f : Lexeme → Lexeme) : Prop :=
  ∀ lexeme : Lexeme, lexeme.Proper → (f lexeme).Proper ∧ (f lexeme).isTerm = lexeme.isTerm

section

variable {f : Lexeme → Lexeme} {text before after : Text} {lexeme : Lexeme}

/-- A text that begins with a lexeme is respelled from there. -/
theorem Begins.respellFrom_eq (h : Begins text before lexeme after) (position : Nat)
    (later : List Token) :
    respellFrom f position (⟨lexeme, position + before.length⟩ :: later) text =
      before ++ ((f lexeme).text ++
        respellFrom f (position + before.length + lexeme.text.length) later after) := by
  have hcount : position + before.length - position = before.length := by omega
  have hbefore : text.take before.length = before := by rw [h.text_eq, List.take_left]
  have hafter : text.drop (before.length + lexeme.text.length) = after := by
    rw [h.text_eq, ← List.append_assoc, ← List.length_append, List.drop_left]
  simp only [respellFrom, Token.text, hcount, hbefore, hafter]

/-- Where a text does not begin with the characters of a term, it does not do so respelled. -/
theorem head_respellFrom (hkeeps : KeepsKinds f) (position : Nat) (text : Text)
    (hhead : ∀ c ∈ text.head?, isTermChar c = false) :
    ∀ c ∈ (respellFrom f position (tokensFrom position text) text).head?,
      isTermChar c = false := by
  rcases blank_or_begins text with hblank | ⟨before, lexeme, after, hbegins⟩
  · rw [tokensFrom_of_blank hblank]
    exact hhead
  · rw [hbegins.tokensFrom_eq, hbegins.respellFrom_eq]
    rw [hbegins.text_eq] at hhead
    cases before with
    | cons c before => exact hhead
    | nil =>
        obtain ⟨hproper, hkind⟩ := hkeeps lexeme hbegins.proper
        cases lexeme with
        | term term =>
            -- A term that stands in front begins with one of its characters.
            obtain ⟨c, rest, rfl⟩ := List.exists_cons_of_ne_nil hbegins.proper.1
            have hterm : isTermChar c = true := hbegins.proper.2 c List.mem_cons_self
            have hnot : isTermChar c = false := hhead c rfl
            rw [hterm] at hnot
            cases hnot
        | symbol c =>
            cases hnew : f (.symbol c) with
            | term term =>
                rw [hnew] at hkind
                cases hkind
            | symbol d =>
                rw [hnew] at hproper
                intro e he
                cases he
                exact hproper.1

/-- A respelled text begins with the respelled lexeme. -/
theorem Begins.respelled (hkeeps : KeepsKinds f) (h : Begins text before lexeme after)
    (position : Nat) :
    Begins (before ++ ((f lexeme).text ++
      respellFrom f position (tokensFrom position after) after)) before (f lexeme)
      (respellFrom f position (tokensFrom position after) after) := by
  obtain ⟨hproper, hkind⟩ := hkeeps lexeme h.proper
  refine ⟨rfl, h.blank, hproper, fun hterm => head_respellFrom hkeeps position after ?_⟩
  rw [hkind] at hterm
  exact h.ends hterm

end

/-- The lexemes of a respelled text are the respelled lexemes. -/
theorem map_lexeme_respellFrom {f : Lexeme → Lexeme} (hkeeps : KeepsKinds f)
    (position place : Nat) (text : Text) :
    (tokensFrom place (respellFrom f position (tokensFrom position text) text)).map
      Token.lexeme = (tokensFrom position text).map fun token => f token.lexeme := by
  refine tokensFrom_induction (motive := fun position text cut =>
    tokensFrom position text = cut → ∀ place,
      (tokensFrom place (respellFrom f position cut text)).map Token.lexeme =
        cut.map fun token => f token.lexeme) ?_ ?_ position text rfl place
  · intro position text hblank _ place
    rw [respellFrom, tokensFrom_of_blank hblank]
    rfl
  · intro position text before after lexeme later hbegins ih hcut place
    rw [hbegins.tokensFrom_eq, List.cons.injEq] at hcut
    obtain ⟨_, rfl⟩ := hcut
    rw [hbegins.respellFrom_eq, (hbegins.respelled hkeeps _).tokensFrom_eq, List.map_cons,
      List.map_cons, ih rfl]

end Formula
