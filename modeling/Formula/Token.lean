import Formula.Symbol
import Formula.Text.Alphanumeric

/-!
# Tokens

A source is cut into tokens of two kinds. A *term* is a maximal run of
alphanumeric characters and full stops: a number, a name. A *symbol* is a single
character of any other kind, known to the language or not. Spaces and tabs stand
between tokens and belong to none; a line feed is no blank but a symbol.

Every source has exactly one such cut, so tokenising cannot fail. It goes from the
right: a character is put in front of the tokens of the rest, and joins the first
of them when both are parts of one term. `Formula.Token.Cursor` reads the same
tokens one by one from the left.
-/

namespace Formula

/-- Whether `c` separates tokens: a space or a tab. -/
def isBlank (c : Char) : Bool := c == ' ' || c == '\t'

/-- Whether `c` can be part of a term. There is no exponent notation, so a sign is
never part of one. -/
def isTermChar (c : Char) : Bool := c == '.' || Text.isAlphanumeric c

/-- A symbol of the language is cut off as a symbol: it is no part of a term, and no
blank. -/
theorem Symbol.not_isTermChar_of_isKnown {c : Char} (h : Symbol.isKnown c = true) :
    isTermChar c = false ∧ isBlank c = false := by
  have hall : ("+-*/%^><=&|!(),".toList.all fun c => !isTermChar c && !isBlank c) = true := rfl
  have hmem : c ∈ "+-*/%^><=&|!(),".toList := by
    revert h
    simp only [isKnown, binary?, unary?, grouping?]
    split <;> split <;> split <;> simp +contextual
  simpa using List.all_eq_true.1 hall c hmem

/-- What a token says. -/
inductive Lexeme where
  /-- A single character that is neither blank nor part of a term. -/
  | symbol (c : Char)
  /-- A run of alphanumeric characters and full stops. -/
  | term (text : Text)
  deriving DecidableEq

/-- The characters of a lexeme. -/
def Lexeme.text : Lexeme → Text
  | .symbol c => [c]
  | .term text => text

/-- A lexeme and the position of its first character in the source. -/
structure Token where
  lexeme : Lexeme
  position : Nat
  deriving DecidableEq

/-- The characters of a token. -/
def Token.text (token : Token) : Text := token.lexeme.text

/-- Puts the character at `position` in front of the tokens of the characters
after it. -/
def Token.prepend (c : Char) (position : Nat) (later : List Token) : List Token :=
  if isBlank c then later
  else if isTermChar c then
    match later with
    | ⟨.term text, next⟩ :: others =>
      if next = position + 1 then ⟨.term (c :: text), position⟩ :: others
      else ⟨.term [c], position⟩ :: later
    | _ => ⟨.term [c], position⟩ :: later
  else ⟨.symbol c, position⟩ :: later

/-- The tokens of a text whose first character is at `position`. -/
def tokensFrom (position : Nat) : Text → List Token
  | [] => []
  | c :: rest => Token.prepend c position (tokensFrom (position + 1) rest)

/-- The tokens of a source, in order. -/
def tokens (source : Text) : List Token := tokensFrom 0 source

end Formula
