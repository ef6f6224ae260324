import Formula.Language
import Formula.Scan

/-!
# The grammar of the language

The grammar says which rows of lexemes are written formulas, and which elements they
stand for, without reference to how they are scanned. A phrase of level `k` below 5
is a row of phrases of level `k + 1` joined by the binary operators of level `k`,
grouped to the left. A phrase of level 5 is an operand, a group, a call, or a
unary operator in front of a phrase of level 5.

* Level 0: `&` and the vertical bar, which both stand for the conjunction.
* Level 1: `>`, `<` and `=`.
* Level 2: `+` and `-`.
* Level 3: `*`, `/` and `%`.
* Level 4: `^`.
* In front of a phrase: `-` and `!`.

A call has one or more arguments. How many a function admits is a parameter, so that
the grammar can be taken with the true numbers of arguments or without any.
-/

namespace Formula

/-- What can be derived: a phrase of a level, or a number of arguments. -/
inductive Part where
  | phrase (level : Nat)
  | arguments (count : Nat)

/-- The level of phrases that no binary operator joins. -/
def topLevel : Nat := 5

/-- Any operation may be called with any number of arguments. -/
def anyArguments (_ : Operation) (_ : Nat) : Prop := True

/-- An operation has to be called with as many arguments as it has. -/
def exactArguments (op : Operation) (count : Nat) : Prop := count = op.arity

/-- `vocabulary.Means term meaning` says what a term stands for: a number, a constant, a
variable that is neither, or a function that is no variable. -/
inductive Vocabulary.Means (vocabulary : Vocabulary) : Text → Meaning → Prop where
  | number {term : Text} : isNumberShaped term = true → (spelledNumber term).isFinite = true →
    Means vocabulary term (.operand (.literal term (spelledNumber term)))
  | constant {name : Text} {value : Float} : Denotes name value →
    Means vocabulary name (.operand (.constant ⟨name, value⟩))
  | declared {name : Text} : name ∈ vocabulary.names → isNumberShaped name = false →
    (∀ value, ¬ Denotes name value) → Means vocabulary name (.operand (.variable name))
  | function {name : Text} {op : Operation} : Calls name op → name ∉ vocabulary.names →
    Means vocabulary name (.function op)

/-- `Derives vocabulary admits part lexemes elements` says that the lexemes spell a
phrase, or some arguments with commas between them, and that the elements are those
of the phrase or of the arguments in post-order. -/
inductive Derives (vocabulary : Vocabulary) (admits : Operation → Nat → Prop) :
    Part → List Lexeme → List Element → Prop where
  | operand {term : Text} {o : Operand} :
    vocabulary.Means term (.operand o) →
    Derives vocabulary admits (.phrase topLevel) [.term term] [.operand o]
  | group {lexemes : List Lexeme} {elements : List Element} :
    Derives vocabulary admits (.phrase 0) lexemes elements →
    Derives vocabulary admits (.phrase topLevel)
      (.symbol '(' :: lexemes ++ [.symbol ')']) elements
  | call {name : Text} {op : Operation} {count : Nat} {lexemes : List Lexeme}
      {elements : List Element} :
    vocabulary.Means name (.function op) →
    admits op count →
    Derives vocabulary admits (.arguments count) lexemes elements →
    Derives vocabulary admits (.phrase topLevel)
      (.term name :: .symbol '(' :: lexemes ++ [.symbol ')']) (elements ++ [.operation op])
  | unary {c : Char} {op : UnaryOperation} {lexemes : List Lexeme} {elements : List Element} :
    Applies c op →
    Derives vocabulary admits (.phrase topLevel) lexemes elements →
    Derives vocabulary admits (.phrase topLevel)
      (.symbol c :: lexemes) (elements ++ [.operation (.unary op)])
  | binary {c : Char} {level : Nat} {op : BinaryOperation} {left right : List Lexeme}
      {leftElements rightElements : List Element} :
    Joins c level op →
    Derives vocabulary admits (.phrase level) left leftElements →
    Derives vocabulary admits (.phrase (level + 1)) right rightElements →
    Derives vocabulary admits (.phrase level)
      (left ++ .symbol c :: right)
      (leftElements ++ rightElements ++ [.operation (.binary op)])
  | lift {level : Nat} {lexemes : List Lexeme} {elements : List Element} :
    level < topLevel →
    Derives vocabulary admits (.phrase (level + 1)) lexemes elements →
    Derives vocabulary admits (.phrase level) lexemes elements
  | lastArgument {lexemes : List Lexeme} {elements : List Element} :
    Derives vocabulary admits (.phrase 0) lexemes elements →
    Derives vocabulary admits (.arguments 1) lexemes elements
  | moreArguments {count : Nat} {first later : List Lexeme}
      {firstElements laterElements : List Element} :
    Derives vocabulary admits (.phrase 0) first firstElements →
    Derives vocabulary admits (.arguments count) later laterElements →
    Derives vocabulary admits (.arguments (count + 1))
      (first ++ .symbol ',' :: later) (firstElements ++ laterElements)

namespace Derives

/-- A grammar that admits more calls derives more. -/
theorem mono {vocabulary : Vocabulary} {admits admits' : Operation → Nat → Prop}
    (h : ∀ op count, admits op count → admits' op count) {part : Part}
    {lexemes : List Lexeme} {elements : List Element}
    (d : Derives vocabulary admits part lexemes elements) :
    Derives vocabulary admits' part lexemes elements := by
  induction d with
  | operand hm => exact .operand hm
  | group _ ih => exact .group ih
  | call hm ha _ ih => exact .call hm (h _ _ ha) ih
  | unary hu _ ih => exact .unary hu ih
  | binary hb _ _ ihLeft ihRight => exact .binary hb ihLeft ihRight
  | lift hl _ ih => exact .lift hl ih
  | lastArgument _ ih => exact .lastArgument ih
  | moreArguments _ _ ihFirst ihLater => exact .moreArguments ihFirst ihLater

end Derives

end Formula
