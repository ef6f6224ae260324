import Formula.Proofs.Language
import Formula.Proofs.Scan.Move
import Formula.Proofs.Token.Spelling

/-!
# The lexemes of what is derived

Every lexeme of a phrase is known to the language or to the vocabulary, and no two terms
of a phrase stand side by side: an operator, a parenthesis or a comma is between them.
So a text may spell a phrase without any blank.

## Main results

* `Derives.apart`: no two terms of a phrase follow each other.
* `Derives.proper`: the lexemes of a phrase can be told from the characters around them.
-/

namespace Formula

/-- The lexemes that the language or a vocabulary gives a sense. -/
def Vocabulary.Knows (vocabulary : Vocabulary) : Lexeme → Prop
  | .term term => (vocabulary.meaning? term).isSome
  | .symbol c => Symbol.isKnown c = true

theorem Symbol.isKnown_of_unary {c : Char} {op : UnaryOperation}
    (h : Symbol.unary? c = some op) : Symbol.isKnown c = true := by
  simp [isKnown, h]

theorem Symbol.isKnown_of_binary {c : Char} {op : BinaryOperator}
    (h : Symbol.binary? c = some op) : Symbol.isKnown c = true := by
  simp [isKnown, h]

/-! ## Terms with a meaning -/

theorem Number.proper_of_numeral? {text : Text} {value : Float}
    (h : Number.numeral? text = some value) : (Lexeme.term text).Proper := by
  have hsplit : text = text.takeWhile Char.isDigit ++ text.dropWhile Char.isDigit :=
    List.takeWhile_append_dropWhile.symm
  have hwhole : ∀ c ∈ text.takeWhile Char.isDigit, isTermChar c = true := fun c hc =>
    isTermChar_of_isDigit (List.all_eq_true.1 List.all_takeWhile c hc)
  obtain ⟨⟨whole, places⟩, hparts, _⟩ := Option.map_eq_some_iff.1 h
  unfold Number.splitNumeral? at hparts
  dsimp only at hparts
  split at hparts
  · rename_i hrest
    rw [hrest, List.append_nil] at hsplit
    split at hparts
    · cases hparts
    · rename_i hne
      rw [hsplit]
      exact ⟨by simpa using hne, hwhole⟩
  · rename_i c rest hrest
    split at hparts
    · rename_i hpoint
      obtain ⟨rfl, hplaces, _⟩ := hpoint
      rw [hrest] at hsplit
      rw [hsplit]
      refine ⟨by simp, fun d hd => ?_⟩
      rcases List.mem_append.1 hd with hmem | hmem
      · exact hwhole d hmem
      · rcases List.mem_cons.1 hmem with rfl | hmem
        · rfl
        · exact isTermChar_of_isDigit (List.all_eq_true.1 hplaces d hmem)
    · cases hparts

theorem Symbol.proper_of_constant? {text : Text} {c : Constant}
    (h : Symbol.constant? text = some c) : (Lexeme.term text).Proper := by
  have hname : c.name = text := by simpa using List.find?_some h
  have hmem : c ∈ Symbol.constants := List.mem_of_find?_eq_some h
  rw [← hname]
  rw [Symbol.constants, List.mem_cons, List.mem_singleton] at hmem
  rcases hmem with rfl | rfl
  · exact ⟨by simp, List.all_eq_true.1 rfl⟩
  · exact ⟨by simp, List.all_eq_true.1 rfl⟩

theorem Symbol.proper_of_function? {text : Text} {op : Operation}
    (h : Symbol.function? text = some op) : (Lexeme.term text).Proper := by
  have hall : (Symbol.functions.all fun entry =>
      !entry.1.isEmpty && entry.1.all isTermChar) = true := rfl
  obtain ⟨before, after, hfunctions, _⟩ := List.lookup_eq_some_iff.1 h
  have hmem : (text, op) ∈ Symbol.functions := by rw [hfunctions]; simp
  have hentry := List.all_eq_true.1 hall (text, op) hmem
  rw [Bool.and_eq_true] at hentry
  exact ⟨by simpa using hentry.1, List.all_eq_true.1 hentry.2⟩

/-- A term that means something is a row of the characters of terms, unless it is a
variable that is none. -/
theorem Vocabulary.proper_of_meaning? {vocabulary : Vocabulary} {term : Text}
    {meaning : Meaning} (hname : term ∈ vocabulary.names → (Lexeme.term term).Proper)
    (h : vocabulary.meaning? term = some meaning) : (Lexeme.term term).Proper := by
  unfold meaning? at h
  split at h
  · rename_i value hvalue
    exact Number.proper_of_numeral? hvalue
  · split at h
    · rename_i c hc
      exact Symbol.proper_of_constant? hc
    · split at h
      · rename_i hmem
        exact hname hmem
      · obtain ⟨op, hop, _⟩ := Option.map_eq_some_iff.1 h
        exact Symbol.proper_of_function? hop

namespace Derives

variable {vocabulary : Vocabulary} {admits : Operation → Nat → Prop} {part : Part}
  {lexemes : List Lexeme} {elements : List Element}

/-- A phrase of one level is a phrase of every lower one. -/
theorem lower {level level' : Nat} (hle : level ≤ level') (htop : level' ≤ topLevel)
    (d : Derives vocabulary admits (.phrase level') lexemes elements) :
    Derives vocabulary admits (.phrase level) lexemes elements := by
  induction level' with
  | zero =>
      rw [Nat.le_zero.1 hle]
      exact d
  | succ level' ih =>
      rcases Nat.lt_or_eq_of_le hle with hlt | rfl
      · exact ih (Nat.le_of_lt_succ hlt) (Nat.le_of_succ_le htop) (.lift htop d)
      · exact d

/-- There is no call without arguments. -/
theorem one_le_count {count : Nat}
    (d : Derives vocabulary admits (.arguments count) lexemes elements) : 1 ≤ count := by
  cases d with
  | lastArgument _ => exact Nat.le_refl 1
  | moreArguments _ _ => exact Nat.succ_pos _

/-- Every lexeme of a phrase is known. -/
theorem knows (d : Derives vocabulary admits part lexemes elements) :
    ∀ lexeme ∈ lexemes, vocabulary.Knows lexeme := by
  induction d with
  | operand hm =>
      rw [List.forall_mem_singleton, Vocabulary.Knows, Vocabulary.meaning?_eq_some_iff.2 hm]
      rfl
  | group _ ih =>
      rw [List.cons_append, List.forall_mem_cons, List.forall_mem_append,
        List.forall_mem_singleton]
      exact ⟨rfl, ih, rfl⟩
  | call hm _ _ ih =>
      rw [List.cons_append, List.cons_append, List.forall_mem_cons, List.forall_mem_cons,
        List.forall_mem_append, List.forall_mem_singleton]
      refine ⟨?_, rfl, ih, rfl⟩
      rw [Vocabulary.Knows, Vocabulary.meaning?_eq_some_iff.2 hm]
      rfl
  | unary hu _ ih =>
      rw [List.forall_mem_cons]
      exact ⟨Symbol.isKnown_of_unary (Symbol.unary?_eq_some_iff.2 hu), ih⟩
  | binary hb _ _ ihLeft ihRight =>
      rw [List.forall_mem_append, List.forall_mem_cons]
      exact ⟨ihLeft, Symbol.isKnown_of_binary (Symbol.binary?_eq_some_iff.2 hb), ihRight⟩
  | lift _ _ ih => exact ih
  | lastArgument _ ih => exact ih
  | moreArguments _ _ ihFirst ihLater =>
      rw [List.forall_mem_append, List.forall_mem_cons]
      exact ⟨ihFirst, rfl, ihLater⟩

/-- The lexemes of a phrase can be told from the characters around them, if its variables
are rows of the characters of terms. -/
theorem proper (d : Derives vocabulary admits part lexemes elements)
    (hnames : ∀ name ∈ vocabulary.names, .term name ∈ lexemes → (Lexeme.term name).Proper) :
    ∀ lexeme ∈ lexemes, lexeme.Proper := by
  intro lexeme hmem
  have hknows := d.knows lexeme hmem
  cases lexeme with
  | symbol c => exact Symbol.not_isTermChar_of_isKnown hknows
  | term term =>
      obtain ⟨meaning, hmeaning⟩ := Option.isSome_iff_exists.1 hknows
      exact Vocabulary.proper_of_meaning? (fun hname => hnames term hname hmem) hmeaning

/-- A symbol keeps what is in front of it apart from what is behind it. -/
theorem apart_around {first second : List Lexeme} (c : Char)
    (hfirst : first.IsChain Lexeme.Apart) (hsecond : second.IsChain Lexeme.Apart) :
    (first ++ .symbol c :: second).IsChain Lexeme.Apart := by
  refine hfirst.append (List.isChain_cons.2 ⟨fun _ _ => .inl rfl, hsecond⟩) ?_
  intro last _ next hnext
  cases hnext
  exact .inr rfl

/-- No two terms of a phrase follow each other. -/
theorem apart (d : Derives vocabulary admits part lexemes elements) :
    lexemes.IsChain Lexeme.Apart := by
  induction d with
  | operand _ => exact List.isChain_singleton _
  | group _ ih => exact apart_around ')' (apart_around '(' .nil ih) .nil
  | @call name _ _ _ _ _ _ _ ih =>
      have hopened := apart_around '(' (List.isChain_singleton (.term name)) ih
      rw [List.singleton_append] at hopened
      exact apart_around ')' hopened .nil
  | @unary c _ _ _ _ _ ih => exact apart_around c .nil ih
  | @binary c _ _ _ _ _ _ _ _ _ ihLeft ihRight => exact apart_around c ihLeft ihRight
  | lift _ _ ih => exact ih
  | lastArgument _ ih => exact ih
  | moreArguments _ _ ihFirst ihLater => exact apart_around ',' ihFirst ihLater

end Derives

end Formula
