import Formula.Token.Cursor
import Formula.Proofs.Token.Spelling

/-!
# Reading a text from the left

Tokens are cut from the right: a character joins the token behind it.  A reader goes from
the left.  A text is blank, or it *begins* with a lexeme: behind some blanks comes a lexeme,
and behind that something which cannot go on with it.  A text begins in one way only, and
what it begins with is its first token.

The two directions meet here.  `tokensFrom_induction` is the one induction from the left;
whatever is shown of a text token by token is shown with it.  A cursor reads what its rest
begins with, so what it has not read yet are the tokens of its rest.

## Main results

* `Begins.tokensFrom_eq`: the first token of a text is what the text begins with.
* `tokensFrom_induction`: induction over the tokens of a text, from the left.
* `Begins.unique`: a text begins in one way only.
* `Cursor.unread_read`: reading takes the first of the unread tokens.
* `Cursor.gives_iff`: reading on to the end gives the unread tokens, and nothing else.
-/

namespace Formula

/-! ## What a text begins with -/

/-- `Begins text before lexeme after` says that the text is some blanks, a lexeme and a rest
that cannot go on with the lexeme. -/
structure Begins (text before : Text) (lexeme : Lexeme) (after : Text) : Prop where
  text_eq : text = before ++ (lexeme.text ++ after)
  blank : ∀ c ∈ before, isBlank c = true
  proper : lexeme.Proper
  ends : lexeme.isTerm = true → ∀ c ∈ after.head?, isTermChar c = false

theorem isBlank_of_isTermChar {c : Char} (h : isTermChar c = true) : isBlank c = false := by
  have hnot := not_isBlank_of_isTermChar h
  simpa using hnot

namespace Lexeme.Proper

variable {lexeme : Lexeme}

theorem text_ne_nil (h : lexeme.Proper) : lexeme.text ≠ [] := by
  cases lexeme with
  | symbol c => simp [Lexeme.text]
  | term text => exact h.1

theorem length_pos (h : lexeme.Proper) : 0 < lexeme.text.length :=
  List.length_pos_of_ne_nil h.text_ne_nil

/-- No character of a lexeme is blank. -/
theorem isBlank_eq_false (h : lexeme.Proper) {c : Char} (hc : c ∈ lexeme.text) :
    isBlank c = false := by
  cases lexeme with
  | symbol d =>
      have hd : c = d := by simpa [Lexeme.text] using hc
      rw [hd]
      exact h.2
  | term text => exact isBlank_of_isTermChar (h.2 c hc)

/-- Every character of a lexeme has the kind of the lexeme. -/
theorem isTermChar_eq (h : lexeme.Proper) {c : Char} (hc : c ∈ lexeme.text) :
    isTermChar c = lexeme.isTerm := by
  cases lexeme with
  | symbol d =>
      rw [List.mem_singleton.1 hc]
      exact h.1
  | term text => exact h.2 c hc

end Lexeme.Proper

theorem takeWhile_of_head {test : Char → Bool} {text : Text}
    (hhead : ∀ c ∈ text.head?, test c = false) : text.takeWhile test = [] := by
  cases text with
  | nil => rfl
  | cons c text =>
      have hc : test c = false := hhead c rfl
      simp [hc]

theorem dropWhile_of_head {test : Char → Bool} {text : Text}
    (hhead : ∀ c ∈ text.head?, test c = false) : text.dropWhile test = text := by
  cases text with
  | nil => rfl
  | cons c text =>
      have hc : test c = false := hhead c rfl
      simp [hc]

theorem head_dropWhile (test : Char → Bool) (text : Text) :
    ∀ c ∈ (text.dropWhile test).head?, test c = false := by
  intro c hc
  have hnot := List.head?_dropWhile_not test text
  rw [Option.mem_def.1 hc] at hnot
  simpa using hnot

theorem dropWhile_of_blank {text : Text} (h : ∀ c ∈ text, isBlank c = true) :
    text.dropWhile isBlank = [] := by
  have hnone : (text ++ []).dropWhile isBlank = ([] : Text).dropWhile isBlank :=
    List.dropWhile_append_of_pos h
  rwa [List.append_nil] at hnone

/-- A text is blank, or it begins with a lexeme. -/
theorem blank_or_begins (text : Text) :
    (∀ c ∈ text, isBlank c = true) ∨
      ∃ before lexeme after, Begins text before lexeme after := by
  have hsplit : text.takeWhile isBlank ++ text.dropWhile isBlank = text :=
    List.takeWhile_append_dropWhile
  have hblank : ∀ c ∈ text.takeWhile isBlank, isBlank c = true :=
    fun c hc => List.all_eq_true.1 List.all_takeWhile c hc
  have hfirst := head_dropWhile isBlank text
  cases hrest : text.dropWhile isBlank with
  | nil =>
      left
      rw [hrest, List.append_nil] at hsplit
      rwa [hsplit] at hblank
  | cons c rest =>
      right
      rw [hrest] at hsplit hfirst
      have hc : isBlank c = false := hfirst c rfl
      by_cases hterm : isTermChar c = true
      · refine ⟨text.takeWhile isBlank, .term (c :: rest.takeWhile isTermChar),
          rest.dropWhile isTermChar, ?_, hblank, ⟨by simp, ?_⟩, ?_⟩
        · show text = text.takeWhile isBlank ++
            (c :: (rest.takeWhile isTermChar ++ rest.dropWhile isTermChar))
          rw [List.takeWhile_append_dropWhile, hsplit]
        · intro d hd
          rcases List.mem_cons.1 hd with rfl | hd
          · exact hterm
          · exact List.all_eq_true.1 List.all_takeWhile d hd
        · intro _
          exact head_dropWhile isTermChar rest
      · refine ⟨text.takeWhile isBlank, .symbol c, rest, ?_, hblank,
          ⟨by simpa using hterm, hc⟩, ?_⟩
        · exact hsplit.symm
        · intro hsymbol
          cases hsymbol

namespace Begins

variable {text before after : Text} {lexeme : Lexeme}

/-- What is left behind the blanks is the lexeme as it would be read there. -/
theorem exists_head (h : Begins text before lexeme after) :
    ∃ c rest, lexeme.text ++ after = c :: rest ∧ isBlank c = false ∧
      Cursor.lexemeAt c rest = lexeme := by
  have hproper := h.proper
  cases lexeme with
  | symbol c =>
      refine ⟨c, after, rfl, hproper.2, ?_⟩
      rw [Cursor.lexemeAt_eq, hproper.1]
      rfl
  | term term =>
      cases term with
      | nil => exact absurd rfl hproper.1
      | cons c term =>
          have hc : isTermChar c = true := hproper.2 c (by simp)
          have hall : ∀ d ∈ term, isTermChar d = true := by
            intro d hd
            exact hproper.2 d (by simp [hd])
          refine ⟨c, term ++ after, rfl, isBlank_of_isTermChar hc, ?_⟩
          rw [Cursor.lexemeAt_eq, if_pos hc, List.takeWhile_append_of_pos hall,
            takeWhile_of_head (h.ends rfl), List.append_nil]

theorem dropWhile_eq (h : Begins text before lexeme after) :
    text.dropWhile isBlank = lexeme.text ++ after := by
  obtain ⟨c, rest, hrest, hc, _⟩ := h.exists_head
  rw [h.text_eq, List.dropWhile_append_of_pos h.blank, hrest]
  simp [hc]

theorem takeWhile_eq (h : Begins text before lexeme after) :
    text.takeWhile isBlank = before := by
  obtain ⟨c, rest, hrest, hc, _⟩ := h.exists_head
  rw [h.text_eq, List.takeWhile_append_of_pos h.blank, hrest]
  simp [hc]

/-- A text begins in one way only. -/
theorem unique {before' after' : Text} {lexeme' : Lexeme}
    (h : Begins text before lexeme after) (h' : Begins text before' lexeme' after') :
    before = before' ∧ lexeme = lexeme' ∧ after = after' := by
  have hbefore : before = before' := h.takeWhile_eq.symm.trans h'.takeWhile_eq
  have hrest : lexeme.text ++ after = lexeme'.text ++ after' :=
    h.dropWhile_eq.symm.trans h'.dropWhile_eq
  have hlexeme : lexeme = lexeme' := by
    obtain ⟨c, rest, hhead, _, hread⟩ := h.exists_head
    obtain ⟨c', rest', hhead', _, hread'⟩ := h'.exists_head
    rw [hhead, hhead'] at hrest
    cases hrest
    rw [← hread, ← hread']
  subst hlexeme
  exact ⟨hbefore, rfl, List.append_cancel_left hrest⟩

/-- The first token of a text is what the text begins with. -/
theorem tokensFrom_eq (h : Begins text before lexeme after) (position : Nat) :
    tokensFrom position text =
      ⟨lexeme, position + before.length⟩ ::
        tokensFrom (position + before.length + lexeme.text.length) after := by
  rw [h.text_eq, tokensFrom_blanks h.blank]
  cases lexeme with
  | symbol c => exact tokensFrom_symbol h.proper _ after
  | term term => exact tokensFrom_term h.proper _ (h.ends rfl)

theorem length_eq (h : Begins text before lexeme after) :
    text.length = before.length + (lexeme.text.length + after.length) := by
  rw [h.text_eq, List.length_append, List.length_append]

end Begins

theorem tokensFrom_of_blank {text : Text} (hblank : ∀ c ∈ text, isBlank c = true)
    (position : Nat) : tokensFrom position text = [] := by
  have hnone := tokensFrom_blanks hblank position []
  rwa [List.append_nil] at hnone

/-- Induction over the tokens of a text, from the left: what holds of a blank text, and of a
text that begins with a lexeme if it holds of the rest, holds of every text. -/
theorem tokensFrom_induction {motive : Nat → Text → List Token → Prop}
    (blank : ∀ {position : Nat} {text : Text}, (∀ c ∈ text, isBlank c = true) →
      motive position text [])
    (token : ∀ {position : Nat} {text before after : Text} {lexeme : Lexeme}
      {later : List Token}, Begins text before lexeme after →
      motive (position + before.length + lexeme.text.length) after later →
      motive position text (⟨lexeme, position + before.length⟩ :: later))
    (position : Nat) (text : Text) : motive position text (tokensFrom position text) := by
  induction hlength : text.length using Nat.strong_induction_on generalizing position text with
  | _ length ih =>
      rcases blank_or_begins text with hblank | ⟨before, lexeme, after, hbegins⟩
      · rw [tokensFrom_of_blank hblank]
        exact blank hblank
      · rw [hbegins.tokensFrom_eq]
        apply token hbegins
        have hpositive := hbegins.proper.length_pos
        have htotal := hbegins.length_eq
        exact ih after.length (by omega) _ after rfl

/-! ## Lexemes of a text -/

/-- What the lexemes of a text are does not depend on where the text stands. -/
theorem map_lexeme_tokensFrom_eq (position place : Nat) (text : Text) :
    (tokensFrom place text).map Token.lexeme = (tokensFrom position text).map Token.lexeme := by
  refine tokensFrom_induction (motive := fun _ text cut =>
    ∀ place, (tokensFrom place text).map Token.lexeme = cut.map Token.lexeme) ?_ ?_
    position text place
  · intro _ text hblank place
    rw [tokensFrom_of_blank hblank]
  · intro _ text before after lexeme later hbegins ih place
    rw [hbegins.tokensFrom_eq, List.map_cons, List.map_cons, ih]

/-- A text has no more tokens than characters. -/
theorem length_tokensFrom_le (position : Nat) (text : Text) :
    (tokensFrom position text).length ≤ text.length := by
  refine tokensFrom_induction (motive := fun _ text cut => cut.length ≤ text.length) ?_ ?_
    position text
  · intro _ text _
    exact Nat.zero_le _
  · intro _ text before after lexeme later hbegins ih
    have hpositive := hbegins.proper.length_pos
    have htotal := hbegins.length_eq
    rw [List.length_cons]
    omega

/-! ## A cursor and the tokens that it has not read -/

namespace Cursor

variable {cursor : Cursor}

/-- The tokens that a cursor has not read. -/
def unread (cursor : Cursor) : List Token := tokensFrom cursor.position cursor.rest

theorem rest_advance (cursor : Cursor) (count : Nat) :
    (cursor.advance count).rest = cursor.rest.drop count := by
  rw [rest, rest, advance, List.drop_drop]

/-- Blanks hide no token. -/
theorem unread_skipBlanks (cursor : Cursor) : cursor.skipBlanks.unread = cursor.unread := by
  have hblank : ∀ c ∈ cursor.rest.takeWhile isBlank, isBlank c = true :=
    fun c hc => List.all_eq_true.1 List.all_takeWhile c hc
  have hskip := tokensFrom_blanks hblank cursor.position (cursor.rest.dropWhile isBlank)
  rw [List.takeWhile_append_dropWhile] at hskip
  rw [unread, rest_skipBlanks, unread, hskip]
  rfl

theorem read_skipBlanks (cursor : Cursor) : cursor.skipBlanks.read = cursor.read := by
  rw [read, skipBlanks_skipBlanks, read]

/-- Where only blanks are left, nothing is read. -/
theorem read_of_blank (h : ∀ c ∈ cursor.rest, isBlank c = true) :
    cursor.read = (none, cursor.skipBlanks) := by
  have hrest : cursor.skipBlanks.rest = [] := by
    rw [rest_skipBlanks, dropWhile_of_blank h]
  rw [read, readHere, hrest]

/-- A cursor reads what its rest begins with, and skips the blanks behind it. -/
theorem read_of_begins {before after : Text} {lexeme : Lexeme}
    (h : Begins cursor.rest before lexeme after) :
    cursor.read = (some ⟨lexeme, cursor.position + before.length⟩,
      (cursor.advance (before.length + lexeme.text.length)).skipBlanks) := by
  have hskip : cursor.skipBlanks = cursor.advance before.length := by
    rw [skipBlanks, h.takeWhile_eq]
  obtain ⟨c, rest, hrest, _, hlexeme⟩ := h.exists_head
  have hbehind : cursor.skipBlanks.rest = c :: rest := by
    rw [rest_skipBlanks, h.dropWhile_eq, hrest]
  rw [read, readHere, hbehind, hskip]
  simp only [hlexeme, advance, Nat.add_assoc]

/-- Behind the lexeme that its rest begins with, a cursor has the rest of that. -/
theorem rest_of_begins {before after : Text} {lexeme : Lexeme}
    (h : Begins cursor.rest before lexeme after) :
    (cursor.advance (before.length + lexeme.text.length)).rest = after := by
  rw [rest_advance, h.text_eq, ← List.append_assoc, ← List.length_append, List.drop_left]

/-- Reading takes the first of the unread tokens. -/
theorem unread_read (cursor : Cursor) :
    cursor.read.1 = cursor.unread.head? ∧ cursor.read.2.unread = cursor.unread.tail := by
  rcases blank_or_begins cursor.rest with hblank | ⟨before, lexeme, after, hbegins⟩
  · have hnone : cursor.unread = [] := tokensFrom_of_blank hblank _
    rw [read_of_blank hblank, hnone]
    exact ⟨rfl, (unread_skipBlanks cursor).trans hnone⟩
  · have hsome : cursor.unread = ⟨lexeme, cursor.position + before.length⟩ ::
        tokensFrom (cursor.position + before.length + lexeme.text.length) after :=
      hbegins.tokensFrom_eq cursor.position
    rw [read_of_begins hbegins, hsome]
    refine ⟨rfl, ?_⟩
    show Cursor.unread (cursor.advance (before.length + lexeme.text.length)).skipBlanks = _
    rw [unread_skipBlanks, unread, rest_of_begins hbegins, List.tail_cons]
    show tokensFrom (cursor.position + (before.length + lexeme.text.length)) after = _
    rw [Nat.add_assoc]

/-- A cursor is at the end if it has read every token. -/
theorem atEnd_iff (cursor : Cursor) : cursor.atEnd = true ↔ cursor.unread = [] := by
  have hread := isSome_read cursor
  rw [(unread_read cursor).1] at hread
  cases hunread : cursor.unread with
  | nil =>
      rw [hunread] at hread
      simpa using hread
  | cons token later =>
      rw [hunread] at hread
      simpa using hread

/-- `cursor.Gives tokens` says that asking whether the cursor is at the end, and reading on
while it is not, comes to an end and gives the tokens. -/
inductive Gives : Cursor → List Token → Prop where
  | nothing {cursor : Cursor} : cursor.atEnd = true → Gives cursor []
  | token {cursor next : Cursor} {token : Token} {later : List Token} :
    cursor.atEnd = false → cursor.skipBlanks.read = (some token, next) →
    Gives next later → Gives cursor (token :: later)

/-- Reading on gives the unread tokens. -/
theorem gives_unread {tokens : List Token} (h : cursor.unread = tokens) :
    cursor.Gives tokens := by
  induction tokens generalizing cursor with
  | nil => exact .nothing ((atEnd_iff cursor).2 h)
  | cons token later ih =>
      obtain ⟨hfirst, hlater⟩ := unread_read cursor
      rw [h] at hfirst hlater
      have hmore : cursor.atEnd = false := by
        cases hend : cursor.atEnd with
        | false => rfl
        | true =>
            rw [(atEnd_iff cursor).1 hend] at h
            cases h
      refine .token hmore ?_ (ih hlater)
      rw [read_skipBlanks]
      exact Prod.ext hfirst rfl

/-- Reading on gives nothing else. -/
theorem Gives.unread_eq {tokens : List Token} (h : cursor.Gives tokens) :
    cursor.unread = tokens := by
  induction h with
  | nothing hend => exact (atEnd_iff _).1 hend
  | @token cursor next token later _ hread _ ih =>
      obtain ⟨hfirst, hlater⟩ := unread_read cursor
      rw [read_skipBlanks] at hread
      rw [hread] at hfirst hlater
      have hunread := List.head?_eq_some_iff.1 hfirst.symm
      obtain ⟨rest, hrest⟩ := hunread
      rw [hrest] at hlater ⊢
      rw [← ih, hlater, List.tail_cons]

theorem gives_iff (cursor : Cursor) (tokens : List Token) :
    cursor.Gives tokens ↔ tokens = cursor.unread := by
  constructor
  · intro h
    exact h.unread_eq.symm
  · intro h
    exact gives_unread h.symm

end Cursor

end Formula
