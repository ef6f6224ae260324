import Formula.Token

/-!
# Reading tokens one at a time

A cursor is a source and a position in it. Reading takes the token that begins at
the first character from the position on that is not blank, and leaves the cursor
behind it and behind the blanks that follow. So a cursor that has been read from,
or asked whether it is at the end, never rests on a blank.

Nothing else is remembered: what a cursor answers depends on its source and its
position alone.
-/

namespace Formula

/-- A position in a source, from which tokens are read. It may lie behind the end,
where no token is left. -/
structure Cursor where
  source : Text
  position : Nat := 0
  deriving DecidableEq

namespace Cursor

/-- What has not been read yet. -/
def rest (cursor : Cursor) : Text := cursor.source.drop cursor.position

/-- The cursor `count` characters further on. -/
def advance (cursor : Cursor) (count : Nat) : Cursor :=
  { cursor with position := cursor.position + count }

/-- The cursor behind the blanks at its position. -/
def skipBlanks (cursor : Cursor) : Cursor :=
  cursor.advance (cursor.rest.takeWhile isBlank).length

@[simp] theorem source_skipBlanks (cursor : Cursor) :
    cursor.skipBlanks.source = cursor.source := rfl

/-- Skipping blanks drops exactly the blanks that come next. -/
theorem rest_skipBlanks (cursor : Cursor) :
    cursor.skipBlanks.rest = cursor.rest.dropWhile isBlank := by
  have hdrop (text : Text) :
      text.drop (text.takeWhile isBlank).length = text.dropWhile isBlank := by
    induction text with
    | nil => rfl
    | cons c text ih => by_cases hc : isBlank c <;> simp [hc, ih]
  simp only [skipBlanks, rest, advance, ← List.drop_drop]
  exact hdrop _

/-- A cursor that has skipped blanks has none to skip. -/
theorem skipBlanks_skipBlanks (cursor : Cursor) :
    cursor.skipBlanks.skipBlanks = cursor.skipBlanks := by
  have hnone : cursor.skipBlanks.rest.takeWhile isBlank = [] := by
    rw [rest_skipBlanks]
    cases h : cursor.rest.dropWhile isBlank with
    | nil => rfl
    | cons c rest =>
      have hc := List.head?_dropWhile_not isBlank cursor.rest
      simp [h] at hc
      simp [hc]
  show cursor.skipBlanks.advance (cursor.skipBlanks.rest.takeWhile isBlank).length = _
  rw [hnone]
  rfl

/-- Whether only blanks are left. -/
def atEnd (cursor : Cursor) : Bool := cursor.skipBlanks.rest.isEmpty

/-- The lexeme that begins with `c` and goes on into `rest`. A symbol of the language is
looked for first. -/
def lexemeAt (c : Char) (rest : Text) : Lexeme :=
  if Symbol.isKnown c || !isTermChar c then .symbol c
  else .term (c :: rest.takeWhile isTermChar)

/-- No symbol of the language is part of a term, so it need not be looked for. -/
theorem lexemeAt_eq (c : Char) (rest : Text) :
    lexemeAt c rest =
      if isTermChar c then .term (c :: rest.takeWhile isTermChar) else .symbol c := by
  unfold lexemeAt
  cases hterm : isTermChar c with
  | false => rw [Bool.not_false, Bool.or_true]; rfl
  | true =>
    have hunknown : Symbol.isKnown c = false := by
      cases hknown : Symbol.isKnown c with
      | false => rfl
      | true =>
        rw [(Symbol.not_isTermChar_of_isKnown hknown).1] at hterm
        cases hterm
    rw [hunknown]
    rfl

/-- Reads the token that begins at the position, if there is one, and gives the
cursor behind it and behind the blanks that follow. -/
def readHere (cursor : Cursor) : Option Token × Cursor :=
  match cursor.rest with
  | [] => (none, cursor)
  | c :: rest =>
    (some ⟨lexemeAt c rest, cursor.position⟩,
      (cursor.advance (lexemeAt c rest).text.length).skipBlanks)

/-- Reads the next token, if there is one, and gives the cursor behind it. -/
def read (cursor : Cursor) : Option Token × Cursor := cursor.skipBlanks.readHere

/-- Reading never changes the source. -/
theorem source_read (cursor : Cursor) : cursor.read.2.source = cursor.source := by
  unfold read readHere
  split <;> rfl

/-- There is a token to read exactly when the cursor is not at the end. -/
theorem isSome_read (cursor : Cursor) : cursor.read.1.isSome = !cursor.atEnd := by
  unfold read readHere atEnd
  split <;> simp_all

end Cursor

end Formula
