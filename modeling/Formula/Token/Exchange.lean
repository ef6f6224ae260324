import Formula.Error
import Formula.Token.Cursor

/-!
# Questions to a cursor

A cursor is asked one thing after another by whatever reads a source, in any order and any
number of times: for the next token, whether it is at the end, where it stands and what
it reads. Only the first can fail, where no token is left.

Two of the questions move the cursor. Asking for a token takes it behind the token; asking
whether it is at the end takes it over blanks, so the position may be another one
afterwards, but the next token is the same.
-/

namespace Formula.Cursor

/-- A question to a cursor. -/
inductive Query where
  /-- The next token, which is read. -/
  | token
  /-- Whether only blanks are left. They are skipped. -/
  | atEnd
  | position
  | source
  deriving DecidableEq

/-- What a cursor answers. -/
inductive Reply where
  | token (token : Token)
  | atEnd (atEnd : Bool)
  | position (position : Nat)
  | source (source : Text)
  deriving DecidableEq

/-- Reads the next token, or fails where none is left. -/
def next (cursor : Cursor) : Except ExpressionError Token × Cursor :=
  match cursor.read with
  | (some token, behind) => (.ok token, behind)
  | (none, behind) => (.error (.endOfInput behind.position behind.source), behind)

/-- Answers a question, and gives the cursor as it is then. -/
def ask (cursor : Cursor) : Query → Except ExpressionError Reply × Cursor
  | .token => (cursor.next.1.map .token, cursor.next.2)
  | .atEnd => (.ok (.atEnd cursor.atEnd), cursor.skipBlanks)
  | .position => (.ok (.position cursor.position), cursor)
  | .source => (.ok (.source cursor.source), cursor)

/-- A question with its answer, and the cursor before and behind it. -/
structure Exchange where
  before : Cursor
  query : Query
  reply : Except ExpressionError Reply
  behind : Cursor

/-- The exchange that a question makes. -/
def exchange (cursor : Cursor) (query : Query) : Exchange :=
  ⟨cursor, query, (cursor.ask query).1, (cursor.ask query).2⟩

/-- The exchanges that some questions make, one behind the other. -/
def exchanges (cursor : Cursor) : List Query → List Exchange
  | [] => []
  | query :: queries =>
    cursor.exchange query :: (cursor.exchange query).behind.exchanges queries

end Formula.Cursor
