import Formula.Token.Exchange
import Formula.Proofs.Outcome
import Formula.Proofs.Token.Reading
import Mathlib.Data.List.TakeWhile

/-!
# A cursor in use

A cursor may be asked for tokens and for other things in any order, so what it answers is
told by the history of the questions.  Of that history one number matters: how many tokens
have been asked for.  It says which token comes next, and whether one does; no other
question changes it, though asking for the end moves the cursor.

Three things about a cursor are carried through its use: its source, the tokens it has not
read, and the place where it will stop.  That place is the end of the source, or where the
cursor began if that is behind the end, and no question moves it.

## Main results

* `tokensFrom_add`: the tokens of a text move with the text.
* `Cursor.reached_ask`: what a question does to a cursor that has given some tokens.
* `Cursor.lawful_exchange`: what is answered then.
* `Cursor.filterMap_token_exchanges`: the tokens that a cursor gives to any questions.
* `Cursor.exchanges_lawful`: what any questions, from any place on, are answered.
-/

namespace Formula

open Outcome

/-! ## Tokens that are counted from another place -/

/-- A token in a text that stands behind `offset` characters. -/
def Token.shift (offset : Nat) (token : Token) : Token :=
  { token with position := offset + token.position }

/-- The tokens of a text move with the text. -/
theorem tokensFrom_add (offset position : Nat) (text : Text) :
    tokensFrom (offset + position) text =
      (tokensFrom position text).map (Token.shift offset) := by
  refine tokensFrom_induction (motive := fun position text cut =>
    tokensFrom (offset + position) text = cut.map (Token.shift offset)) ?_ ?_ position text
  · intro position text hblank
    rw [tokensFrom_of_blank hblank]
    rfl
  · intro position text before after lexeme later hbegins ih
    rw [hbegins.tokensFrom_eq, List.map_cons, ← ih]
    simp only [Token.shift, Nat.add_assoc]

/-- The tokens of a source from the place `start` on, where they stand in the source. -/
def tokensBehind (source : Text) (start : Nat) : List Token :=
  (tokens (source.drop start)).map (Token.shift start)

namespace Cursor

variable {cursor : Cursor} {source : Text} {start asked : Nat} {query : Query}

theorem unread_start (source : Text) (start : Nat) :
    (Cursor.mk source start).unread = tokensBehind source start := by
  have hshift := tokensFrom_add start 0 (source.drop start)
  rw [Nat.add_zero] at hshift
  exact hshift

/-! ## Where a cursor stops, and where it rests -/

/-- Where a cursor stands when it has read everything. -/
def finish (cursor : Cursor) : Nat := max cursor.position cursor.source.length

/-- A cursor rests at a character that is not blank, or at the end or behind it. -/
def Rests (cursor : Cursor) : Prop :=
  cursor.source.length ≤ cursor.position ∨
    ∃ c, cursor.source[cursor.position]? = some c ∧ isBlank c = false

/-- `Follows before behind` says that a cursor can go from one place to the other by reading. -/
structure Follows (before behind : Cursor) : Prop where
  source_eq : behind.source = before.source
  finish_eq : behind.finish = before.finish
  position_le : before.position ≤ behind.position

theorem Follows.refl (cursor : Cursor) : Follows cursor cursor := ⟨rfl, rfl, Nat.le_refl _⟩

theorem Follows.trans {first second third : Cursor} (h : Follows first second)
    (h' : Follows second third) : Follows first third :=
  ⟨h'.source_eq.trans h.source_eq, h'.finish_eq.trans h.finish_eq,
    Nat.le_trans h.position_le h'.position_le⟩

/-- Nothing that is left lies behind the end of the source. -/
theorem follows_advance {count : Nat} (h : count ≤ cursor.rest.length) :
    Follows cursor (cursor.advance count) := by
  refine ⟨rfl, ?_, Nat.le_add_right _ _⟩
  rw [rest, List.length_drop] at h
  show max (cursor.position + count) cursor.source.length =
    max cursor.position cursor.source.length
  omega

theorem follows_skipBlanks (cursor : Cursor) : Follows cursor cursor.skipBlanks :=
  follows_advance (List.takeWhile_prefix isBlank).length_le

/-- What a cursor rests at is what its rest begins with. -/
theorem rests_of_head (h : ∀ c ∈ cursor.rest.head?, isBlank c = false) : cursor.Rests := by
  rw [rest, List.head?_drop] at h
  by_cases hlength : cursor.source.length ≤ cursor.position
  · exact .inl hlength
  · have hinside : cursor.position < cursor.source.length := by omega
    have hc := List.getElem?_eq_getElem hinside
    exact .inr ⟨_, hc, h _ hc⟩

theorem rests_skipBlanks (cursor : Cursor) : cursor.skipBlanks.Rests := by
  apply rests_of_head
  rw [rest_skipBlanks]
  exact head_dropWhile isBlank cursor.rest

/-- Where nothing is left, the cursor has come to where it stops. -/
theorem position_of_rest (h : cursor.rest = []) : cursor.position = cursor.finish := by
  rw [rest, List.drop_eq_nil_iff] at h
  show cursor.position = max cursor.position cursor.source.length
  omega

/-! ## What a question does -/

/-- A cursor with nothing left to read comes to where it stops. -/
theorem position_skipBlanks (h : ∀ c ∈ cursor.rest, isBlank c = true) :
    cursor.skipBlanks.position = cursor.finish := by
  have hnone : cursor.skipBlanks.rest = [] := by
    rw [rest_skipBlanks, List.dropWhile_eq_nil_iff]
    exact h
  rw [position_of_rest hnone, (follows_skipBlanks cursor).finish_eq]

/-- It fails there. -/
theorem next_of_blank (h : ∀ c ∈ cursor.rest, isBlank c = true) :
    cursor.next = (.error (.endOfInput cursor.finish cursor.source), cursor.skipBlanks) := by
  rw [next, read_of_blank h, ← position_skipBlanks h]
  rfl

/-- Another cursor reads what its rest begins with. -/
theorem next_of_begins {before after : Text} {lexeme : Lexeme}
    (h : Begins cursor.rest before lexeme after) :
    cursor.next = (.ok ⟨lexeme, cursor.position + before.length⟩,
      (cursor.advance (before.length + lexeme.text.length)).skipBlanks) := by
  rw [next, read_of_begins h]

theorem next_snd (cursor : Cursor) : cursor.next.2 = cursor.read.2 := by
  unfold next
  split <;> rename_i hread <;> rw [hread]

theorem unread_next (cursor : Cursor) : cursor.next.2.unread = cursor.unread.tail := by
  rw [next_snd]
  exact (unread_read cursor).2

theorem follows_next (cursor : Cursor) : Follows cursor cursor.next.2 := by
  rcases blank_or_begins cursor.rest with hblank | ⟨before, lexeme, after, hbegins⟩
  · rw [next_of_blank hblank]
    exact follows_skipBlanks cursor
  · rw [next_of_begins hbegins]
    have hcount : before.length + lexeme.text.length ≤ cursor.rest.length := by
      have hlength := hbegins.length_eq
      omega
    exact (follows_advance hcount).trans (follows_skipBlanks _)

theorem rests_next (cursor : Cursor) : cursor.next.2.Rests := by
  rcases blank_or_begins cursor.rest with hblank | ⟨before, lexeme, after, hbegins⟩
  · rw [next_of_blank hblank]
    exact rests_skipBlanks cursor
  · rw [next_of_begins hbegins]
    exact rests_skipBlanks _

/-- The next token is the first one that has not been read, or there is none. -/
theorem next_fst (cursor : Cursor) :
    cursor.next.1 = match cursor.unread.head? with
      | some token => .ok token
      | none => .error (.endOfInput cursor.finish cursor.source) := by
  rcases blank_or_begins cursor.rest with hblank | ⟨before, lexeme, after, hbegins⟩
  · have hnone : cursor.unread = [] := tokensFrom_of_blank hblank _
    rw [next_of_blank hblank, hnone]
    rfl
  · rw [next_of_begins hbegins, unread, hbegins.tokensFrom_eq]
    rfl

/-- A token that is read is passed. -/
theorem position_next {token : Token} (h : cursor.next.1 = .ok token) :
    cursor.position + token.text.length ≤ cursor.next.2.position := by
  rcases blank_or_begins cursor.rest with hblank | ⟨before, lexeme, after, hbegins⟩
  · rw [next_of_blank hblank] at h
    cases h
  · rw [next_of_begins hbegins] at h ⊢
    cases h
    have hskip : cursor.position + (before.length + lexeme.text.length) ≤
        (cursor.advance (before.length + lexeme.text.length)).skipBlanks.position :=
      (follows_skipBlanks (cursor.advance _)).position_le
    show cursor.position + lexeme.text.length ≤
      (cursor.advance (before.length + lexeme.text.length)).skipBlanks.position
    omega

/-- A cursor that finds no token has come to where it stops. -/
theorem position_next_of_error {error : ExpressionError} (h : cursor.next.1 = .error error) :
    cursor.next.2.position = cursor.finish := by
  rcases blank_or_begins cursor.rest with hblank | ⟨before, lexeme, after, hbegins⟩
  · rw [next_of_blank hblank]
    exact position_skipBlanks hblank
  · rw [next_of_begins hbegins] at h
    cases h

/-- No question takes a cursor back, or changes where it stops. -/
theorem follows_ask (cursor : Cursor) (query : Query) : Follows cursor (cursor.ask query).2 := by
  cases query with
  | token => exact follows_next cursor
  | atEnd => exact follows_skipBlanks cursor
  | position => exact .refl cursor
  | source => exact .refl cursor

/-- Only a request for a token gives one. -/
theorem next_of_token {token : Token} (h : (cursor.ask query).1 = .ok (.token token)) :
    query = .token ∧ cursor.next.1 = .ok token := by
  cases query with
  | token =>
      obtain ⟨first, hfirst, hreply⟩ := exists_of_map h
      cases hreply
      exact ⟨rfl, hfirst⟩
  | _ => cases h

/-- Only a request for a token fails. -/
theorem next_of_error {error : ExpressionError} (h : (cursor.ask query).1 = .error error) :
    query = .token ∧ cursor.next.1 = .error error := by
  cases query with
  | token => exact ⟨rfl, eq_error_of_map h⟩
  | _ => cases h

/-- Only a token that is asked for is read. -/
theorem unread_ask (cursor : Cursor) (query : Query) :
    (cursor.ask query).2.unread = cursor.unread.drop ([query].count .token) := by
  cases query with
  | token => rw [ask, unread_next, ← List.drop_one]; rfl
  | atEnd => exact unread_skipBlanks cursor
  | position => rfl
  | source => rfl

/-! ## A cursor that has given some tokens -/

/-- A cursor that began at `start` and has been asked for a number of tokens. -/
structure Reached (source : Text) (start asked : Nat) (cursor : Cursor) : Prop where
  source_eq : cursor.source = source
  finish_eq : cursor.finish = max start source.length
  unread_eq : cursor.unread = (tokensBehind source start).drop asked

theorem reached_start (source : Text) (start : Nat) :
    Reached source start 0 (Cursor.mk source start) :=
  ⟨rfl, rfl, unread_start source start⟩

/-- What a question does to a cursor that has given some tokens. -/
theorem reached_ask (h : Reached source start asked cursor) (query : Query) :
    Reached source start (asked + [query].count .token) (cursor.ask query).2 := by
  have hfollows := follows_ask cursor query
  refine ⟨hfollows.source_eq.trans h.source_eq, hfollows.finish_eq.trans h.finish_eq, ?_⟩
  rw [unread_ask, h.unread_eq, List.drop_drop]

/-- What is answered to a question when some tokens have been asked for. -/
def lawfulReply (source : Text) (start asked position : Nat) :
    Query → Except ExpressionError Reply
  | .token =>
    match (tokensBehind source start)[asked]? with
    | some token => .ok (.token token)
    | none => .error (.endOfInput (max start source.length) source)
  | .atEnd => .ok (.atEnd (decide ((tokensBehind source start).length ≤ asked)))
  | .position => .ok (.position position)
  | .source => .ok (.source source)

/-- What an exchange is like when some tokens have been asked for. -/
structure Exchange.Lawful (source : Text) (start asked : Nat) (exchange : Exchange) : Prop where
  reply_eq : exchange.reply =
    lawfulReply source start asked exchange.before.position exchange.query
  source_eq : exchange.behind.source = source
  never_back : exchange.before.position ≤ exchange.behind.position
  past_token : ∀ token, exchange.reply = .ok (.token token) →
    exchange.before.position + token.text.length ≤ exchange.behind.position
  at_finish : ∀ error, exchange.reply = .error error →
    exchange.behind.position = max start source.length
  rests : exchange.query = .token ∨ exchange.query = .atEnd → exchange.behind.Rests
  stays : exchange.query = .position ∨ exchange.query = .source →
    exchange.behind = exchange.before

theorem reply_exchange (h : Reached source start asked cursor) (query : Query) :
    (cursor.ask query).1 = lawfulReply source start asked cursor.position query := by
  cases query with
  | token =>
      show cursor.next.1.map Reply.token = _
      rw [next_fst, h.unread_eq, h.finish_eq, h.source_eq, List.head?_drop, lawfulReply]
      cases (tokensBehind source start)[asked]? <;> rfl
  | atEnd =>
      have hend : cursor.atEnd = decide ((tokensBehind source start).length ≤ asked) := by
        rw [Bool.eq_iff_iff, atEnd_iff, h.unread_eq, List.drop_eq_nil_iff, decide_eq_true_iff]
      rw [ask, hend, lawfulReply]
  | position => rfl
  | source => rw [ask, h.source_eq, lawfulReply]

/-- What is answered by a cursor that has given some tokens. -/
theorem lawful_exchange (h : Reached source start asked cursor) (query : Query) :
    (cursor.exchange query).Lawful source start asked := by
  have hbehind := reached_ask h query
  refine ⟨reply_exchange h query, hbehind.source_eq, (follows_ask cursor query).position_le,
    ?_, ?_, ?_, ?_⟩
  · intro token hreply
    obtain ⟨rfl, hnext⟩ := next_of_token hreply
    exact position_next hnext
  · intro error hreply
    obtain ⟨rfl, hnext⟩ := next_of_error hreply
    rw [← h.finish_eq]
    exact position_next_of_error hnext
  · rintro (hquery | hquery)
    · cases hquery
      exact rests_next cursor
    · cases hquery
      exact rests_skipBlanks cursor
  · rintro (hquery | hquery)
    · cases hquery
      rfl
    · cases hquery
      rfl

/-! ## Any questions -/

/-- The token that an exchange has given. -/
def Exchange.token? (exchange : Exchange) : Option Token :=
  match exchange.reply with
  | .ok (.token token) => some token
  | _ => none

theorem count_token_cons (query : Query) (queries : List Query) :
    (query :: queries).count .token = [query].count .token + queries.count .token := by
  rw [← List.singleton_append, List.count_append]

theorem map_query_exchanges (cursor : Cursor) (queries : List Query) :
    (cursor.exchanges queries).map Exchange.query = queries := by
  induction queries generalizing cursor with
  | nil => rfl
  | cons query queries ih =>
      rw [exchanges, List.map_cons, ih]
      rfl

/-- An exchange gives the first of the unread tokens if it is asked for, and else none. -/
theorem token?_exchange (cursor : Cursor) (query : Query) :
    (cursor.exchange query).token?.toList = cursor.unread.take ([query].count .token) := by
  cases query with
  | token =>
      have hreply : (cursor.exchange .token).reply = cursor.next.1.map .token := rfl
      rw [Exchange.token?, hreply, next_fst]
      cases cursor.unread with
      | nil => rfl
      | cons token later => rfl
  | atEnd => rfl
  | position => rfl
  | source => rfl

/-- The tokens that a cursor gives are the first ones that it has not read, as many as are
asked for. -/
theorem filterMap_token_exchanges (cursor : Cursor) (queries : List Query) :
    (cursor.exchanges queries).filterMap Exchange.token? =
      cursor.unread.take (queries.count .token) := by
  induction queries generalizing cursor with
  | nil => rw [List.count_nil, List.take_zero]; rfl
  | cons query queries ih =>
      have hlater := ih (cursor.exchange query).behind
      have hbehind : (cursor.exchange query).behind.unread =
          cursor.unread.drop ([query].count .token) := unread_ask cursor query
      rw [hbehind] at hlater
      rw [exchanges, count_token_cons, List.take_add, ← token?_exchange, ← hlater]
      cases htoken : (cursor.exchange query).token? with
      | none => rw [List.filterMap_cons_none htoken]; rfl
      | some token => rw [List.filterMap_cons_some htoken]; rfl

/-- A cursor never goes back. -/
theorem pairwise_position_exchanges (cursor : Cursor) (queries : List Query) :
    (cursor.position :: (cursor.exchanges queries).map (·.behind.position)).Pairwise
      (· ≤ ·) := by
  induction queries generalizing cursor with
  | nil => exact List.pairwise_singleton _ _
  | cons query queries ih =>
      have hlater := ih (cursor.exchange query).behind
      have hstep : cursor.position ≤ (cursor.exchange query).behind.position :=
        (follows_ask cursor query).position_le
      rw [exchanges, List.map_cons, List.pairwise_cons]
      refine ⟨?_, hlater⟩
      intro position hposition
      rcases List.mem_cons.1 hposition with rfl | hmem
      · exact hstep
      · exact Nat.le_trans hstep ((List.pairwise_cons.1 hlater).1 position hmem)

/-- Every exchange is like the number of tokens asked for before says. -/
theorem lawful_of_exchanges {queries : List Query} {earlier later : List Exchange}
    {exchange : Exchange} (h : Reached source start asked cursor)
    (hsplit : cursor.exchanges queries = earlier ++ exchange :: later) :
    exchange.Lawful source start (asked + (earlier.map Exchange.query).count .token) := by
  induction queries generalizing cursor asked earlier with
  | nil =>
      rw [exchanges, eq_comm, List.append_eq_nil_iff] at hsplit
      cases hsplit.2
  | cons query queries ih =>
      rw [exchanges] at hsplit
      cases earlier with
      | nil =>
          cases hsplit
          exact lawful_exchange h query
      | cons first earlier =>
          obtain ⟨rfl, hlater⟩ := List.cons.inj hsplit
          have hlawful := ih (reached_ask h query) hlater
          rw [Nat.add_assoc, ← count_token_cons] at hlawful
          exact hlawful

/-- **A cursor answers alike however it is driven.**  Let a cursor begin anywhere, also
behind the end of its source, and be asked any questions.  The tokens it gives are the first
ones of what stands there, as many as are asked for and are there.  Each answer depends on
the number of tokens asked for before it and on nothing else: a token that is asked for is
the next one in turn, and where none is left the request fails at the end of the source, or
at the beginning if that is further on, with the cursor there; the cursor is at the end
exactly when as many tokens have been asked for as there are.  It never goes back, it passes
every token that it gives, and it never comes to rest on a blank. -/
theorem exchanges_lawful (source : Text) (start : Nat) (queries : List Query) :
    ((Cursor.mk source start).exchanges queries).map Exchange.query = queries ∧
    ((Cursor.mk source start).exchanges queries).filterMap Exchange.token? =
      ((tokens (source.drop start)).map (Token.shift start)).take (queries.count .token) ∧
    (start :: ((Cursor.mk source start).exchanges queries).map (·.behind.position)).Pairwise
      (· ≤ ·) ∧
    ∀ earlier exchange later,
      (Cursor.mk source start).exchanges queries = earlier ++ exchange :: later →
      exchange.Lawful source start ((earlier.map Exchange.query).count .token) := by
  refine ⟨map_query_exchanges _ queries, ?_,
    pairwise_position_exchanges (Cursor.mk source start) queries, ?_⟩
  · rw [filterMap_token_exchanges, unread_start]
    rfl
  · intro earlier exchange later hsplit
    have hlawful := lawful_of_exchanges (reached_start source start) hsplit
    rwa [Nat.zero_add] at hlawful

/-- A cursor that begins inside a term reads what is left of it. -/
example : ((Cursor.mk "ab  c".toList 1).exchanges
      [.token, .position, .atEnd, .token, .token]).map (·.reply) =
    [.ok (.token ⟨.term ['b'], 1⟩), .ok (.position 4), .ok (.atEnd false),
      .ok (.token ⟨.term ['c'], 4⟩), .error (.endOfInput 5 "ab  c".toList)] := rfl

end Cursor

end Formula
