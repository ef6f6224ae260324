import Formula.Proofs.Scan.Move

/-!
# The scan without limits

`Scan.advance` carries a move out as `Scan.move` does, but checks no limit.  Its stack and
its output are then plain list operations, and only a `)` or a comma without an open
parenthesis can fail.  How the two scans differ is the subject of
`Formula.Proofs.Scan.Demand`; everything else about scans is proved here, for `advance`.

## Main results

* `Scan.advance_right`, `Scan.advance_comma`: what a `)` and a comma do, by the innermost
  open parenthesis on the stack.
* `Scan.content_advance`: a move adds one element to those that are out or waiting, unless
  it groups, and loses none.
* `Scan.matched_advance`: the stack holds as many open parentheses as there are open
  positions.
-/

namespace Formula

open Outcome

/-- What entries put out when they are released, the top first. -/
def released (entries : List Waiting) : List Element :=
  (entries.filterMap Waiting.operation?).map .operation

@[simp] theorem released_nil : released [] = [] := rfl

theorem released_append (first second : List Waiting) :
    released (first ++ second) = released first ++ released second := by
  simp [released]

@[simp] theorem released_binary (op : BinaryOperator) (entries : List Waiting) :
    released (.binary op :: entries) = .operation (.binary op.operation) :: released entries :=
  rfl

@[simp] theorem released_applied (op : Operation) (entries : List Waiting) :
    released (.applied op :: entries) = .operation op :: released entries := rfl

@[simp] theorem released_left (entries : List Waiting) :
    released (.left :: entries) = released entries := rfl

/-! ## The stack below and above its innermost parenthesis -/

namespace Waiting

theorem isInside_of_isApplied {entry : Waiting} (h : entry.isApplied = true) :
    entry.isInside = true := by
  cases entry <;> first | rfl | cases h

theorem isInside_of_precedes {precedence : Nat} {entry : Waiting}
    (h : entry.precedes precedence = true) : entry.isInside = true := by
  cases entry <;> first | rfl | cases h

/-- A stack is closed, or an open parenthesis is innermost on it. -/
theorem stack_cases (waiting : List Waiting) :
    (∀ entry ∈ waiting, entry.isInside = true) ∨
      ∃ inside outside, waiting = inside ++ .left :: outside ∧
        ∀ entry ∈ inside, entry.isInside = true := by
  induction waiting with
  | nil => exact .inl (by simp)
  | cons entry waiting ih =>
      by_cases hentry : entry.isInside = true
      · rcases ih with hclosed | ⟨inside, outside, rfl, hinside⟩
        · exact .inl (by simpa [hentry] using hclosed)
        · exact .inr ⟨entry :: inside, outside, rfl, by simpa [hentry] using hinside⟩
      · cases entry with
        | left => exact .inr ⟨[], waiting, rfl, by simp⟩
        | binary op => exact absurd rfl hentry
        | applied op => exact absurd rfl hentry

end Waiting

namespace Scan

/-! ## Moves without limits -/

/-- Puts elements out. -/
def put (scan : Scan) (elements : List Element) : Scan :=
  { scan with output := scan.output ++ elements }

theorem put_put (scan : Scan) (first second : List Element) :
    (scan.put first).put second = scan.put (first ++ second) := by
  simp [put]

/-- Releases the entries at the top of the stack that satisfy a test. -/
def drain (test : Waiting → Bool) (scan : Scan) : Scan :=
  { scan with
    output := scan.output ++ released (scan.waiting.takeWhile test)
    waiting := scan.waiting.dropWhile test }

/-- Carries a move out. -/
def advance (scan : Scan) (position : Nat) : Move → Except ScanFault Scan
  | .operand o => .ok ((scan.put [.operand o]).expect .operator)
  | .function name op => .ok (scan.takeFunction name op)
  | .unary op => .ok (scan.push (.applied (.unary op)))
  | .binary op =>
      .ok ((((scan.drain Waiting.isApplied).drain (Waiting.precedes op.precedence)).push
        (.binary op)).expect .operand)
  | .left => .ok ({ scan.push .left with opens := position :: scan.opens }.expect .operand)
  | .right =>
      let inner := scan.drain Waiting.isInside
      match inner.waiting with
      | [] => .error (.parse .unmatchedRight position)
      | _ :: outside =>
          .ok (({ inner with waiting := outside, opens := inner.opens.tail }.drain
            Waiting.isApplied).expect .operator)
  | .comma =>
      let inner := scan.drain Waiting.isInside
      match inner.waiting with
      | [] => .error (.parse .unmatchedComma position)
      | _ :: _ => .ok (inner.expect .operand)

/-- Takes a token in. -/
def proceed (vocabulary : Vocabulary) (scan : Scan) (token : Token) : Except ScanFault Scan :=
  match scan.expectation.read vocabulary token.lexeme with
  | .ok m => scan.advance token.position m
  | .error fault => .error (.parse fault token.position)

/-- Releases everything at the end of the source. -/
def conclude (scan : Scan) (position : Nat) : Except ScanFault (List Element) :=
  match scan.expectation with
  | .openParen function => .error (.parse (.missingLeft function) position)
  | _ =>
      match (scan.drain Waiting.isInside).waiting with
      | [] => .ok (scan.drain Waiting.isInside).output
      | _ :: _ => .error (.parse .unmatchedLeft (scan.opens.headD position))

/-- The elements that the tokens of a source of the given length stand for. -/
def complete (vocabulary : Vocabulary) (source : List Token) (length : Nat) :
    Except ScanFault (List Element) := do
  let scan ← source.foldlM (proceed vocabulary) {}
  scan.conclude length

variable {scan scan' : Scan} {position : Nat} {move : Move}

/-! ## Closing parentheses and commas -/

theorem drain_of_split {test : Waiting → Bool} {top rest : List Waiting}
    (hwaiting : scan.waiting = top ++ rest) (htop : ∀ entry ∈ top, test entry = true)
    (hrest : ∀ entry ∈ rest.head?, test entry = false) :
    scan.drain test =
      { scan with output := scan.output ++ released top, waiting := rest } := by
  have htake : rest.takeWhile test = [] := by
    cases rest with
    | nil => rfl
    | cons entry rest => simp [hrest entry (by simp)]
  have hdrop : rest.dropWhile test = rest := by
    cases rest with
    | nil => rfl
    | cons entry rest => simp [hrest entry (by simp)]
  rw [drain, hwaiting, List.takeWhile_append_of_pos htop, List.dropWhile_append_of_pos htop,
    htake, hdrop, List.append_nil]

theorem drain_inside {inside outside : List Waiting}
    (hwaiting : scan.waiting = inside ++ .left :: outside)
    (hinside : ∀ entry ∈ inside, entry.isInside = true) :
    scan.drain Waiting.isInside =
      { scan with output := scan.output ++ released inside, waiting := .left :: outside } :=
  drain_of_split hwaiting hinside (by simp [Waiting.isInside])

theorem drain_all (hclosed : ∀ entry ∈ scan.waiting, entry.isInside = true) :
    scan.drain Waiting.isInside =
      { scan with output := scan.output ++ released scan.waiting, waiting := [] } :=
  drain_of_split (List.append_nil _).symm hclosed (by simp)

theorem advance_right {inside outside : List Waiting}
    (hwaiting : scan.waiting = inside ++ .left :: outside)
    (hinside : ∀ entry ∈ inside, entry.isInside = true) :
    scan.advance position .right =
      .ok (({ scan with
          output := scan.output ++ released inside
          waiting := outside
          opens := scan.opens.tail }.drain Waiting.isApplied).expect .operator) := by
  rw [advance, drain_inside hwaiting hinside]

theorem advance_comma {inside outside : List Waiting}
    (hwaiting : scan.waiting = inside ++ .left :: outside)
    (hinside : ∀ entry ∈ inside, entry.isInside = true) :
    scan.advance position .comma =
      .ok ({ scan with
          output := scan.output ++ released inside
          waiting := .left :: outside }.expect .operand) := by
  rw [advance, drain_inside hwaiting hinside]

theorem advance_right_of_closed (hclosed : ∀ entry ∈ scan.waiting, entry.isInside = true) :
    scan.advance position .right = .error (.parse .unmatchedRight position) := by
  rw [advance, drain_all hclosed]

theorem advance_comma_of_closed (hclosed : ∀ entry ∈ scan.waiting, entry.isInside = true) :
    scan.advance position .comma = .error (.parse .unmatchedComma position) := by
  rw [advance, drain_all hclosed]

/-! ## The end of a source -/

theorem conclude_of_openParen {function : Text}
    (hexpectation : scan.expectation = .openParen function) :
    scan.conclude position = .error (.parse (.missingLeft function) position) := by
  rw [conclude, hexpectation]

theorem conclude_of_not_openParen (hopen : scan.expectation.isOpenParen = false) :
    scan.conclude position =
      match (scan.drain Waiting.isInside).waiting with
      | [] => .ok (scan.drain Waiting.isInside).output
      | _ :: _ => .error (.parse .unmatchedLeft (scan.opens.headD position)) := by
  unfold conclude
  split
  · rename_i function hexpectation
    rw [hexpectation] at hopen
    cases hopen
  · rfl

theorem conclude_of_closed (hopen : scan.expectation.isOpenParen = false)
    (hclosed : ∀ entry ∈ scan.waiting, entry.isInside = true) :
    scan.conclude position = .ok (scan.output ++ released scan.waiting) := by
  rw [conclude_of_not_openParen hopen, drain_all hclosed]

theorem conclude_of_split {inside outside : List Waiting}
    (hopen : scan.expectation.isOpenParen = false)
    (hwaiting : scan.waiting = inside ++ .left :: outside)
    (hinside : ∀ entry ∈ inside, entry.isInside = true) :
    scan.conclude position =
      .error (.parse .unmatchedLeft (scan.opens.headD position)) := by
  rw [conclude_of_not_openParen hopen, drain_inside hwaiting hinside]

/-- A source that scans to some elements has scanned to its end. -/
theorem exists_of_complete {vocabulary : Vocabulary} {source : List Token} {length : Nat}
    {elements : List Element} (h : complete vocabulary source length = .ok elements) :
    ∃ scan, source.foldlM (proceed vocabulary) {} = .ok scan ∧
      scan.conclude length = .ok elements :=
  exists_of_bind h

/-! ## What a move that is taken has found -/

/-- A token that is taken asks for a move, which is carried out. -/
theorem reads_of_proceed {vocabulary : Vocabulary} {token : Token}
    (h : scan.proceed vocabulary token = .ok scan') :
    ∃ m, Reads vocabulary scan.expectation token.lexeme m ∧
      scan.advance token.position m = .ok scan' := by
  unfold proceed at h
  split at h
  · rename_i m hread
    exact ⟨m, Expectation.reads_of_read hread, h⟩
  · cases h

theorem proceed_of_reads {vocabulary : Vocabulary} {token : Token} {m : Move}
    (h : Reads vocabulary scan.expectation token.lexeme m) :
    scan.proceed vocabulary token = scan.advance token.position m := by
  rw [proceed, Expectation.read_of_reads h]

/-- What holds of the scan behind all tokens, and is carried from behind a token that is
taken to the front of it, holds of the scan in front of all tokens.  The property is told
what lexemes are still to come. -/
theorem foldlM_proceed_induction {vocabulary : Vocabulary}
    (property : Scan → List Lexeme → Prop) {source : List Token}
    (h : source.foldlM (proceed vocabulary) scan = .ok scan') (hend : property scan' [])
    (hstep : ∀ {scan next : Scan} {token : Token} {m : Move} {later : List Lexeme},
      Reads vocabulary scan.expectation token.lexeme m →
      scan.advance token.position m = .ok next →
      property next later → property scan (token.lexeme :: later)) :
    property scan (source.map Token.lexeme) := by
  induction source generalizing scan with
  | nil =>
      cases h
      exact hend
  | cons token source ih =>
      rw [List.foldlM_cons] at h
      obtain ⟨next, hnext, hrest⟩ := exists_of_bind h
      obtain ⟨m, hread, hadvance⟩ := reads_of_proceed hnext
      exact hstep hread hadvance (ih hrest)

/-- A `)` that is taken closes the innermost parenthesis. -/
theorem waiting_of_advance_right (h : scan.advance position .right = .ok scan') :
    ∃ inside outside, scan.waiting = inside ++ .left :: outside ∧
      (∀ entry ∈ inside, entry.isInside = true) ∧
      scan' = ({ scan with
          output := scan.output ++ released inside
          waiting := outside
          opens := scan.opens.tail }.drain Waiting.isApplied).expect .operator := by
  rcases Waiting.stack_cases scan.waiting with hclosed | ⟨inside, outside, hw, hin⟩
  · rw [advance_right_of_closed hclosed] at h
    cases h
  · rw [advance_right hw hin] at h
    cases h
    exact ⟨inside, outside, hw, hin, rfl⟩

/-- A comma that is taken leaves the innermost parenthesis open. -/
theorem waiting_of_advance_comma (h : scan.advance position .comma = .ok scan') :
    ∃ inside outside, scan.waiting = inside ++ .left :: outside ∧
      (∀ entry ∈ inside, entry.isInside = true) ∧
      scan' = { scan with
          output := scan.output ++ released inside
          waiting := .left :: outside }.expect .operand := by
  rcases Waiting.stack_cases scan.waiting with hclosed | ⟨inside, outside, hw, hin⟩
  · rw [advance_comma_of_closed hclosed] at h
    cases h
  · rw [advance_comma hw hin] at h
    cases h
    exact ⟨inside, outside, hw, hin, rfl⟩

/-! ## What every move preserves -/

/-- What is expected next depends on the move alone. -/
theorem expectation_advance (h : scan.advance position move = .ok scan') :
    scan'.expectation = move.next scan.expectation := by
  cases move with
  | right =>
      obtain ⟨inside, outside, _, _, rfl⟩ := waiting_of_advance_right h
      rfl
  | comma =>
      obtain ⟨inside, outside, _, _, rfl⟩ := waiting_of_advance_comma h
      rfl
  | operand o => cases h; rfl
  | function name op => cases h; rfl
  | unary op => cases h; rfl
  | binary op => cases h; rfl
  | left => cases h; rfl

/-- How many positions are open next depends on the move alone. -/
theorem length_opens_advance (h : scan.advance position move = .ok scan') :
    scan'.opens.length = move.opensAfter scan.opens.length := by
  cases move with
  | right =>
      obtain ⟨inside, outside, _, _, rfl⟩ := waiting_of_advance_right h
      exact List.length_tail
  | comma =>
      obtain ⟨inside, outside, _, _, rfl⟩ := waiting_of_advance_comma h
      rfl
  | operand o => cases h; rfl
  | function name op => cases h; rfl
  | unary op => cases h; rfl
  | binary op => cases h; rfl
  | left => cases h; rfl

/-- The elements that are out, and those that wait to be put out. -/
def content (scan : Scan) : List Element := scan.output ++ released scan.waiting

@[simp] theorem content_expect (scan : Scan) (expectation : Expectation) :
    (scan.expect expectation).content = scan.content := rfl

theorem content_push (scan : Scan) (entry : Waiting) :
    (scan.push entry).content.Perm (scan.content ++ released [entry]) := by
  have hpush : (scan.push entry).content =
      scan.output ++ (released [entry] ++ released scan.waiting) := by
    rw [content, push, ← List.singleton_append, released_append]
  rw [hpush, content, List.append_assoc]
  exact List.perm_append_comm.append_left _

/-- Releasing entries keeps every element in its place. -/
@[simp] theorem content_drain (scan : Scan) (test : Waiting → Bool) :
    (scan.drain test).content = scan.content := by
  rw [content, drain, List.append_assoc, ← released_append, List.takeWhile_append_dropWhile]
  rfl

/-- A move adds its element to those that are out or waiting, unless it groups, and loses
none. -/
theorem content_advance (h : scan.advance position move = .ok scan') :
    scan'.content.Perm (scan.content ++ move.elements) := by
  cases move with
  | operand o =>
      cases h
      rw [content_expect, content, put, content, List.append_assoc, List.append_assoc]
      exact List.perm_append_comm.append_left _
  | function name op =>
      cases h
      exact content_push scan (.applied op)
  | unary op =>
      cases h
      exact content_push scan (.applied (.unary op))
  | binary op =>
      cases h
      rw [content_expect, ← content_drain scan Waiting.isApplied,
        ← content_drain (scan.drain Waiting.isApplied) (Waiting.precedes op.precedence)]
      exact content_push _ (.binary op)
  | left =>
      cases h
      exact content_push scan .left
  | right =>
      obtain ⟨inside, outside, hw, _, rfl⟩ := waiting_of_advance_right h
      rw [content_expect, content_drain]
      simp [content, hw, released_append, Move.elements]
  | comma =>
      obtain ⟨inside, outside, hw, _, rfl⟩ := waiting_of_advance_comma h
      simp [content, expect, hw, released_append, Move.elements]

/-- What a source ends with is what is out or waits at its end.  Nothing is open then. -/
theorem content_of_conclude {elements : List Element}
    (h : scan.conclude position = .ok elements) :
    scan.expectation.isOpenParen = false ∧ (∀ entry ∈ scan.waiting, entry.isInside = true) ∧
      elements = scan.content := by
  rcases Expectation.openParen_cases scan.expectation with hopen | ⟨function, hexpectation⟩
  · rcases Waiting.stack_cases scan.waiting with hclosed | ⟨inside, outside, hw, hin⟩
    · rw [conclude_of_closed hopen hclosed] at h
      cases h
      exact ⟨hopen, hclosed, rfl⟩
    · rw [conclude_of_split hopen hw hin] at h
      cases h
  · rw [conclude_of_openParen hexpectation] at h
    cases h

/-- The number of elements that are out or wait to be put out. -/
def weight (scan : Scan) : Nat := scan.content.length

theorem length_output_le_weight (scan : Scan) : scan.output.length ≤ scan.weight := by
  rw [weight, content, List.length_append]
  exact Nat.le_add_right _ _

theorem weight_advance (h : scan.advance position move = .ok scan') :
    scan'.weight = scan.weight + if move.isGrouping then 0 else 1 := by
  rw [weight, (content_advance h).length_eq, List.length_append, weight]
  cases move <;> rfl

/-- The stack holds as many open parentheses as there are open positions. -/
def Matched (scan : Scan) : Prop := scan.waiting.count .left = scan.opens.length

theorem count_left_eq_zero {entries : List Waiting}
    (hinside : ∀ entry ∈ entries, entry.isInside = true) : entries.count .left = 0 := by
  refine List.count_eq_zero.2 fun hmem => ?_
  cases hinside .left hmem

theorem opens_eq_nil (hmatched : scan.Matched)
    (hclosed : ∀ entry ∈ scan.waiting, entry.isInside = true) : scan.opens = [] := by
  rw [Matched, count_left_eq_zero hclosed] at hmatched
  exact List.eq_nil_of_length_eq_zero hmatched.symm

theorem opens_ne_nil (hmatched : scan.Matched) {inside outside : List Waiting}
    (hwaiting : scan.waiting = inside ++ .left :: outside) : scan.opens ≠ [] := by
  intro hnil
  rw [Matched, hwaiting, hnil, List.count_append, List.count_cons_self] at hmatched
  simp at hmatched

/-- No parenthesis is open, on the stack or among the positions; or one is innermost on
both. -/
theorem closing_cases (hmatched : scan.Matched) :
    (scan.opens = [] ∧ ∀ entry ∈ scan.waiting, entry.isInside = true) ∨
      ∃ innermost opens inside outside, scan.opens = innermost :: opens ∧
        scan.waiting = inside ++ .left :: outside ∧
        ∀ entry ∈ inside, entry.isInside = true := by
  rcases Waiting.stack_cases scan.waiting with hclosed | ⟨inside, outside, hw, hin⟩
  · exact .inl ⟨opens_eq_nil hmatched hclosed, hclosed⟩
  · have hne := opens_ne_nil hmatched hw
    obtain ⟨innermost, opens, hopens⟩ := List.exists_cons_of_ne_nil hne
    exact .inr ⟨innermost, opens, inside, outside, hopens, hw, hin⟩

/-- Entries that are released hold no open parenthesis. -/
theorem count_left_dropWhile {test : Waiting → Bool}
    (htest : ∀ entry, test entry = true → entry.isInside = true) (entries : List Waiting) :
    (entries.dropWhile test).count .left = entries.count .left := by
  have htop : (entries.takeWhile test).count .left = 0 :=
    count_left_eq_zero fun entry hmem =>
      htest entry (List.all_eq_true.1 List.all_takeWhile entry hmem)
  calc (entries.dropWhile test).count .left
      = (entries.takeWhile test ++ entries.dropWhile test).count .left := by
        rw [List.count_append, htop, Nat.zero_add]
    _ = entries.count .left := by rw [List.takeWhile_append_dropWhile]

/-- Every move keeps the open parentheses and the open positions matched. -/
theorem matched_advance (hmatched : scan.Matched)
    (h : scan.advance position move = .ok scan') : scan'.Matched := by
  cases move with
  | operand o => cases h; exact hmatched
  | function name op =>
      cases h
      simpa [Matched, takeFunction, push, expect] using hmatched
  | unary op =>
      cases h
      simpa [Matched, push] using hmatched
  | binary op =>
      cases h
      simp only [Matched, push, expect, drain]
      rw [List.count_cons_of_ne (by simp),
        count_left_dropWhile fun _ => Waiting.isInside_of_precedes,
        count_left_dropWhile fun _ => Waiting.isInside_of_isApplied]
      exact hmatched
  | left =>
      cases h
      simpa [Matched, push, expect] using hmatched
  | right =>
      obtain ⟨inside, outside, hw, hin, rfl⟩ := waiting_of_advance_right h
      simp only [Matched, hw, List.count_append, count_left_eq_zero hin, List.count_cons_self,
        Nat.zero_add] at hmatched
      simp only [Matched, expect, drain, List.length_tail]
      rw [count_left_dropWhile fun _ => Waiting.isInside_of_isApplied]
      omega
  | comma =>
      obtain ⟨inside, outside, hw, hin, rfl⟩ := waiting_of_advance_comma h
      simpa [Matched, expect, hw, count_left_eq_zero hin] using hmatched

end Scan

end Formula
