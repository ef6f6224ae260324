import Formula.Proofs.Expression.Binding
import Formula.Proofs.Parse.Conservation
import Formula.Proofs.Scan.Machine
import Formula.Proofs.Token.Exchange
import Mathlib.Algebra.Group.Int.Defs

/-!
# Nothing fails within

A parse reads its source with a cursor: it asks whether the cursor is at the end, and if it is
not, asks for a token and hands it to a machine.  Every part of that can fail within.  The cursor
may have no token to give, the machine may come upon a stack that it cannot work on, and the
reading may go on and on.

None of that happens.  A cursor that is not at the end has a token to give, and each one that it
gives makes those fewer that are left; a source has no more tokens than characters, so as many
reads are enough.  Then the machine does what a scan does.  So a parse gives an expression, or
reports what it found in the source.  An expression that it gives has slots for its variables,
so evaluation misses no value.  What comes of it is reported, with one exception: a binding with
an integer too large for a double is an error that is passed on.

## Main results

* `Machine.loop_eq`: the loop hands the unread tokens over, in as many reads.
* `Machine.run_eq`: a machine that reads a source does what a scan of its tokens does.
* `scanned_of_parse`: the faults that a parse reports.
* `parse_never_internal`: a parse fails by reporting only, and when an evaluation does not.
-/

namespace Formula

open Outcome

/-! ## A parse by a machine -/

/-- A failure with its fault changed, if it is one that is reported. -/
def Failure.map {φ ψ : Type} (f : φ → ψ) : Failure φ → Failure ψ
  | reported fault => .reported (f fault)
  | internal fault => .internal fault

namespace Machine

/-- Hands the tokens that a cursor gives to a machine, one by one, until the cursor is at the
end.  No more than `reads` tokens are asked for. -/
def loop (vocabulary : Vocabulary) :
    Nat → Cursor → Machine → Except (Failure ScanFault) (Cursor × Machine)
  | reads, cursor, machine =>
    if cursor.atEnd then .ok (cursor.skipBlanks, machine)
    else
      match reads with
      | 0 => .error (.internal .outOfReads)
      | reads + 1 =>
        match cursor.skipBlanks.next with
        | (.error _, _) => .error (.internal .endOfInput)
        | (.ok token, behind) => do
          let machine ← machine.consume vocabulary token
          loop vocabulary reads behind machine

/-- The elements that a source stands for. -/
def run (vocabulary : Vocabulary) (reads : Nat) (source : Text) :
    Except (Failure ScanFault) (List Element) := do
  let (cursor, machine) ← loop vocabulary reads ⟨source, 0⟩ {}
  machine.finish vocabulary.limits cursor.position

/-- Parses a source. -/
def parse (reads : Nat) (source : Text) (names : List Text) (config : Config) :
    Except (Failure ExpressionError) Expression := do
  (config.limits.check .variableCount names.length).mapError fun excess =>
    .reported (.limit excess)
  let folded := config.fold source
  (config.limits.check .expressionLength folded.length).mapError fun excess =>
    .reported (.limit excess)
  let elements ← (run (config.vocabulary names) reads folded).mapError
    (Failure.map (ScanFault.located folded))
  return { Expression.ofNames (names.map config.fold) with elements }

end Machine

/-! ## Reading to the end -/

/-- A cursor at the end stands where it stops, once it has skipped the blanks that are left. -/
theorem Cursor.skipBlanks_of_atEnd {cursor : Cursor} (h : cursor.atEnd = true) :
    cursor.skipBlanks = ⟨cursor.source, cursor.finish⟩ := by
  have hposition := position_of_rest (List.isEmpty_iff.1 h)
  rw [(follows_skipBlanks cursor).finish_eq] at hposition
  rw [← hposition]
  rfl

namespace Machine

variable {vocabulary : Vocabulary}

/-- **The loop.**  The tokens that a cursor has not read are handed to the machine, one in each
read, and then the cursor stands where it stops. -/
theorem loop_eq {reads : Nat} {cursor : Cursor} (h : cursor.unread.length ≤ reads)
    (machine : Machine) :
    loop vocabulary reads cursor machine =
      (cursor.unread.foldlM (consume vocabulary) machine).map
        fun machine => (⟨cursor.source, cursor.finish⟩, machine) := by
  induction reads generalizing cursor machine with
  | zero =>
      have hnone : cursor.unread = [] := List.eq_nil_of_length_eq_zero (Nat.le_zero.1 h)
      have hend := (Cursor.atEnd_iff cursor).2 hnone
      rw [loop, if_pos hend, hnone, Cursor.skipBlanks_of_atEnd hend]
      rfl
  | succ reads ih =>
      cases hunread : cursor.unread with
      | nil =>
          have hend := (Cursor.atEnd_iff cursor).2 hunread
          rw [loop, if_pos hend, Cursor.skipBlanks_of_atEnd hend]
          rfl
      | cons token later =>
          -- Asking for the end has skipped the blanks, so the read starts behind them.
          have hmore : ¬ cursor.atEnd = true := by
            rw [Cursor.atEnd_iff, hunread]
            simp
          have hskip : cursor.skipBlanks.unread = token :: later :=
            (Cursor.unread_skipBlanks cursor).trans hunread
          have hnext : cursor.skipBlanks.next = (.ok token, cursor.skipBlanks.next.2) := by
            refine Prod.ext ?_ rfl
            rw [Cursor.next_fst, hskip]
            rfl
          have hlater : cursor.skipBlanks.next.2.unread = later := by
            rw [Cursor.unread_next, hskip]
            rfl
          have hfollows := (Cursor.follows_skipBlanks cursor).trans
            (Cursor.follows_next cursor.skipBlanks)
          rw [loop, if_neg hmore, hnext, List.foldlM_cons]
          cases hstep : machine.consume vocabulary token with
          | error failure =>
              simp only [hstep]
              rfl
          | ok machine =>
              simp only [hstep, ok_bind]
              have hcount : cursor.skipBlanks.next.2.unread.length ≤ reads := by
                rw [hunread, List.length_cons] at h
                rw [hlater]
                omega
              rw [ih hcount, hlater, hfollows.source_eq, hfollows.finish_eq]

/-- A machine that reads a source does what a scan of its tokens does. -/
theorem run_eq {reads : Nat} {source : Text} (h : source.length ≤ reads) :
    run vocabulary reads source = image id (Scan.run vocabulary (tokens source) source.length) := by
  have hcount : (Cursor.mk source 0).unread.length ≤ reads :=
    Nat.le_trans (length_tokensFrom_le 0 source) h
  have hfinish : (Cursor.mk source 0).finish = source.length := Nat.zero_max _
  rw [run, loop_eq hcount, hfinish]
  show ((fun machine => (Cursor.mk source source.length, machine)) <$>
    (tokens source).foldlM (consume vocabulary) {}) >>= _ = _
  rw [bind_map_left, foldlM_ofScan, Scan.run]
  exact image_bind fun scan hscan => finish_ofScan (Scan.matched_of_foldlM_step hscan) source.length

/-- A parse by a machine is a parse. -/
theorem parse_eq {reads : Nat} {source : Text} (names : List Text) {config : Config}
    (h : (config.fold source).length ≤ reads) :
    parse reads source names config =
      (Formula.parse source names config).mapError .reported := by
  unfold parse Formula.parse
  cases config.limits.check .variableCount names.length with
  | error excess => rfl
  | ok _ =>
      simp only [mapError_ok, ok_bind]
      cases config.limits.check .expressionLength (config.fold source).length with
      | error excess => rfl
      | ok _ =>
          simp only [mapError_ok, ok_bind, run_eq h]
          show _ = Except.mapError _ (scanSource (config.vocabulary names) _ >>= _)
          rw [scanSource]
          cases Scan.run (config.vocabulary names) (tokens (config.fold source))
            (config.fold source).length with
          | ok elements => rfl
          | error fault => cases fault <;> rfl

end Machine

/-! ## What is reported -/

/-- A parse reports a limit, or a fault that a scan finds in the folded source. -/
theorem scanned_of_parse {source : Text} {names : List Text} {config : Config}
    {error : ExpressionError} (h : parse source names config = .error error) :
    (∃ excess, error = .limit excess) ∨
      ∃ (cause : ParseFault) (position : Nat), cause.Scanned ∧
        error = .parse cause position (config.fold source) := by
  rcases parse_agrees source names config with ⟨hsame, _⟩ | ⟨excess, herror, _⟩
  · rw [h, parseFreely] at hsame
    cases hcomplete : Scan.complete (config.vocabulary names) (tokens (config.fold source))
      (config.fold source).length with
    | ok elements =>
        rw [hcomplete] at hsame
        cases hsame
    | error fault =>
        have houtline := Scan.outline_complete (config.vocabulary names)
          (tokens (config.fold source)) (config.fold source).length
        rw [hcomplete] at houtline hsame
        obtain ⟨cause, position, hscanned, rfl⟩ := Outline.scanned_of_run houtline
        cases hsame
        exact .inr ⟨cause, position, hscanned, rfl⟩
  · rw [h] at herror
    exact .inl ⟨excess, Except.error.inj herror⟩

/-- A variable that a parsed expression mentions has a slot. -/
theorem mem_names_of_parse {source : Text} {names : List Text} {config : Config}
    {expression : Expression} (h : parse source names config = .ok expression) (name : Text)
    (hmentions : expression.Mentions name) : name ∈ expression.names :=
  List.mem_map.2 (resolved_of_parse h hmentions)

/-- **Nothing fails within.**  A parse by a machine that may fail within, and is given as many
reads as the folded source has characters, is a parse: it gives an expression, or reports a
limit, or one of the five faults that a scan finds in a source.  Whatever tokens the machine
took, no closing parenthesis and no comma is on its stack, and of open parentheses there are as
many as open positions.  Every variable that a parsed expression mentions has a slot, so no
evaluation misses a value.  Both kinds of evaluation report what comes of them, unless the first
binding that is refused is one for a variable, with an integer too large for a double: then both
pass the error on. -/
theorem parse_never_internal (source : Text) (names : List Text) (config : Config) :
    (∀ reads, (config.fold source).length ≤ reads →
      Machine.parse reads source names config =
        (parse source names config).mapError .reported) ∧
    (∀ error, parse source names config = .error error →
      (∃ excess, error = .limit excess) ∨
        ∃ (cause : ParseFault) (position : Nat), cause.Scanned ∧
          error = .parse cause position (config.fold source)) ∧
    (∀ (taken : List Token) (machine : Machine),
      taken.foldlM (Machine.consume (config.vocabulary names)) {} = .ok machine →
      machine.Guarded) ∧
    ∀ expression, parse source names config = .ok expression →
      (∀ name, expression.Mentions name → ∃ slot ∈ expression.slots, slot.name = name) ∧
      ∀ bindings,
        (∀ name, expression.evaluate bindings ≠ .error (.noSlot name)) ∧
        (¬ expression.Overflows bindings →
          expression.result bindings = .ok (expression.evaluate bindings) ∧
          expression.booleanResult bindings = .ok (expression.evaluateAsBoolean bindings)) ∧
        (expression.Overflows bindings →
          expression.result bindings = .error .tooLarge ∧
          expression.booleanResult bindings = .error .tooLarge) := by
  refine ⟨?_, ?_, ?_, ?_⟩
  · intro reads hreads
    exact Machine.parse_eq names hreads
  · intro error herror
    exact scanned_of_parse herror
  · intro taken machine hmachine
    exact Machine.guarded_of_foldlM hmachine
  · intro expression hparse
    refine ⟨fun name hmentions => resolved_of_parse hparse hmentions, fun bindings => ?_⟩
    have hslots := mem_names_of_parse hparse
    exact ⟨Expression.evaluate_ne_noSlot hslots bindings,
      Expression.result_eq_ok hslots, Expression.result_of_overflows⟩

/-- A variable that is bound to an integer too large for a double is no result of any kind. -/
theorem result_of_huge_binding :
    ∃ mention, parse ['x'] [['x']] {} = .ok mention ∧
      mention.result [(['x'], .int (10 ^ 400))] = .error .tooLarge ∧
      mention.booleanResult [(['x'], .int (10 ^ 400))] = .error .tooLarge := by
  refine ⟨{ Expression.ofNames [['x']] with elements := [.operand (.variable ['x'])] }, rfl, ?_⟩
  refine Expression.result_of_overflows ⟨[], ['x'], 10 ^ 400, [], rfl, by simp, by decide, ?_⟩
  decide +kernel

end Formula
