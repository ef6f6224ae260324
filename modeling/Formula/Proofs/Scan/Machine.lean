import Formula.Proofs.Scan.Outline
import Mathlib.Data.List.Count
import Mathlib.Data.List.Induction
import Mathlib.Data.List.TakeWhile

/-!
# A scan that could fail within

A scan takes things for granted: that there is a token to read, that an entry it takes off its
stack has an operation, that a position is open when a parenthesis is closed.  A *machine*
does not.  It works as a scan does, entry by entry and element by element, but its stack can
hold any grouping, and wherever something may be missing it fails with a fault of its own,
which is no fault of the source.

No machine that starts empty ever fails so.  What keeps it safe is that the open parentheses on
its stack are as many as the open positions, and that no other grouping gets onto the stack.
Such a machine is the image of a scan, and does what the scan does.

## Main results

* `Machine.unwind_ofScan`: releasing entries one by one is releasing them at once.
* `Machine.carry_ofScan`: a move does to a machine what it does to the scan.
* `Machine.finish_ofScan`: so does the end of the source.
* `Machine.foldlM_ofScan`: an empty machine does what an empty scan does, token by token.
* `Machine.guarded_of_foldlM`: what is on the stack of a machine that took tokens.
-/

namespace Formula

open Outcome

/-! ## Machines -/

/-- A fault that is not one of the source. -/
inductive InternalFault where
  /-- A token was asked for where none is left. -/
  | endOfInput
  /-- The innermost open position was asked for where none is open. -/
  | noOpenPosition
  /-- A grouping was asked for its operation. -/
  | noOperation (grouping : Grouping)
  /-- There was more to read than reads to make. -/
  | outOfReads
  deriving DecidableEq

/-- How a machine fails: as a scan does, or within. -/
inductive Failure (φ : Type) where
  | reported (fault : φ)
  | internal (fault : InternalFault)

/-- An entry of the stack of a machine. -/
inductive Entry where
  | binary (op : BinaryOperator)
  | applied (op : Operation)
  | grouping (grouping : Grouping)
  deriving DecidableEq

namespace Entry

/-- The operation of an entry, which a grouping has not. -/
def operation {φ : Type} : Entry → Except (Failure φ) Operation
  | binary op => .ok (.binary op.operation)
  | applied op => .ok op
  | grouping kind => .error (.internal (.noOperation kind))

/-- Whether an entry is a unary operator or a function. -/
def isApplied : Entry → Bool
  | applied _ => true
  | _ => false

/-- Whether an entry is a binary operator that binds as tight as a new one, or tighter. -/
def precedes (precedence : Nat) : Entry → Bool
  | binary op => precedence ≤ op.precedence
  | _ => false

/-- Whether an entry is anything but an open parenthesis. -/
def isInside (entry : Entry) : Bool := entry != .grouping .left

end Entry

/-- The state of a machine.  The top of the stack is its head. -/
structure Machine where
  expectation : Expectation := .operand
  stack : List Entry := []
  opens : List Nat := []
  output : List Element := []

namespace Machine

/-- Puts an element behind others, if there may be one more. -/
def emit (limits : Limits) (output : List Element) (element : Element) :
    Except (Failure ScanFault) (List Element) := do
  let output := output ++ [element]
  (Scan.within limits .outputElements output.length).mapError .reported
  return output

/-- Takes entries off a stack, one by one, as long as they satisfy a test, and puts out
the operation of each. -/
def unwind (limits : Limits) (test : Entry → Bool) :
    List Entry → List Element → Except (Failure ScanFault) (List Entry × List Element)
  | [], output => .ok ([], output)
  | entry :: stack, output =>
    if test entry then do
      let op ← entry.operation
      let output ← emit limits output (.operation op)
      unwind limits test stack output
    else .ok (entry :: stack, output)

/-- The innermost open position, and the others. -/
def innermost : List Nat → Except (Failure ScanFault) (Nat × List Nat)
  | [] => .error (.internal .noOpenPosition)
  | position :: opens => .ok (position, opens)

/-- Carries a move out. -/
def carry (limits : Limits) (machine : Machine) (position : Nat) :
    Move → Except (Failure ScanFault) Machine
  | .operand o => do
    let output ← emit limits machine.output (.operand o)
    return { machine with output, expectation := .operator }
  | .function name op =>
    .ok { machine with stack := .applied op :: machine.stack, expectation := .openParen name }
  | .unary op => .ok { machine with stack := .applied (.unary op) :: machine.stack }
  | .binary op => do
    let (stack, output) ← unwind limits Entry.isApplied machine.stack machine.output
    let (stack, output) ← unwind limits (Entry.precedes op.precedence) stack output
    return { machine with stack := .binary op :: stack, output, expectation := .operand }
  | .left => do
    let opens := position :: machine.opens
    (Scan.within limits .nestingDepth opens.length).mapError .reported
    return { machine with
      stack := .grouping .left :: machine.stack, opens, expectation := .operand }
  | .right => do
    let (stack, output) ← unwind limits Entry.isInside machine.stack machine.output
    match stack with
    | [] => .error (.reported (.parse .unmatchedRight position))
    | _ :: outside =>
      let (_, opens) ← innermost machine.opens
      let (stack, output) ← unwind limits Entry.isApplied outside output
      return { stack, opens, output, expectation := .operator }
  | .comma => do
    let (stack, output) ← unwind limits Entry.isInside machine.stack machine.output
    match stack with
    | [] => .error (.reported (.parse .unmatchedComma position))
    | _ :: _ => return { machine with stack, output, expectation := .operand }

/-- Takes a token in. -/
def consume (vocabulary : Vocabulary) (machine : Machine) (token : Token) :
    Except (Failure ScanFault) Machine :=
  match machine.expectation.read vocabulary token.lexeme with
  | .ok m => machine.carry vocabulary.limits token.position m
  | .error fault => .error (.reported (.parse fault token.position))

/-- Takes everything off the stack at the end of the source, which is at `position`. -/
def finish (limits : Limits) (machine : Machine) (position : Nat) :
    Except (Failure ScanFault) (List Element) :=
  match machine.expectation with
  | .openParen function => .error (.reported (.parse (.missingLeft function) position))
  | _ => do
    let (stack, output) ← unwind limits Entry.isInside machine.stack machine.output
    match stack with
    | [] => return output
    | _ :: _ =>
      let (place, _) ← innermost machine.opens
      .error (.reported (.parse .unmatchedLeft place))

end Machine

/-! ## The machine of a scan -/

/-- An entry of a scan as an entry of a machine. -/
def Waiting.entry : Waiting → Entry
  | binary op => .binary op
  | applied op => .applied op
  | left => .grouping .left

namespace Machine

variable {limits : Limits} {scan scan' : Scan}

/-- The machine that does what a scan does. -/
def ofScan (scan : Scan) : Machine where
  expectation := scan.expectation
  stack := scan.waiting.map Waiting.entry
  opens := scan.opens
  output := scan.output

/-- The outcome of a scan as one of the machine. -/
def image {α β : Type} (f : α → β) (outcome : Except ScanFault α) :
    Except (Failure ScanFault) β :=
  (outcome.map f).mapError .reported

/-- Steps in sequence go over to the machine one by one. -/
theorem image_bind {α β γ δ : Type} {f : α → β} {g : γ → δ} {x : Except ScanFault α}
    {next : α → Except ScanFault γ} {next' : β → Except (Failure ScanFault) δ}
    (h : ∀ a, x = .ok a → next' (f a) = image g (next a)) :
    (image f x >>= next') = image g (x >>= next) := by
  cases x with
  | error fault => rfl
  | ok a => exact h a rfl

/-! ## Putting elements out -/

theorem emit_ofScan (scan : Scan) (element : Element) :
    emit limits scan.output element = image Scan.output (scan.emit limits element) := by
  rw [emit, Scan.emit]
  cases Scan.within limits .outputElements (scan.output ++ [element]).length <;> rfl

theorem foldlM_emit_ofScan (scan : Scan) (ops : List Operation) :
    ops.foldlM (fun output op => emit limits output (.operation op)) scan.output =
      image Scan.output (scan.emitAll limits ops) := by
  induction ops generalizing scan with
  | nil => rfl
  | cons op ops ih =>
      rw [List.foldlM_cons, Scan.emitAll, List.foldlM_cons, emit_ofScan]
      exact image_bind fun next _ => ih next

/-- Putting elements out changes nothing else. -/
theorem frame_of_emit {element : Element} (h : scan.emit limits element = .ok scan') :
    scan' = { scan with output := scan'.output } := by
  obtain ⟨_, _, hscan'⟩ := exists_of_bind h
  cases hscan'
  rfl

theorem frame_of_emitAll {ops : List Operation} (h : scan.emitAll limits ops = .ok scan') :
    scan' = { scan with output := scan'.output } := by
  induction ops generalizing scan with
  | nil =>
      cases h
      rfl
  | cons op ops ih =>
      rw [Scan.emitAll, List.foldlM_cons] at h
      obtain ⟨next, hnext, hrest⟩ := exists_of_bind h
      have hlater := ih hrest
      rw [frame_of_emit hnext] at hlater
      exact hlater

/-- Releasing entries takes them off the stack, and changes nothing else but the output. -/
theorem frame_of_release {test : Waiting → Bool} (h : scan.release limits test = .ok scan') :
    scan' = { scan with output := scan'.output, waiting := scan.waiting.dropWhile test } := by
  obtain ⟨next, hnext, hscan'⟩ := exists_of_bind h
  have hframe := frame_of_emitAll hnext
  cases hscan'
  rw [hframe]

/-! ## Taking entries off the stack -/

/-- The stack and the output of a scan as those of its machine. -/
def contents (scan : Scan) : List Entry × List Element :=
  (scan.waiting.map Waiting.entry, scan.output)

/-- Entries that have operations are taken off until the test fails. -/
theorem unwind_entries {test : Entry → Bool} {test' : Waiting → Bool}
    (htest : ∀ entry : Waiting, test entry.entry = test' entry)
    (hinside : ∀ entry : Waiting, test' entry = true → entry.isInside = true)
    (waiting : List Waiting) (output : List Element) :
    unwind limits test (waiting.map Waiting.entry) output = (do
      let output ← ((waiting.takeWhile test').filterMap Waiting.operation?).foldlM
        (fun output op => emit limits output (.operation op)) output
      return ((waiting.dropWhile test').map Waiting.entry, output)) := by
  induction waiting generalizing output with
  | nil => rfl
  | cons entry waiting ih =>
      rw [List.map_cons, unwind, htest]
      by_cases hentry : test' entry = true
      · rw [if_pos hentry, List.takeWhile_cons_of_pos hentry, List.dropWhile_cons_of_pos hentry]
        have hnext (op : Operation) (output : List Element) :
            (do let output ← emit limits output (.operation op)
                unwind limits test (waiting.map Waiting.entry) output) = (do
              let output ← (op :: (waiting.takeWhile test').filterMap
                Waiting.operation?).foldlM
                  (fun output op => emit limits output (.operation op)) output
              return ((waiting.dropWhile test').map Waiting.entry, output)) := by
          rw [List.foldlM_cons]
          cases emit limits output (.operation op) with
          | error failure => rfl
          | ok next => exact ih next
        cases entry with
        | left => cases hinside .left hentry
        | binary op => exact hnext (.binary op.operation) output
        | applied op => exact hnext op output
      · rw [if_neg hentry, List.takeWhile_cons_of_neg hentry, List.dropWhile_cons_of_neg hentry]
        rfl

/-- Releasing entries one by one is releasing them at once. -/
theorem unwind_ofScan {test : Entry → Bool} {test' : Waiting → Bool}
    (htest : ∀ entry : Waiting, test entry.entry = test' entry)
    (hinside : ∀ entry : Waiting, test' entry = true → entry.isInside = true) (scan : Scan) :
    unwind limits test (scan.waiting.map Waiting.entry) scan.output =
      image contents (scan.release limits test') := by
  rw [unwind_entries htest hinside, foldlM_emit_ofScan, Scan.release]
  exact image_bind fun next _ => rfl

theorem unwind_applied (scan : Scan) :
    unwind limits Entry.isApplied (scan.waiting.map Waiting.entry) scan.output =
      image contents (scan.release limits Waiting.isApplied) :=
  unwind_ofScan (fun entry => by cases entry <;> rfl) (fun _ => Waiting.isInside_of_isApplied) scan

theorem unwind_precedes (precedence : Nat) (scan : Scan) :
    unwind limits (Entry.precedes precedence) (scan.waiting.map Waiting.entry) scan.output =
      image contents (scan.release limits (Waiting.precedes precedence)) :=
  unwind_ofScan (fun entry => by cases entry <;> rfl) (fun _ => Waiting.isInside_of_precedes) scan

theorem unwind_inside (scan : Scan) :
    unwind limits Entry.isInside (scan.waiting.map Waiting.entry) scan.output =
      image contents (scan.release limits Waiting.isInside) :=
  unwind_ofScan (fun entry => by cases entry <;> rfl) (fun _ h => h) scan

/-! ## Moves -/

theorem carry_operand (scan : Scan) (position : Nat) (o : Operand) :
    (ofScan scan).carry limits position (.operand o) =
      image ofScan (scan.takeOperand limits o) := by
  show (emit limits scan.output (.operand o) >>= _) = _
  rw [emit_ofScan, Scan.takeOperand]
  refine image_bind fun next hnext => ?_
  rw [frame_of_emit hnext]
  rfl

theorem carry_binary (scan : Scan) (position : Nat) (op : BinaryOperator) :
    (ofScan scan).carry limits position (.binary op) =
      image ofScan (scan.takeBinary limits op) := by
  show (unwind limits Entry.isApplied (scan.waiting.map Waiting.entry) scan.output >>= _) = _
  rw [unwind_applied, Scan.takeBinary]
  refine image_bind fun first hfirst => ?_
  show (unwind limits (Entry.precedes op.precedence) (first.waiting.map Waiting.entry)
    first.output >>= _) = _
  rw [unwind_precedes]
  refine image_bind fun second hsecond => ?_
  rw [frame_of_release hsecond, frame_of_release hfirst]
  rfl

theorem carry_left (scan : Scan) (position : Nat) :
    (ofScan scan).carry limits position .left =
      image ofScan (scan.takeLeft limits position) := by
  show (Except.mapError Failure.reported
    (Scan.within limits .nestingDepth (scan.opens.length + 1)) >>= _) = _
  simp only [Scan.takeLeft, List.length_cons]
  cases Scan.within limits .nestingDepth (scan.opens.length + 1) <;> rfl

/-- What is left on the stack when the innermost parenthesis comes to the top, and whether a
position is open. -/
theorem closing_of_release (hmatched : scan.Matched)
    (h : scan.release limits Waiting.isInside = .ok scan') :
    (scan.opens = [] ∧ scan'.waiting = []) ∨
      ∃ position opens outside, scan.opens = position :: opens ∧
        scan'.waiting = .left :: outside := by
  have hwaiting : scan'.waiting = scan.waiting.dropWhile Waiting.isInside :=
    congrArg Scan.waiting (frame_of_release h)
  rcases Scan.closing_cases hmatched with
    ⟨hopens, hclosed⟩ | ⟨position, opens, inside, outside, hopens, hsplit, hinside⟩
  · rw [List.dropWhile_eq_nil_iff.2 hclosed] at hwaiting
    exact .inl ⟨hopens, hwaiting⟩
  · rw [hsplit, List.dropWhile_append_of_pos hinside] at hwaiting
    exact .inr ⟨position, opens, outside, hopens, hwaiting⟩

theorem carry_right (hmatched : scan.Matched) (position : Nat) :
    (ofScan scan).carry limits position .right =
      image ofScan (scan.takeRight limits position) := by
  show (unwind limits Entry.isInside (scan.waiting.map Waiting.entry) scan.output >>= _) = _
  rw [unwind_inside, Scan.takeRight]
  refine image_bind fun inner hinner => ?_
  have hframe := frame_of_release hinner
  rcases closing_of_release hmatched hinner with
    ⟨_, hwaiting⟩ | ⟨place, opens, outside, hopens, hwaiting⟩
  · simp only [contents, hwaiting]
    rfl
  · have hinnerOpens : inner.opens = place :: opens := by rw [hframe, hopens]
    -- What is left once the parenthesis and its position are taken off.
    let outer : Scan := ⟨inner.expectation, outside, opens, inner.output⟩
    simp only [contents, hwaiting, hinnerOpens]
    show (innermost scan.opens >>= fun taken =>
        unwind limits Entry.isApplied (outer.waiting.map Waiting.entry) outer.output >>=
          fun rest => pure (⟨.operator, rest.1, taken.2, rest.2⟩ : Machine)) =
      image ofScan (outer.release limits Waiting.isApplied >>= _)
    rw [hopens, unwind_applied]
    refine image_bind fun last hlast => ?_
    rw [frame_of_release hlast]
    rfl

theorem carry_comma (scan : Scan) (position : Nat) :
    (ofScan scan).carry limits position .comma =
      image ofScan (scan.takeComma limits position) := by
  show (unwind limits Entry.isInside (scan.waiting.map Waiting.entry) scan.output >>= _) = _
  rw [unwind_inside, Scan.takeComma]
  refine image_bind fun inner hinner => ?_
  have hframe := frame_of_release hinner
  cases hwaiting : inner.waiting with
  | nil =>
      simp only [contents, hwaiting]
      rfl
  | cons entry outside =>
      have hopens : inner.opens = scan.opens := by rw [hframe]
      simp only [contents, hwaiting]
      show Except.ok (⟨.operand, (entry :: outside).map Waiting.entry, scan.opens, inner.output⟩ :
        Machine) = .ok (ofScan (inner.expect .operand))
      rw [← hwaiting, ← hopens]
      rfl

/-- **One move.**  A move does to the machine of a scan what it does to the scan. -/
theorem carry_ofScan (hmatched : scan.Matched) (position : Nat) (m : Move) :
    (ofScan scan).carry limits position m = image ofScan (scan.move limits position m) := by
  cases m with
  | operand o => exact carry_operand scan position o
  | function name op => rfl
  | unary op => rfl
  | binary op => exact carry_binary scan position op
  | left => exact carry_left scan position
  | right => exact carry_right hmatched position
  | comma => exact carry_comma scan position

/-- **One token.**  So does a token. -/
theorem consume_ofScan (hmatched : scan.Matched) (vocabulary : Vocabulary) (token : Token) :
    (ofScan scan).consume vocabulary token = image ofScan (scan.step vocabulary token) := by
  rw [Scan.step_eq]
  show (match scan.expectation.read vocabulary token.lexeme with
    | .ok m => (ofScan scan).carry vocabulary.limits token.position m
    | .error fault => .error (.reported (.parse fault token.position))) = _
  cases scan.expectation.read vocabulary token.lexeme with
  | error fault => rfl
  | ok m => exact carry_ofScan hmatched token.position m

/-- **The end.**  So does the end of the source. -/
theorem finish_ofScan (hmatched : scan.Matched) (position : Nat) :
    (ofScan scan).finish limits position = image id (scan.finish limits position) := by
  rcases Expectation.openParen_cases scan.expectation with hopen | ⟨function, hexpectation⟩
  · rw [Scan.finish_of_not_openParen hopen]
    have hfinish : (ofScan scan).finish limits position = (do
        let (stack, output) ← unwind limits Entry.isInside
          (scan.waiting.map Waiting.entry) scan.output
        match stack with
        | [] => return output
        | _ :: _ =>
          let (place, _) ← innermost scan.opens
          .error (.reported (.parse .unmatchedLeft place))) := by
      unfold finish
      split
      · rename_i function hexpectation
        rw [show scan.expectation = .openParen function from hexpectation] at hopen
        cases hopen
      · rfl
    rw [hfinish, unwind_inside]
    refine image_bind fun inner hinner => ?_
    have hopens : inner.opens = scan.opens := by rw [frame_of_release hinner]
    rcases closing_of_release hmatched hinner with
      ⟨_, hwaiting⟩ | ⟨place, opens, outside, hscan, hwaiting⟩
    · simp only [contents, hwaiting]
      rfl
    · simp only [contents, hwaiting, hopens, hscan]
      rfl
  · rw [finish, Scan.finish]
    simp only [ofScan, hexpectation]
    rfl

/-! ## Any number of tokens -/

/-- Tokens do to an empty machine what they do to an empty scan. -/
theorem foldlM_ofScan (vocabulary : Vocabulary) (taken : List Token) :
    taken.foldlM (consume vocabulary) {} =
      image ofScan (taken.foldlM (Scan.step vocabulary) {}) := by
  -- From the right: a scan that is reached from the empty one is matched before the last token.
  induction taken using List.reverseRecOn with
  | nil => rfl
  | append_singleton taken token ih =>
      rw [List.foldlM_append, List.foldlM_append, ih]
      refine image_bind fun scan hscan => ?_
      simp only [List.foldlM_cons, List.foldlM_nil, bind_pure]
      exact consume_ofScan (Scan.matched_of_foldlM_step hscan) vocabulary token

/-- What is on the stack of a machine that took tokens: of the groupings only open
parentheses, and as many as there are open positions. -/
structure Guarded (machine : Machine) : Prop where
  no_right : .grouping .right ∉ machine.stack
  no_comma : .grouping .comma ∉ machine.stack
  count_left : machine.stack.count (.grouping .left) = machine.opens.length

theorem guarded_ofScan (hmatched : scan.Matched) : (ofScan scan).Guarded := by
  refine ⟨?_, ?_, ?_⟩
  · intro hmem
    obtain ⟨entry, _, hentry⟩ := List.mem_map.1 hmem
    cases entry <;> cases hentry
  · intro hmem
    obtain ⟨entry, _, hentry⟩ := List.mem_map.1 hmem
    cases entry <;> cases hentry
  · have hinjective : Function.Injective Waiting.entry := by
      intro entry entry' hsame
      cases entry <;> cases entry' <;> cases hsame <;> rfl
    have hcount := List.count_map_of_injective scan.waiting Waiting.entry hinjective .left
    exact hcount.trans hmatched

/-- **The stack.**  However many tokens a machine took, its stack is as it has to be. -/
theorem guarded_of_foldlM {vocabulary : Vocabulary} {taken : List Token} {machine : Machine}
    (h : taken.foldlM (consume vocabulary) {} = .ok machine) : machine.Guarded := by
  rw [foldlM_ofScan] at h
  cases hscan : taken.foldlM (Scan.step vocabulary) {} with
  | error fault =>
      rw [hscan] at h
      cases h
  | ok scan =>
      rw [hscan] at h
      cases h
      exact guarded_ofScan (Scan.matched_of_foldlM_step hscan)

/-- Another stack could bring a machine down. -/
example :
    Machine.finish {} { stack := [.grouping .comma] } 0 =
        .error (.internal (.noOperation .comma)) ∧
      Machine.carry {} { stack := [.grouping .left] } 0 .right =
        .error (.internal .noOpenPosition) :=
  ⟨rfl, rfl⟩

end Machine

end Formula
