import Formula.Proofs.Scan.Machine

/-!
# A machine that remembers more

A machine does not know where an entry of its stack comes from, and a machine that fails is gone.
A *marked* machine knows of each entry the token that put it there, and when it fails, there is
the state that it has come to by then.  For the sake of that state it does everything in its
order: an expectation changes before or after entries are taken off, and an entry is taken off
before or after its operation is put out.

Without its marks, a marked machine does what a scan does.  So whatever is said of the tokens
behind the stack of a marked machine is said of the stack of the scan.

## Main results

* `Marked.leaves_unwind`: taking entries off takes no open parenthesis off, also if it fails.
* `Marked.erase_carry`: without its marks, a marked machine carries a move out as a machine does.
* `Marked.erase_start`: an empty marked machine does what an empty scan does.
-/

namespace Formula

open Outcome

/-! ## Marked machines -/

/-- An entry of a stack, and the token that put it there. -/
structure Mark where
  entry : Entry
  token : Token

/-- The state of a machine that knows where the entries of its stack come from. -/
structure Marked where
  expectation : Expectation := .operand
  stack : List Mark := []
  opens : List Nat := []
  output : List Element := []

/-- How a marked machine fails, and the state that it has come to then. -/
structure Halt where
  failure : Failure ScanFault
  state : Marked

namespace Marked

/-- Fails if a count is beyond its limit. -/
def check (limits : Limits) (bound : Bound) (count : Nat) (marked : Marked) :
    Except Halt Marked := do
  (Scan.within limits bound count).mapError fun fault => ⟨.reported fault, marked⟩
  return marked

/-- Puts an element out. -/
def emit (limits : Limits) (marked : Marked) (element : Element) : Except Halt Marked :=
  let behind := { marked with output := marked.output ++ [element] }
  behind.check limits .outputElements behind.output.length

/-- Takes entries off a stack, one by one, as long as they satisfy a test, and puts out the
operation of each.  An entry that is *held* stays on the stack until its operation is out. -/
def unwind (limits : Limits) (held : Bool) (test : Entry → Bool) :
    List Mark → Marked → Except Halt Marked
  | [], marked => .ok { marked with stack := [] }
  | mark :: stack, marked =>
    if test mark.entry then
      let during := { marked with stack := if held then mark :: stack else stack }
      match mark.entry.operation with
      | .error failure => .error ⟨failure, during⟩
      | .ok op => do
        let next ← during.emit limits (.operation op)
        unwind limits held test stack next
    else .ok { marked with stack := mark :: stack }

/-- Takes those entries off the top of the stack that satisfy a test. -/
def release (limits : Limits) (held : Bool) (test : Entry → Bool) (marked : Marked) :
    Except Halt Marked :=
  unwind limits held test marked.stack marked

/-- Puts an entry on the stack. -/
def push (marked : Marked) (entry : Entry) (token : Token) : Marked :=
  { marked with stack := ⟨entry, token⟩ :: marked.stack }

/-- Changes the expectation. -/
def expect (marked : Marked) (expectation : Expectation) : Marked := { marked with expectation }

/-- Takes the open parenthesis off that has come to the top of the stack, and then its
position. -/
def close (marked : Marked) (position : Nat) : Except Halt Marked :=
  match marked.stack with
  | [] => .error ⟨.reported (.parse .unmatchedRight position), marked⟩
  | _ :: outside =>
    match marked.opens with
    | [] => .error ⟨.internal .noOpenPosition, { marked with stack := outside }⟩
    | _ :: opens => .ok { marked with stack := outside, opens }

/-- Carries a move out. -/
def carry (limits : Limits) (marked : Marked) (token : Token) : Move → Except Halt Marked
  | .operand o => do return (← marked.emit limits (.operand o)).expect .operator
  | .function name op => .ok ((marked.push (.applied op) token).expect (.openParen name))
  | .unary op => .ok (marked.push (.applied (.unary op)) token)
  | .binary op => do
    let first ← marked.release limits false Entry.isApplied
    let second ← first.release limits true (Entry.precedes op.precedence)
    return (second.push (.binary op) token).expect .operand
  | .left => do
    let opened := { marked.push (.grouping .left) token with
      opens := token.position :: marked.opens }
    return (← opened.check limits .nestingDepth opened.opens.length).expect .operand
  | .right => do
    let inner ← (marked.expect .operator).release limits false Entry.isInside
    let outer ← inner.close token.position
    outer.release limits false Entry.isApplied
  | .comma => do
    let inner ← (marked.expect .operand).release limits true Entry.isInside
    match inner.stack with
    | [] => .error ⟨.reported (.parse .unmatchedComma token.position), inner⟩
    | _ :: _ => return inner

/-- Takes a token in. -/
def consume (vocabulary : Vocabulary) (marked : Marked) (token : Token) : Except Halt Marked :=
  match marked.expectation.read vocabulary token.lexeme with
  | .ok m => marked.carry vocabulary.limits token m
  | .error fault => .error ⟨.reported (.parse fault token.position), marked⟩

/-! ## Steps that may fail -/

/-- What holds of the state that some steps come to, whether they go through or fail. -/
def Leaves (property : Marked → Prop) : Except Halt Marked → Prop
  | .ok marked => property marked
  | .error halt => property halt.state

namespace Leaves

variable {property property' : Marked → Prop} {x : Except Halt Marked}

theorem of_eq_ok {marked : Marked} (h : Leaves property x) (hx : x = .ok marked) :
    property marked := by
  rw [hx] at h
  exact h

theorem imp (h : Leaves property x) (himp : ∀ marked, property marked → property' marked) :
    Leaves property' x := by
  cases x with
  | ok marked => exact himp marked h
  | error halt => exact himp halt.state h

theorem bind {next : Marked → Except Halt Marked} (h : Leaves property x)
    (himp : ∀ marked, property marked → property' marked)
    (hnext : ∀ marked, property marked → Leaves property' (next marked)) :
    Leaves property' (x >>= next) := by
  cases x with
  | ok marked => exact hnext marked h
  | error halt => exact himp halt.state h

end Leaves

/-- What is seen of an outcome, without the state that a failure leaves. -/
def erase {α : Type} (view : Marked → α) (outcome : Except Halt Marked) :
    Except (Failure ScanFault) α :=
  (outcome.map view).mapError Halt.failure

/-- Steps in sequence are seen one by one. -/
theorem erase_bind {α β : Type} {view : Marked → α} {view' : Marked → β}
    {x : Except Halt Marked} {next : Marked → Except Halt Marked}
    {next' : α → Except (Failure ScanFault) β}
    (h : ∀ marked, x = .ok marked → next' (view marked) = erase view' (next marked)) :
    (erase view x >>= next') = erase view' (x >>= next) := by
  cases x with
  | error halt => rfl
  | ok marked => exact h marked rfl

end Marked

/-! ## What stays when entries are taken off -/

/-- What is recorded of the parentheses that are open: their positions, and the tokens that put
them on the stack.  The innermost comes first. -/
structure Records where
  opens : List Nat
  lefts : List Token

namespace Marked

/-- The tokens that put the open parentheses on the stack, the innermost first. -/
def lefts (marked : Marked) : List Token :=
  (marked.stack.filter fun mark => mark.entry == .grouping .left).map Mark.token

def records (marked : Marked) : Records := ⟨marked.opens, marked.lefts⟩

/-- What is left alone when elements are put out and entries are taken off. -/
structure Keeps (before after : Marked) : Prop where
  expectation : after.expectation = before.expectation
  records : after.records = before.records

section Releasing

variable {limits : Limits} {held : Bool} {test : Entry → Bool} {marked next : Marked}
  {mark : Mark} {stack : List Mark}

theorem Keeps.trans {first second third : Marked} (h : first.Keeps second)
    (h' : second.Keeps third) : first.Keeps third :=
  ⟨h'.expectation.trans h.expectation, h'.records.trans h.records⟩

theorem Keeps.opens (h : marked.Keeps next) : next.opens = marked.opens :=
  congrArg Records.opens h.records

/-- An entry that is no open parenthesis is not recorded. -/
theorem records_cons_of_ne (h : mark.entry ≠ .grouping .left) :
    records { marked with stack } = records { marked with stack := mark :: stack } := by
  simp [records, lefts, h]

theorem leaves_emit (marked : Marked) (element : Element) :
    Leaves (fun next => marked.Keeps next ∧ next.stack = marked.stack)
      (marked.emit limits element) := by
  rw [emit, check]
  cases Scan.within limits .outputElements (marked.output ++ [element]).length <;>
    exact ⟨⟨rfl, rfl⟩, rfl⟩

/-- Entries that are taken off are not recorded, unless open parentheses satisfy the test. -/
theorem leaves_unwind (htest : test (.grouping .left) = false) (stack : List Mark)
    (marked : Marked) :
    Leaves (Keeps { marked with stack }) (unwind limits held test stack marked) := by
  induction stack generalizing marked with
  | nil => exact ⟨rfl, rfl⟩
  | cons mark stack ih =>
      rw [unwind]
      by_cases hmark : test mark.entry = true
      · have hne : mark.entry ≠ .grouping .left := by
          intro heq
          rw [heq, htest] at hmark
          cases hmark
        have hoff : Keeps { marked with stack := mark :: stack } { marked with stack } :=
          ⟨rfl, records_cons_of_ne hne⟩
        -- Whether the entry is held or not, the same is recorded.
        have hduring : Keeps { marked with stack := mark :: stack }
            { marked with stack := if held then mark :: stack else stack } := by
          cases held with
          | true => exact ⟨rfl, rfl⟩
          | false => exact hoff
        rw [if_pos hmark]
        cases mark.entry.operation with
        | error failure => exact hduring
        | ok op =>
            refine (leaves_emit _ (.operation op)).bind ?_ ?_
            · intro next hnext
              exact hduring.trans hnext.1
            · intro next hnext
              have hopens : next.opens = marked.opens := hnext.1.opens
              have hnow : Keeps { marked with stack } { next with stack } :=
                ⟨hnext.1.expectation, congrArg (Records.mk · _) hopens⟩
              exact (ih next).imp fun last hlast => (hoff.trans hnow).trans hlast
      · rw [if_neg hmark]
        exact ⟨rfl, rfl⟩

theorem leaves_release (htest : test (.grouping .left) = false) (marked : Marked) :
    Leaves marked.Keeps (marked.release limits held test) :=
  leaves_unwind htest marked.stack marked

theorem keeps_of_release (htest : test (.grouping .left) = false)
    (h : marked.release limits held test = .ok next) : marked.Keeps next :=
  (leaves_release htest marked).of_eq_ok h

/-- The entry that comes to the top does not satisfy the test. -/
theorem top_of_unwind (h : unwind limits held test stack marked = .ok next) :
    ∀ mark ∈ next.stack.head?, test mark.entry = false := by
  induction stack generalizing marked with
  | nil =>
      cases h
      simp
  | cons mark stack ih =>
      rw [unwind] at h
      by_cases hmark : test mark.entry = true
      · rw [if_pos hmark] at h
        cases hop : (mark.entry.operation : Except (Failure ScanFault) Operation) with
        | error failure =>
            rw [hop] at h
            cases h
        | ok op =>
            rw [hop] at h
            obtain ⟨_, _, hrest⟩ := exists_of_bind h
            exact ih hrest
      · rw [if_neg hmark] at h
        cases h
        simpa using hmark

end Releasing

/-! ## Without the marks -/

/-- The machine that is left when the marks are taken away. -/
def machine (marked : Marked) : Machine where
  expectation := marked.expectation
  stack := marked.stack.map Mark.entry
  opens := marked.opens
  output := marked.output

/-- The stack and the output of the machine that is left. -/
def contents (marked : Marked) : List Entry × List Element :=
  (marked.stack.map Mark.entry, marked.output)

section Erasing

variable {limits : Limits} {held : Bool} {test : Entry → Bool}

theorem erase_emit (marked : Marked) (element : Element) :
    Machine.emit limits marked.output element = erase output (marked.emit limits element) := by
  rw [Machine.emit, emit, check]
  cases Scan.within limits .outputElements (marked.output ++ [element]).length <;> rfl

theorem erase_unwind (stack : List Mark) (marked : Marked) :
    Machine.unwind limits test (stack.map Mark.entry) marked.output =
      erase contents (unwind limits held test stack marked) := by
  induction stack generalizing marked with
  | nil => rfl
  | cons mark stack ih =>
      rw [List.map_cons, Machine.unwind, unwind]
      by_cases hmark : test mark.entry = true
      · rw [if_pos hmark, if_pos hmark]
        cases mark.entry.operation with
        | error failure => rfl
        | ok op =>
            let during : Marked := { marked with stack := if held then mark :: stack else stack }
            show (Machine.emit limits during.output (.operation op) >>= _) = _
            rw [erase_emit]
            exact erase_bind fun next _ => ih next
      · rw [if_neg hmark, if_neg hmark]
        rfl

/-- Whether entries are held makes no difference to the machine. -/
theorem erase_release (held : Bool) (marked : Marked) :
    Machine.unwind limits test (marked.stack.map Mark.entry) marked.output =
      erase contents (marked.release limits held test) :=
  erase_unwind marked.stack marked

theorem erase_operand (marked : Marked) (token : Token) (o : Operand) :
    marked.machine.carry limits token.position (.operand o) =
      erase machine (marked.carry limits token (.operand o)) := by
  show (Machine.emit limits marked.output (.operand o) >>= _) = _
  rw [erase_emit]
  refine erase_bind fun next hnext => ?_
  obtain ⟨hkeeps, hstack⟩ := (leaves_emit marked (.operand o)).of_eq_ok hnext
  show Except.ok (⟨.operator, marked.stack.map Mark.entry, marked.opens, next.output⟩ : Machine)
    = .ok ⟨.operator, next.stack.map Mark.entry, next.opens, next.output⟩
  rw [hkeeps.opens, hstack]

theorem erase_binary (marked : Marked) (token : Token) (op : BinaryOperator) :
    marked.machine.carry limits token.position (.binary op) =
      erase machine (marked.carry limits token (.binary op)) := by
  show (Machine.unwind limits Entry.isApplied (marked.stack.map Mark.entry)
    marked.output >>= _) = _
  rw [erase_release false]
  refine erase_bind fun first hfirst => ?_
  show (Machine.unwind limits (Entry.precedes op.precedence) (first.stack.map Mark.entry)
    first.output >>= _) = _
  rw [erase_release true]
  refine erase_bind fun second hsecond => ?_
  have hkeeps := (keeps_of_release rfl hfirst).trans (keeps_of_release rfl hsecond)
  show Except.ok (⟨.operand, _, marked.opens, _⟩ : Machine) = .ok ⟨.operand, _, second.opens, _⟩
  rw [hkeeps.opens]
  rfl

theorem erase_left (marked : Marked) (token : Token) :
    marked.machine.carry limits token.position .left =
      erase machine (marked.carry limits token .left) := by
  have hopens : marked.machine.opens = marked.opens := rfl
  rw [carry, check, Machine.carry, hopens]
  cases Scan.within limits .nestingDepth (token.position :: marked.opens).length <;> rfl

theorem erase_right (marked : Marked) (token : Token) :
    marked.machine.carry limits token.position .right =
      erase machine (marked.carry limits token .right) := by
  show (Machine.unwind limits Entry.isInside ((marked.expect .operator).stack.map Mark.entry)
    (marked.expect .operator).output >>= _) = _
  rw [erase_release false]
  refine erase_bind fun inner hinner => ?_
  have hkeeps := keeps_of_release rfl hinner
  have hopens : marked.opens = inner.opens := hkeeps.opens.symm
  cases hstack : inner.stack with
  | nil =>
      simp only [contents, hstack, close]
      rfl
  | cons mark outside =>
      cases hplaces : inner.opens with
      | nil =>
          rw [hplaces] at hopens
          simp only [contents, hstack, machine, hopens, close, hplaces]
          rfl
      | cons place opens =>
          -- What is left once the parenthesis and its position are taken off.
          let outer : Marked := ⟨inner.expectation, outside, opens, inner.output⟩
          rw [hplaces] at hopens
          simp only [contents, hstack, machine, hopens, close, hplaces]
          show (Machine.unwind limits Entry.isApplied (outer.stack.map Mark.entry)
            outer.output >>= fun rest =>
              pure (⟨.operator, rest.1, opens, rest.2⟩ : Machine)) =
            erase machine (outer.release limits false Entry.isApplied)
          rw [erase_release false]
          conv_rhs => rw [← bind_pure (outer.release limits false Entry.isApplied)]
          refine erase_bind fun last hlast => ?_
          have hlater := keeps_of_release rfl hlast
          have hexpectation : last.expectation = .operator :=
            hlater.expectation.trans hkeeps.expectation
          show Except.ok (⟨.operator, last.stack.map Mark.entry, opens, last.output⟩ : Machine)
            = .ok ⟨last.expectation, last.stack.map Mark.entry, last.opens, last.output⟩
          rw [hlater.opens, hexpectation]

theorem erase_comma (marked : Marked) (token : Token) :
    marked.machine.carry limits token.position .comma =
      erase machine (marked.carry limits token .comma) := by
  show (Machine.unwind limits Entry.isInside ((marked.expect .operand).stack.map Mark.entry)
    (marked.expect .operand).output >>= _) = _
  rw [erase_release true]
  refine erase_bind fun inner hinner => ?_
  have hkeeps := keeps_of_release rfl hinner
  have hopens : inner.opens = marked.opens := hkeeps.opens
  have hexpectation : inner.expectation = .operand := hkeeps.expectation
  cases hstack : inner.stack with
  | nil =>
      simp only [contents, hstack]
      rfl
  | cons mark outside =>
      simp only [contents, hstack]
      show Except.ok (⟨.operand, (mark :: outside).map Mark.entry, marked.opens,
        inner.output⟩ : Machine) =
          .ok ⟨inner.expectation, inner.stack.map Mark.entry, inner.opens, inner.output⟩
      rw [hopens, hexpectation, hstack]

/-- **One move.**  Without its marks, a marked machine carries a move out as a machine does. -/
theorem erase_carry (marked : Marked) (token : Token) (m : Move) :
    marked.machine.carry limits token.position m =
      erase machine (marked.carry limits token m) := by
  cases m with
  | operand o => exact erase_operand marked token o
  | function name op => rfl
  | unary op => rfl
  | binary op => exact erase_binary marked token op
  | left => exact erase_left marked token
  | right => exact erase_right marked token
  | comma => exact erase_comma marked token

end Erasing

/-! ## Any number of tokens -/

section Taking

variable {vocabulary : Vocabulary} {taken : List Token} {marked : Marked} {scan : Scan}

/-- **One token.**  So it takes a token in. -/
theorem erase_consume (marked : Marked) (token : Token) :
    marked.machine.consume vocabulary token = erase machine (marked.consume vocabulary token) := by
  rw [Machine.consume, consume]
  show (match marked.expectation.read vocabulary token.lexeme with
    | .ok m => marked.machine.carry vocabulary.limits token.position m
    | .error fault => .error (.reported (.parse fault token.position))) = _
  cases marked.expectation.read vocabulary token.lexeme with
  | error fault => rfl
  | ok m => exact erase_carry marked token m

theorem erase_foldlM (marked : Marked) (taken : List Token) :
    taken.foldlM (Machine.consume vocabulary) marked.machine =
      erase machine (taken.foldlM (consume vocabulary) marked) := by
  induction taken generalizing marked with
  | nil => rfl
  | cons token taken ih =>
      rw [List.foldlM_cons, List.foldlM_cons, erase_consume]
      exact erase_bind fun next _ => ih next

/-- Without its marks, an empty marked machine does what an empty scan does. -/
theorem erase_start (vocabulary : Vocabulary) (taken : List Token) :
    erase machine (taken.foldlM (consume vocabulary) {}) =
      Machine.image Machine.ofScan (taken.foldlM (Scan.step vocabulary) {}) :=
  (erase_foldlM {} taken).symm.trans (Machine.foldlM_ofScan vocabulary taken)

theorem exists_scan_of_foldlM (h : taken.foldlM (consume vocabulary) {} = .ok marked) :
    ∃ scan, taken.foldlM (Scan.step vocabulary) {} = .ok scan ∧
      Machine.ofScan scan = marked.machine := by
  have herase := erase_start vocabulary taken
  rw [h] at herase
  exact exists_of_map (eq_ok_of_mapError herase.symm)

theorem exists_marked_of_foldlM (h : taken.foldlM (Scan.step vocabulary) {} = .ok scan) :
    ∃ marked, taken.foldlM (consume vocabulary) {} = .ok marked ∧
      marked.machine = Machine.ofScan scan := by
  have herase := erase_start vocabulary taken
  rw [h] at herase
  exact exists_of_map (eq_ok_of_mapError herase)

end Taking

end Marked

end Formula
