import Formula.Proofs.Grammar.Lexemes
import Formula.Proofs.Scan.Machine
import Mathlib.Data.List.Chain

/-!
# What waits on the stack

Between two open parentheses a stack is always built in the same way, whatever the source:
binary operators, each of which binds tighter than the one below it, and upon them unary
operators and functions.  No state of a scan says so.  It follows from what may come directly
above what: a binary operator comes above another only if it binds tighter, and never above a
unary operator or a function, for these are released before; and above a function comes nothing
but the parenthesis of its arguments.

So a binary operator that releases first the unary operators and functions at the top, and then
the binary operators that bind as tight as itself, has released all that binds as tight in its
group.  There is none left below the first that stays.

## Main results

* `Scan.arranged_advance`: no move puts anything above what it may not stand above.
* `Scan.arranged_of_foldlM`: so it is on the stack of every scan that took tokens.
* `Waiting.segment_of_isChain`: what is between two open parentheses.
* `Scan.Arranged.takeBinary_eq`: the two rounds in which entries are released are one.
* `Machine.stack_shape`: the stack of a machine, in every state that it comes to.
-/

namespace Formula

open Outcome

/-! ## What may stand above what -/

/-- Whether an operation is one that the name of a function stands for. -/
def Operation.IsFunction (op : Operation) : Prop := ∃ name, Symbol.function? name = some op

/-- Whether one operator binds tighter than another. -/
def BinaryOperator.Tighter (upper lower : BinaryOperator) : Prop :=
  lower.precedence < upper.precedence

instance : Trans BinaryOperator.Tighter BinaryOperator.Tighter BinaryOperator.Tighter :=
  ⟨fun h h' => Nat.lt_trans h' h⟩

namespace Waiting

/-- `Stands upper lower` says that an entry can be directly above another on the stack. -/
inductive Stands : Waiting → Waiting → Prop where
  | left (lower : Waiting) : Stands .left lower
  | onLeft (upper : Waiting) : Stands upper .left
  | appliedOnBinary (op : Operation) (lower : BinaryOperator) :
    Stands (.applied op) (.binary lower)
  | applied (op : Operation) {lower : Operation} : ¬ lower.IsFunction →
    Stands (.applied op) (.applied lower)
  | binary {upper lower : BinaryOperator} : upper.Tighter lower →
    Stands (.binary upper) (.binary lower)

/-- An entry that is an open parenthesis, or for an operator or a function of the language. -/
inductive Known : Waiting → Prop where
  | left : Known .left
  | binary {c : Char} {op : BinaryOperator} : Symbol.binary? c = some op → Known (.binary op)
  | unary {c : Char} {op : UnaryOperation} : Symbol.unary? c = some op →
    Known (.applied (.unary op))
  | function {name : Text} {op : Operation} : Symbol.function? name = some op →
    Known (.applied op)

/-- Whether an entry is inside a group and binds as tight as an operator of the given
precedence, or tighter. -/
def bindsAs (precedence : Nat) (entry : Waiting) : Bool :=
  entry.isApplied || entry.precedes precedence

end Waiting

/-- No function has the operation of a unary operator. -/
theorem Symbol.not_isFunction_of_unary {c : Char} {op : UnaryOperation}
    (h : Symbol.unary? c = some op) : ¬ (Operation.unary op).IsFunction := by
  rintro ⟨name, hname⟩
  obtain ⟨before, after, hfunctions, _⟩ := List.lookup_eq_some_iff.1 hname
  have hmem : Operation.unary op ∈ Symbol.functions.map Prod.snd := by
    rw [hfunctions]
    simp
  unfold Symbol.unary? at h
  split at h <;> cases h <;> revert hmem <;> decide

/-- What means a function is its name. -/
theorem Vocabulary.function?_of_meaning? {vocabulary : Vocabulary} {name : Text}
    {op : Operation} (h : vocabulary.meaning? name = some (.function op)) :
    Symbol.function? name = some op := by
  unfold meaning? at h
  split at h
  · split at h <;> cases h
  · split at h
    · cases h
    · split at h
      · cases h
      · obtain ⟨found, hfound, hsame⟩ := Option.map_eq_some_iff.1 h
        cases hsame
        exact hfound

/-! ## Releasing in two rounds -/

namespace Waiting

variable {waiting : List Waiting}

/-- Above a binary operator that is released, no unary operator or function is left: to
release first these and then the binary operators is to release all that bind as tight. -/
theorem takeWhile_bindsAs (hchain : waiting.IsChain Stands) (precedence : Nat) :
    waiting.takeWhile (bindsAs precedence) = waiting.takeWhile isApplied ++
      (waiting.dropWhile isApplied).takeWhile (precedes precedence) := by
  induction waiting with
  | nil => rfl
  | cons entry waiting ih =>
      obtain ⟨hhead, htail⟩ := List.isChain_cons.1 hchain
      have hlater := ih htail
      cases entry with
      | left => rfl
      | applied op =>
          rw [List.takeWhile_cons_of_pos rfl, List.takeWhile_cons_of_pos rfl,
            List.dropWhile_cons_of_pos rfl, hlater]
          rfl
      | binary op =>
          have hnot : ¬ (binary op).isApplied = true := Bool.false_ne_true
          rw [List.takeWhile_cons_of_neg hnot, List.dropWhile_cons_of_neg hnot, List.nil_append]
          by_cases hop : precedence ≤ op.precedence
          · have htop : ∀ lower ∈ waiting.head?, lower.isApplied = false := by
              intro lower hlower
              cases hhead lower hlower <;> rfl
            have hnone : waiting.takeWhile isApplied = [] ∧
                waiting.dropWhile isApplied = waiting := by
              cases waiting with
              | nil => exact ⟨rfl, rfl⟩
              | cons lower waiting => simp [htop lower rfl]
            rw [List.takeWhile_cons_of_pos (by simpa [bindsAs, precedes, isApplied] using hop),
              List.takeWhile_cons_of_pos (by simpa [precedes] using hop), hlater, hnone.1,
              hnone.2, List.nil_append]
          · rw [List.takeWhile_cons_of_neg (by simpa [bindsAs, precedes, isApplied] using hop),
              List.takeWhile_cons_of_neg (by simpa [precedes] using hop)]

theorem dropWhile_bindsAs (hchain : waiting.IsChain Stands) (precedence : Nat) :
    waiting.dropWhile (bindsAs precedence) =
      (waiting.dropWhile isApplied).dropWhile (precedes precedence) := by
  have hsplit : waiting.takeWhile (bindsAs precedence) ++ waiting.dropWhile (bindsAs precedence) =
      waiting.takeWhile (bindsAs precedence) ++
        (waiting.dropWhile isApplied).dropWhile (precedes precedence) := by
    rw [List.takeWhile_append_dropWhile, takeWhile_bindsAs hchain, List.append_assoc,
      List.takeWhile_append_dropWhile, List.takeWhile_append_dropWhile]
  exact List.append_cancel_left hsplit

/-- What is not released lets a binary operator of the precedence stand above it. -/
theorem stands_binary (op : BinaryOperator) :
    ∀ lower ∈ (waiting.dropWhile (bindsAs op.precedence)).head?, Stands (.binary op) lower := by
  intro lower hlower
  have hnot := List.head?_dropWhile_not (bindsAs op.precedence) waiting
  rw [Option.mem_def.1 hlower] at hnot
  cases lower with
  | left => exact .onLeft _
  | applied lower => cases hnot
  | binary lower =>
      refine .binary (Nat.lt_of_not_le fun hle => ?_)
      have hbelow : bindsAs op.precedence (.binary lower) = false := hnot
      simp [bindsAs, precedes, isApplied, hle] at hbelow

/-- What stands below a binary operator in its group are binary operators that bind less
tight. -/
theorem tighter_of_isChain {op : BinaryOperator} (hchain : (.binary op :: waiting).IsChain Stands) :
    ∀ entry ∈ waiting.takeWhile isInside, ∃ lower, entry = .binary lower ∧ op.Tighter lower := by
  induction waiting generalizing op with
  | nil => simp
  | cons entry waiting ih =>
      obtain ⟨hstands, hrest⟩ := List.isChain_cons_cons.1 hchain
      cases hstands with
      | onLeft => simp [isInside]
      | @binary _ lower htighter =>
          rw [List.takeWhile_cons_of_pos rfl, List.forall_mem_cons]
          refine ⟨⟨lower, rfl, htighter⟩, fun entry hentry => ?_⟩
          obtain ⟨lowest, rfl, hlowest⟩ := ih hrest entry hentry
          exact ⟨lowest, rfl, Trans.trans htighter hlowest⟩

/-! ## Between two open parentheses -/

/-- Operators that bind tighter and tighter are no more than there are levels. -/
theorem length_le_of_tighter {operators : List BinaryOperator} {level : Nat}
    (htighter : operators.Pairwise BinaryOperator.Tighter)
    (hlevel : ∀ op ∈ operators, op.precedence < level) : operators.length ≤ level := by
  induction operators generalizing level with
  | nil => exact Nat.zero_le _
  | cons op operators ih =>
      obtain ⟨hbelow, hrest⟩ := List.pairwise_cons.1 htighter
      have hlength : operators.length ≤ op.precedence := ih hrest hbelow
      have hop : op.precedence < level := hlevel op List.mem_cons_self
      rw [List.length_cons]
      omega

/-- `Segment inside` says that entries are binary operators, no more than five, each of which
binds tighter than the one below it, and unary operators and functions above them. -/
def Segment (inside : List Waiting) : Prop :=
  ∃ (applied : List Operation) (operators : List BinaryOperator),
    inside = applied.map .applied ++ operators.map .binary ∧
    operators.Pairwise BinaryOperator.Tighter ∧ operators.length ≤ 5

/-- Entries that stand above each other without an open parenthesis are a segment. -/
theorem segment_of_isChain {inside : List Waiting} (hchain : inside.IsChain Stands)
    (hknown : ∀ entry ∈ inside, entry.Known)
    (hinside : ∀ entry ∈ inside, entry.isInside = true) : Segment inside := by
  have hsplit : ∃ (applied : List Operation) (operators : List BinaryOperator),
      inside = applied.map .applied ++ operators.map .binary := by
    clear hknown
    induction inside with
    | nil => exact ⟨[], [], rfl⟩
    | cons entry inside ih =>
        obtain ⟨hhead, htail⟩ := List.isChain_cons.1 hchain
        obtain ⟨hentry, hrest⟩ := List.forall_mem_cons.1 hinside
        obtain ⟨applied, operators, rfl⟩ := ih htail hrest
        cases entry with
        | left => cases hentry
        | applied op => exact ⟨op :: applied, operators, rfl⟩
        | binary op =>
            cases applied with
            | nil => exact ⟨[], op :: operators, rfl⟩
            | cons lower applied => cases hhead _ rfl
  obtain ⟨applied, operators, rfl⟩ := hsplit
  have hoperators : (operators.map Waiting.binary).IsChain Stands :=
    hchain.suffix (List.suffix_append _ _)
  have htighter : operators.Pairwise BinaryOperator.Tighter := by
    refine List.isChain_iff_pairwise.1 (((List.isChain_map _).1 hoperators).imp ?_)
    intro upper lower hstands
    cases hstands with
    | binary h => exact h
  refine ⟨applied, operators, rfl, htighter, length_le_of_tighter htighter fun op hop => ?_⟩
  cases hknown (.binary op) (List.mem_append_right _ (List.mem_map_of_mem hop)) with
  | binary hc => exact (Symbol.binary?_eq_some_iff.1 hc).level_lt

end Waiting

namespace Scan

variable {scan scan' : Scan} {position : Nat} {m : Move} {vocabulary : Vocabulary}

/-! ## What every move preserves -/

/-- Every entry of the stack may stand where it does; and a function is at the top exactly if
its open parenthesis is expected. -/
structure Arranged (scan : Scan) : Prop where
  chain : scan.waiting.IsChain Waiting.Stands
  known : ∀ entry ∈ scan.waiting, entry.Known
  top : ∀ op below, scan.waiting = .applied op :: below → op.IsFunction →
    scan.expectation.isOpenParen = true
  called : ∀ name, scan.expectation = .openParen name →
    ∃ op below, Symbol.function? name = some op ∧ scan.waiting = .applied op :: below

theorem arranged_empty : ({} : Scan).Arranged :=
  ⟨.nil, by simp, fun _ _ h => (by cases h), fun _ h => (by cases h)⟩

/-- Where no parenthesis is expected, no function is at the top. -/
theorem arranged_of_not_openParen (hopen : scan.expectation.isOpenParen = false)
    (hchain : scan.waiting.IsChain Waiting.Stands) (hknown : ∀ entry ∈ scan.waiting, entry.Known)
    (htop : ∀ op ∈ scan.waiting.head?, ∀ called, op = .applied called → ¬ called.IsFunction) :
    scan.Arranged := by
  refine ⟨hchain, hknown, fun op below hwaiting hfunction => ?_, fun name hname => ?_⟩
  · exact absurd hfunction (htop (.applied op) (by rw [hwaiting]; rfl) op rfl)
  · rw [hname] at hopen
    cases hopen

namespace Arranged

/-- Where no parenthesis is expected, a unary operator or a function may come to the top. -/
theorem stands_applied (h : scan.Arranged) (hopen : scan.expectation.isOpenParen = false)
    (op : Operation) : ∀ lower ∈ scan.waiting.head?, Waiting.Stands (.applied op) lower := by
  intro lower hlower
  obtain ⟨below, hwaiting⟩ := List.head?_eq_some_iff.1 hlower
  cases lower with
  | left => exact .onLeft _
  | binary lower => exact .appliedOnBinary op lower
  | applied lower =>
      refine .applied op fun hfunction => ?_
      rw [h.top lower below hwaiting hfunction] at hopen
      cases hopen

theorem top_not_function (h : scan.Arranged) (hopen : scan.expectation.isOpenParen = false) :
    ∀ op ∈ scan.waiting.head?, ∀ called, op = .applied called → ¬ called.IsFunction := by
  rintro _ hop called rfl hfunction
  obtain ⟨below, hwaiting⟩ := List.head?_eq_some_iff.1 hop
  rw [h.top called below hwaiting hfunction] at hopen
  cases hopen

end Arranged

/-- Entries that are released uncover no function. -/
theorem not_isFunction_dropWhile_isApplied (waiting : List Waiting) :
    ∀ op ∈ (waiting.dropWhile Waiting.isApplied).head?, ∀ called, op = .applied called →
      ¬ called.IsFunction := by
  rintro _ hop called rfl _
  have hnot := List.head?_dropWhile_not Waiting.isApplied waiting
  rw [Option.mem_def.1 hop] at hnot
  cases hnot

/-- **One move.**  A move that a lexeme asks for leaves the stack arranged. -/
theorem arranged_advance {lexeme : Lexeme} (harranged : scan.Arranged)
    (hread : Reads vocabulary scan.expectation lexeme m)
    (h : scan.advance position m = .ok scan') : scan'.Arranged := by
  generalize hexpectation : scan.expectation = expectation at hread
  cases hread with
  | operand hopen _ =>
      cases h
      rw [← hexpectation] at hopen
      exact arranged_of_not_openParen rfl harranged.chain harranged.known
        (harranged.top_not_function hopen)
  | @function _ name op hopen hmeaning =>
      cases h
      rw [← hexpectation] at hopen
      have hname := Vocabulary.function?_of_meaning? hmeaning
      refine ⟨?_, ?_, fun _ _ _ _ => rfl, ?_⟩
      · exact List.isChain_cons.2 ⟨harranged.stands_applied hopen op, harranged.chain⟩
      · exact List.forall_mem_cons.2 ⟨.function hname, harranged.known⟩
      · rintro _ ⟨⟩
        exact ⟨op, scan.waiting, hname, rfl⟩
  | @unary c op hop =>
      cases h
      have hopen : scan.expectation.isOpenParen = false := by rw [hexpectation]; rfl
      refine arranged_of_not_openParen hopen ?_ ?_ ?_
      · exact List.isChain_cons.2 ⟨harranged.stands_applied hopen _, harranged.chain⟩
      · exact List.forall_mem_cons.2 ⟨.unary hop, harranged.known⟩
      · rintro _ ⟨⟩ _ ⟨⟩
        exact Symbol.not_isFunction_of_unary hop
  | @binary c op hop =>
      cases h
      have hrest : (scan.waiting.dropWhile Waiting.isApplied).dropWhile
          (Waiting.precedes op.precedence) =
            scan.waiting.dropWhile (Waiting.bindsAs op.precedence) :=
        (Waiting.dropWhile_bindsAs harranged.chain op.precedence).symm
      have hsuffix := List.dropWhile_suffix (Waiting.bindsAs op.precedence) (l := scan.waiting)
      refine arranged_of_not_openParen rfl ?_ ?_ ?_
      · show (Waiting.binary op :: (scan.waiting.dropWhile Waiting.isApplied).dropWhile
          (Waiting.precedes op.precedence)).IsChain Waiting.Stands
        rw [hrest]
        exact List.isChain_cons.2
          ⟨Waiting.stands_binary op, harranged.chain.suffix hsuffix⟩
      · show ∀ entry ∈ Waiting.binary op :: (scan.waiting.dropWhile Waiting.isApplied).dropWhile
          (Waiting.precedes op.precedence), entry.Known
        rw [hrest]
        exact List.forall_mem_cons.2
          ⟨.binary hop, fun entry hentry => harranged.known entry (hsuffix.subset hentry)⟩
      · rintro _ ⟨⟩ _ ⟨⟩
  | left =>
      cases h
      refine arranged_of_not_openParen rfl ?_ ?_ ?_
      · exact List.isChain_cons.2 ⟨fun lower _ => .left lower, harranged.chain⟩
      · exact List.forall_mem_cons.2 ⟨.left, harranged.known⟩
      · rintro _ ⟨⟩ _ ⟨⟩
  | right _ =>
      obtain ⟨inside, outside, hwaiting, _, rfl⟩ := waiting_of_advance_right h
      have hsuffix : outside.dropWhile Waiting.isApplied <:+ scan.waiting := by
        rw [hwaiting]
        exact (List.dropWhile_suffix _).trans
          ((List.suffix_cons _ _).trans (List.suffix_append _ _))
      refine arranged_of_not_openParen rfl ?_ ?_ ?_
      · exact harranged.chain.suffix hsuffix
      · exact fun entry hentry => harranged.known entry (hsuffix.subset hentry)
      · exact not_isFunction_dropWhile_isApplied outside
  | comma _ =>
      obtain ⟨inside, outside, hwaiting, _, rfl⟩ := waiting_of_advance_comma h
      have hsuffix : .left :: outside <:+ scan.waiting := by
        rw [hwaiting]
        exact List.suffix_append _ _
      refine arranged_of_not_openParen rfl ?_ ?_ ?_
      · exact harranged.chain.suffix hsuffix
      · exact fun entry hentry => harranged.known entry (hsuffix.subset hentry)
      · rintro _ ⟨⟩ _ ⟨⟩

theorem arranged_foldlM_proceed {source : List Token} (harranged : scan.Arranged)
    (h : source.foldlM (proceed vocabulary) scan = .ok scan') : scan'.Arranged := by
  induction source generalizing scan with
  | nil =>
      cases h
      exact harranged
  | cons token source ih =>
      rw [List.foldlM_cons] at h
      obtain ⟨next, hnext, hrest⟩ := exists_of_bind h
      obtain ⟨m, hread, hadvance⟩ := reads_of_proceed hnext
      exact ih (arranged_advance harranged hread hadvance) hrest

/-- **Every state.**  However many tokens a scan took, its stack is arranged. -/
theorem arranged_of_foldlM {taken : List Token}
    (h : taken.foldlM (step vocabulary) {} = .ok scan) : scan.Arranged :=
  arranged_foldlM_proceed arranged_empty (foldlM_proceed_of_step h)

/-! ## One round for two -/

/-- Putting operations out does not look at the stack. -/
theorem emitAll_waiting {limits : Limits} (scan : Scan) (waiting : List Waiting)
    (ops : List Operation) :
    ({ scan with waiting } : Scan).emitAll limits ops =
      (scan.emitAll limits ops).map fun next => { next with waiting } := by
  induction ops generalizing scan with
  | nil => rfl
  | cons op ops ih =>
      have hemit : ({ scan with waiting } : Scan).emit limits (.operation op) =
          (scan.emit limits (.operation op)).map fun next => { next with waiting } := by
        rw [emit, emit]
        show (within limits .outputElements _ >>= _) = _
        cases within limits .outputElements (scan.output ++ [Element.operation op]).length <;> rfl
      rw [emitAll, emitAll, List.foldlM_cons, List.foldlM_cons, hemit]
      cases scan.emit limits (.operation op) with
      | error fault => rfl
      | ok next => exact ih next

/-- Two rounds of releasing entries are one, if one takes off what the two take off. -/
theorem release_release {limits : Limits} {first second both : Waiting → Bool} (scan : Scan)
    (htake : scan.waiting.takeWhile both = scan.waiting.takeWhile first ++
      (scan.waiting.dropWhile first).takeWhile second)
    (hdrop : scan.waiting.dropWhile both =
      (scan.waiting.dropWhile first).dropWhile second) :
    (scan.release limits first >>= fun next => next.release limits second) =
      scan.release limits both := by
  rw [release, release, htake, hdrop, List.filterMap_append, emitAll, emitAll, List.foldlM_append]
  cases hfirst : ((scan.waiting.takeWhile first).filterMap Waiting.operation?).foldlM
    (fun scan op => scan.emit limits (.operation op)) scan with
  | error fault => rfl
  | ok next =>
      show (({ next with waiting := scan.waiting.dropWhile first } : Scan).emitAll limits _ >>= _)
        = (next.emitAll limits _ >>= _)
      rw [emitAll_waiting]
      cases next.emitAll limits (((scan.waiting.dropWhile first).takeWhile second).filterMap
        Waiting.operation?) <;> rfl

namespace Arranged

/-- The two rounds in which a binary operator releases entries are one: it releases all that
binds as tight. -/
theorem takeBinary_eq (h : scan.Arranged) (limits : Limits) (op : BinaryOperator) :
    scan.takeBinary limits op = (do
      let scan ← scan.release limits (Waiting.bindsAs op.precedence)
      return (scan.push (.binary op)).expect .operand) := by
  rw [← release_release scan (Waiting.takeWhile_bindsAs h.chain op.precedence)
    (Waiting.dropWhile_bindsAs h.chain op.precedence), bind_assoc]
  rfl

/-- Behind a binary operator, all that is left below it in its group binds less tight. -/
theorem tighter_of_takeBinary (h : scan.Arranged) {limits : Limits} {op : BinaryOperator}
    (htake : scan.takeBinary limits op = .ok scan') :
    ∃ below, scan'.waiting = .binary op :: below ∧
      ∀ entry ∈ below.takeWhile Waiting.isInside,
        ∃ lower, entry = .binary lower ∧ op.Tighter lower := by
  rw [h.takeBinary_eq] at htake
  obtain ⟨next, hnext, hscan'⟩ := exists_of_bind htake
  cases hscan'
  rw [Machine.frame_of_release hnext]
  refine ⟨_, rfl, Waiting.tighter_of_isChain ?_⟩
  exact List.isChain_cons.2
    ⟨Waiting.stands_binary op, h.chain.suffix (List.dropWhile_suffix _)⟩

end Arranged

/-! ## The shape of the stack -/

/-- What the stack of a scan looks like, the top first.  Entries in a row with no open
parenthesis among them are a segment; a binary operator is never directly above a unary operator
or a function; a function is at the top and waits for its open parenthesis, or is directly below
one; and what waits for an open parenthesis is a function at the top. -/
structure Shaped (scan : Scan) : Prop where
  segment : ∀ above inside below, scan.waiting = above ++ (inside ++ below) →
    (∀ entry ∈ inside, entry.isInside = true) → Waiting.Segment inside
  apart : ∀ above upper lower below,
    scan.waiting ≠ above ++ .binary upper :: .applied lower :: below
  function : ∀ above op below, scan.waiting = above ++ .applied op :: below → op.IsFunction →
    (above = [] ∧ ∃ name, Symbol.function? name = some op ∧
      scan.expectation = .openParen name) ∨ ∃ upper, above = upper ++ [.left]
  called : ∀ name, scan.expectation = .openParen name →
    ∃ op below, Symbol.function? name = some op ∧ scan.waiting = .applied op :: below

theorem Arranged.shaped (h : scan.Arranged) : scan.Shaped := by
  have hpart {above inside below : List Waiting}
      (hwaiting : scan.waiting = above ++ (inside ++ below)) :
      inside.IsChain Waiting.Stands := by
    refine h.chain.infix ⟨above, below, ?_⟩
    rw [hwaiting, List.append_assoc]
  refine ⟨?_, ?_, ?_, h.called⟩
  · intro above inside below hwaiting hinside
    refine Waiting.segment_of_isChain (hpart hwaiting) (fun entry hentry => ?_) hinside
    apply h.known
    rw [hwaiting]
    exact List.mem_append_right _ (List.mem_append_left _ hentry)
  · intro above upper lower below hwaiting
    have hpair : [Waiting.binary upper, .applied lower].IsChain Waiting.Stands := hpart hwaiting
    cases (List.isChain_cons_cons.1 hpair).1
  · intro above op below hwaiting hfunction
    rcases List.eq_nil_or_concat' above with rfl | ⟨upper, entry, rfl⟩
    · left
      have htop := h.top op below hwaiting hfunction
      rcases Expectation.openParen_cases scan.expectation with hopen | ⟨name, hname⟩
      · rw [hopen] at htop
        cases htop
      · obtain ⟨called, rest, hcalled, hrest⟩ := h.called name hname
        rw [hwaiting] at hrest
        cases hrest
        exact ⟨rfl, name, hcalled, hname⟩
    · right
      rw [List.append_assoc] at hwaiting
      have hpair : [entry, .applied op].IsChain Waiting.Stands := hpart hwaiting
      cases (List.isChain_cons_cons.1 hpair).1 with
      | left => exact ⟨upper, rfl⟩
      | applied _ hnot => exact absurd hfunction hnot

end Scan

/-- **The stack.**  However many tokens a machine took, and whatever they are, there is no
grouping on its stack but open parentheses, and it is the machine of a scan with a stack of the
shape that is said above.  So a binary operator that comes next releases all that binds as tight
in its group: the two rounds in which it does so are one, and what stays below it in the group
are binary operators that bind less tight. -/
theorem Machine.stack_shape {vocabulary : Vocabulary} {taken : List Token} {machine : Machine}
    (h : taken.foldlM (Machine.consume vocabulary) {} = .ok machine) :
    (∀ grouping, .grouping grouping ∈ machine.stack → grouping = .left) ∧
    ∃ scan : Scan, taken.foldlM (Scan.step vocabulary) {} = .ok scan ∧
      machine = Machine.ofScan scan ∧ scan.Shaped ∧
      ∀ (limits : Limits) (op : BinaryOperator),
        (scan.takeBinary limits op = do
          let scan ← scan.release limits (Waiting.bindsAs op.precedence)
          return (scan.push (.binary op)).expect .operand) ∧
        ∀ scan', scan.takeBinary limits op = .ok scan' →
          ∃ below, scan'.waiting = .binary op :: below ∧
            ∀ entry ∈ below.takeWhile Waiting.isInside,
              ∃ lower, entry = .binary lower ∧ op.Tighter lower := by
  have hguarded := guarded_of_foldlM h
  refine ⟨?_, ?_⟩
  · intro grouping hmem
    cases grouping with
    | left => rfl
    | right => exact absurd hmem hguarded.no_right
    | comma => exact absurd hmem hguarded.no_comma
  · rw [foldlM_ofScan] at h
    obtain ⟨scan, hscan, rfl⟩ := exists_of_map (eq_ok_of_mapError h)
    have harranged := Scan.arranged_of_foldlM hscan
    exact ⟨scan, hscan, rfl, harranged.shaped, fun limits op =>
      ⟨harranged.takeBinary_eq limits op, fun _ => harranged.tighter_of_takeBinary⟩⟩

/-- A source that breaks off, with one operand too many.  A `+` that comes next releases what
waits in the group, down to the parenthesis of the function. -/
theorem Machine.stack_shape_unfinished :
    let vocabulary : Vocabulary := ⟨[['x']], Limits.default⟩
    ∃ (machine : Machine) (scan scan' : Scan),
      (tokens "x + -sqrt(x x * x ^ !x".toList).foldlM (Machine.consume vocabulary) {} =
        .ok machine ∧
      machine.stack = [.applied (.unary .not), .binary ⟨.pow, 4⟩, .binary ⟨.mul, 3⟩,
        .grouping .left, .applied (.unary .sqrt), .applied (.unary .negate),
        .binary ⟨.add, 2⟩] ∧
      machine = Machine.ofScan scan ∧ scan.Shaped ∧
      scan.takeBinary vocabulary.limits ⟨.add, 2⟩ = .ok scan' ∧
      scan'.waiting = [.binary ⟨.add, 2⟩, .left, .applied (.unary .sqrt),
        .applied (.unary .negate), .binary ⟨.add, 2⟩] := by
  intro vocabulary
  have hmachine : (tokens "x + -sqrt(x x * x ^ !x".toList).foldlM
      (Machine.consume vocabulary) {} = .ok _ := rfl
  obtain ⟨_, scan, hscan, hofScan, hshaped, _⟩ := Machine.stack_shape hmachine
  cases hscan
  exact ⟨_, _, _, hmachine, rfl, hofScan, hshaped, rfl, rfl⟩

end Formula
