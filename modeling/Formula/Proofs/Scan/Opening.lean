import Formula.Proofs.Scan.Marked
import Formula.Proofs.Token.Cut
import Formula.Proofs.Token.Parenthesis

/-!
# Where parentheses are open

A scan keeps two records of the parentheses that are open: the entries on its stack, which have
no position, and the open positions, which are not on the stack.  The two are written at different
places, and only the stack loses other entries besides, at a `)`, at a comma and at a binary
operator.  A fault is reported at an open position, and the depth is counted by them.  Both are
right only as long as the two records agree.

They do, in every state, also in one in which a token is refused: a move writes into both records
or into neither.  So both say which parentheses nothing has closed, as a row of tokens shows it
without any stack.

## Main results

* `Marked.turns_carry`: what a move writes into the two records, also if it fails.
* `Records.InStep.record`: what it writes is in step with the token that it is made for.
* `Marked.inStep_consume`: so a token keeps the records in step.
* `Scan.opens_inStep`: the two records agree with each other, and with the tokens that were taken.
-/

namespace Formula

open Outcome

/-! ## What a move records -/

/-- What is recorded behind a move. -/
def Move.record (token : Token) (records : Records) : Move → Records
  | left => ⟨token.position :: records.opens, token :: records.lefts⟩
  | right => ⟨records.opens.tail, records.lefts.tail⟩
  | _ => records

namespace Marked

/-- Some steps write into the records.  If they go through, they have written; if they fail, they
have written or they have not. -/
def Turns (before after : Records) : Except Halt Marked → Prop
  | .ok next => next.records = after
  | .error halt => halt.state.records = before ∨ halt.state.records = after

section Turning

variable {limits : Limits} {held : Bool} {test : Entry → Bool} {marked : Marked}
  {before after : Records} {x : Except Halt Marked} {next : Marked → Except Halt Marked}

/-- Steps that record nothing may come first. -/
theorem Leaves.turns (h : Leaves (fun reached => reached.records = before) x)
    (hnext : ∀ reached, x = .ok reached → reached.records = before →
      Turns before after (next reached)) :
    Turns before after (x >>= next) := by
  cases x with
  | ok reached => exact hnext reached rfl h
  | error halt => exact .inl h

/-- Steps that record nothing may come last. -/
theorem Turns.leaves (h : Turns before after x)
    (hnext : ∀ reached, reached.records = after →
      Leaves (fun last => last.records = after) (next reached)) :
    Turns before after (x >>= next) := by
  cases x with
  | error halt => exact h
  | ok reached =>
      have hlast := hnext reached h
      show Turns before after (next reached)
      cases hx : next reached with
      | ok last =>
          rw [hx] at hlast
          exact hlast
      | error halt =>
          rw [hx] at hlast
          exact .inr hlast

theorem leaves_records_release (htest : test (.grouping .left) = false)
    (h : marked.records = before) :
    Leaves (fun next => next.records = before) (marked.release limits held test) :=
  (leaves_release htest marked).imp fun _ hkeeps => hkeeps.records.trans h

/-- Closing takes a parenthesis off the stack, and then its position. -/
theorem turns_close (token : Token)
    (htop : ∀ mark ∈ marked.stack.head?, mark.entry = .grouping .left) :
    Turns marked.records (Move.right.record token marked.records)
      (marked.close token.position) := by
  rw [close]
  split
  · exact .inl rfl
  · rename_i mark outside hstack
    have hmark : mark.entry = .grouping .left := htop mark (by rw [hstack]; rfl)
    have hrecords : marked.records =
        ⟨marked.opens, mark.token :: { marked with stack := outside : Marked }.lefts⟩ := by
      simp [records, lefts, hstack, hmark]
    rw [hrecords]
    split
    · rename_i hopens
      right
      rw [hopens]
      rfl
    · rename_i place opens hopens
      rw [hopens]
      rfl

/-- **One move.**  A move that goes through writes into both records what it has to.  One that
fails has done so, or it has written into none of them. -/
theorem turns_carry (limits : Limits) (marked : Marked) (token : Token) (m : Move) :
    Turns marked.records (m.record token marked.records) (marked.carry limits token m) := by
  cases m with
  | operand o =>
      refine Leaves.turns ((leaves_emit marked (.operand o)).imp fun _ h => h.1.records) ?_
      intro next _ hnext
      exact hnext
  | function name op => exact (records_cons_of_ne (by simp)).symm
  | unary op => exact (records_cons_of_ne (by simp)).symm
  | binary op =>
      refine Leaves.turns (leaves_records_release rfl rfl) fun first _ hfirst => ?_
      refine Leaves.turns (leaves_records_release rfl hfirst) fun second _ hsecond => ?_
      exact (records_cons_of_ne (by simp)).symm.trans hsecond
  | left =>
      rw [carry, check]
      cases Scan.within limits .nestingDepth (token.position :: marked.opens).length with
      | error fault => exact .inr rfl
      | ok _ => exact rfl
  | right =>
      refine Leaves.turns (leaves_records_release rfl rfl) fun inner hinner hrecords => ?_
      have htop : ∀ mark ∈ inner.stack.head?, mark.entry = .grouping .left := by
        intro mark hmark
        have hnot := top_of_unwind hinner mark hmark
        simpa [Entry.isInside] using hnot
      have hclose := turns_close token htop
      rw [hrecords] at hclose
      exact Turns.leaves hclose fun outer houter => leaves_records_release rfl houter
  | comma =>
      refine Leaves.turns (leaves_records_release rfl rfl) fun inner _ hinner => ?_
      cases hstack : inner.stack with
      | nil => exact .inl hinner
      | cons mark outside => exact hinner

end Turning

end Marked

/-! ## Records in step -/

/-- `InOrder taken` says that each token stands behind those that come before it. -/
def InOrder (taken : List Token) : Prop :=
  taken.Pairwise fun token later => token.position < later.position

/-- `records.InStep taken` says that two records are as they have to be when some tokens have been
taken.  From the innermost on, the open positions are those of the open parentheses on the stack;
from the outermost on, these are the `(` that are not closed; and so the positions increase. -/
structure Records.InStep (records : Records) (taken : List Token) : Prop where
  opens_eq : records.opens = records.lefts.map Token.position
  lefts_eq : records.lefts.reverse = unclosed taken
  increasing : InOrder taken → records.opens.reverse.Pairwise (· < ·)

namespace Records

variable {records : Records} {taken : List Token} {token : Token} {m : Move}
  {vocabulary : Vocabulary} {expectation : Expectation}

theorem inStep_of_eq (hopens : records.opens = records.lefts.map Token.position)
    (hlefts : records.lefts.reverse = unclosed taken) : records.InStep taken := by
  refine ⟨hopens, hlefts, fun horder => ?_⟩
  rw [hopens, ← List.map_reverse, hlefts, List.pairwise_map]
  exact horder.sublist (unclosed_sublist taken)

/-- A parenthesis asks for its move, and the moves of other tokens record nothing. -/
theorem record_cases (h : Reads vocabulary expectation token.lexeme m) :
    (token.IsLeft ∧ m = .left) ∨ (token.IsRight ∧ m = .right) ∨
      (¬ token.IsLeft ∧ ¬ token.IsRight ∧ ∀ records, m.record token records = records) := by
  obtain ⟨lexeme, position⟩ := token
  cases h with
  | left => exact .inl ⟨rfl, rfl⟩
  | right _ => exact .inr (.inl ⟨rfl, rfl⟩)
  | comma _ => exact .inr (.inr ⟨nofun, nofun, fun _ => rfl⟩)
  | operand _ _ => exact .inr (.inr ⟨nofun, nofun, fun _ => rfl⟩)
  | function _ _ => exact .inr (.inr ⟨nofun, nofun, fun _ => rfl⟩)
  | unary hop => refine .inr (.inr ⟨?_, ?_, fun _ => rfl⟩) <;> rintro ⟨⟩ <;> cases hop
  | binary hop => refine .inr (.inr ⟨?_, ?_, fun _ => rfl⟩) <;> rintro ⟨⟩ <;> cases hop

/-- What a move records is in step with its token. -/
theorem InStep.record (h : records.InStep taken)
    (hreads : Reads vocabulary expectation token.lexeme m) :
    (m.record token records).InStep (taken ++ [token]) := by
  rcases record_cases hreads with ⟨hleft, rfl⟩ | ⟨hright, rfl⟩ | ⟨hleft, hright, hsame⟩
  · refine inStep_of_eq ?_ ?_
    · rw [Move.record, h.opens_eq, List.map_cons]
    · rw [Move.record, List.reverse_cons, h.lefts_eq, unclosed_concat_left hleft]
  · refine inStep_of_eq ?_ ?_
    · rw [Move.record, h.opens_eq, List.map_tail]
    · rw [Move.record, ← List.dropLast_reverse, h.lefts_eq, unclosed_concat_right hright]
  · rw [hsame]
    refine inStep_of_eq h.opens_eq ?_
    rw [h.lefts_eq, unclosed_concat_other hleft hright]

end Records

namespace Marked

variable {vocabulary : Vocabulary} {taken : List Token} {marked next : Marked}

theorem inStep_start : ({} : Marked).records.InStep [] := Records.inStep_of_eq rfl rfl

/-- **One token.**  Behind a token that is taken, the records are in step with it.  Where one is
refused, they are in step with it, or as they were without it. -/
theorem inStep_consume (vocabulary : Vocabulary) (h : marked.records.InStep taken)
    (token : Token) :
    match marked.consume vocabulary token with
    | .ok next => next.records.InStep (taken ++ [token])
    | .error halt => halt.state.records.InStep taken ∨
        halt.state.records.InStep (taken ++ [token]) := by
  rw [consume]
  cases hread : marked.expectation.read vocabulary token.lexeme with
  | error fault => exact .inl h
  | ok m =>
      have hrecord : (m.record token marked.records).InStep (taken ++ [token]) :=
        h.record (Expectation.reads_of_read hread)
      have hturns := turns_carry vocabulary.limits marked token m
      simp only
      cases hcarry : marked.carry vocabulary.limits token m with
      | ok next =>
          rw [hcarry] at hturns
          rw [← show next.records = _ from hturns] at hrecord
          exact hrecord
      | error halt =>
          rw [hcarry] at hturns
          refine hturns.imp (fun hsame => ?_) (fun hsame => ?_)
          · rw [hsame]
            exact h
          · rw [hsame]
            exact hrecord

/-- **Any number of tokens.**  Behind tokens that are taken, the records are in step with them. -/
theorem inStep_of_foldlM {before : List Token} (h : marked.records.InStep before)
    (hrun : taken.foldlM (consume vocabulary) marked = .ok next) :
    next.records.InStep (before ++ taken) := by
  induction taken generalizing before marked with
  | nil =>
      cases hrun
      rwa [List.append_nil]
  | cons token taken ih =>
      rw [List.foldlM_cons] at hrun
      obtain ⟨reached, hreached, hrest⟩ := exists_of_bind hrun
      have hnext := inStep_consume vocabulary h token
      rw [hreached] at hnext
      rw [List.append_cons]
      exact ih hnext hrest

/-- Where a token is refused, the tokens in front of it have been taken. -/
theorem inStep_of_foldlM_error {halt : Halt}
    (hrun : taken.foldlM (consume vocabulary) {} = .error halt) :
    ∃ before token after, taken = before ++ token :: after ∧
      (halt.state.records.InStep before ∨ halt.state.records.InStep (before ++ [token])) := by
  obtain ⟨before, token, after, reached, htaken, hbefore, hhalt⟩ :=
    exists_split_of_foldlM_error hrun
  have hreached := inStep_consume vocabulary (inStep_of_foldlM inStep_start hbefore) token
  rw [hhalt] at hreached
  exact ⟨before, token, after, htaken, hreached⟩

/-- The second parenthesis is one too many.  It is in both records when it is refused. -/
example :
    (tokens "((".toList).foldlM (consume ⟨[], { nestingDepth := ⟨1, by decide⟩ }⟩) {} =
      .error ⟨.reported (.limit ⟨.nestingDepth, 1, 2⟩), {
        stack := [⟨.grouping .left, .symbol '(', 1⟩, ⟨.grouping .left, .symbol '(', 0⟩]
        opens := [1, 0] }⟩ :=
  rfl

end Marked

/-! ## What the records are for -/

namespace Scan

variable {vocabulary : Vocabulary} {taken : List Token} {scan : Scan}

/-- A `(` that is reported at the end of the source is at the innermost open position. -/
theorem head_opens_of_finish {length place : Nat}
    (h : taken.foldlM (step vocabulary) {} = .ok scan)
    (hfinish : scan.finish vocabulary.limits length = .error (.parse .unmatchedLeft place)) :
    scan.opens.head? = some place := by
  have houtline := outline_conclude (matched_of_foldlM_step h) length
  rcases finish_agrees (within_of_foldlM_step h) length with ⟨hsame, _⟩ | ⟨bound, herror, _⟩
  · rw [← hsame, hfinish] at houtline
    rcases Expectation.openParen_cases scan.expectation with hopen | ⟨function, hexpectation⟩
    · rw [Outline.finish_of_not_openParen hopen] at houtline
      cases hopens : scan.opens with
      | nil =>
          rw [outline, hopens] at houtline
          cases houtline
      | cons innermost opens =>
          rw [outline, hopens] at houtline
          cases houtline
          rfl
    · rw [Outline.finish, outline, hexpectation] at houtline
      cases houtline
  · rw [hfinish] at herror
    cases herror

/-- **Open positions.**  Without its marks, a marked machine does what a scan does, whatever
tokens it is given, and fails as the scan does.  In every state that it comes to, the open
positions are those of the `(` whose entries are on the stack, as many of them and in the same
order; from the bottom of the stack on, these are the `(` that nothing has closed; and so the
positions increase, as the positions of the tokens of a source do.  There are no more of them than
may be open at a time.  The state in which a token is refused is in step with the tokens in front
of it, or with these and the token.  And if the source ends, and a `(` is reported, it is the
last that nothing has closed. -/
theorem opens_inStep (vocabulary : Vocabulary) (taken : List Token) :
    Marked.erase Marked.machine (taken.foldlM (Marked.consume vocabulary) {}) =
        Machine.image Machine.ofScan (taken.foldlM (step vocabulary) {}) ∧
    (∀ marked, taken.foldlM (Marked.consume vocabulary) {} = .ok marked →
      marked.records.InStep taken ∧
        marked.opens.length ≤ (vocabulary.limits.cap .nestingDepth).val) ∧
    (∀ halt, taken.foldlM (Marked.consume vocabulary) {} = .error halt →
      ∃ before token after, taken = before ++ token :: after ∧
        (halt.state.records.InStep before ∨ halt.state.records.InStep (before ++ [token]))) ∧
    (∀ scan length place, taken.foldlM (step vocabulary) {} = .ok scan →
      scan.finish vocabulary.limits length = .error (.parse .unmatchedLeft place) →
      ∃ token, (unclosed taken).getLast? = some token ∧ token.position = place) ∧
    ∀ source, taken <+: tokens source → InOrder taken := by
  refine ⟨Marked.erase_start vocabulary taken, ?_, ?_, ?_, ?_⟩
  · intro marked hmarked
    obtain ⟨scan, hscan, hmachine⟩ := Marked.exists_scan_of_foldlM hmarked
    have hopens : scan.opens = marked.opens := congrArg Machine.opens hmachine
    refine ⟨Marked.inStep_of_foldlM Marked.inStep_start hmarked, ?_⟩
    rw [← hopens]
    exact (within_of_foldlM_step hscan).opens
  · intro halt hhalt
    exact Marked.inStep_of_foldlM_error hhalt
  · intro scan length place hscan hfinish
    obtain ⟨marked, hmarked, hmachine⟩ := Marked.exists_marked_of_foldlM hscan
    have hopens : marked.opens = scan.opens := congrArg Machine.opens hmachine
    have hstep : marked.records.InStep taken :=
      Marked.inStep_of_foldlM Marked.inStep_start hmarked
    have hlefts : marked.opens = (unclosed taken).reverse.map Token.position := by
      rw [← hstep.lefts_eq, List.reverse_reverse]
      exact hstep.opens_eq
    have hhead := head_opens_of_finish hscan hfinish
    rw [← hopens, hlefts, List.head?_map, List.head?_reverse] at hhead
    exact Option.map_eq_some_iff.1 hhead
  · intro source hsource
    exact (isCut_tokens source).increasing.sublist hsource.sublist

end Scan

end Formula
