import Formula.Proofs.Scan.Advance

/-!
# What a scan needs of its limits

A scan checks two limits: on the elements that are out, each time one is put out, and on
the parentheses that are open.  It stops at the first count beyond a limit, and until then
it goes on as the scan without limits does.

What waits on the stack will be put out.  So a count beyond the limit is foreseeable: the
elements that are out or waiting grow by one with every token that does not group, and a
scan that stops for its output has taken in too many such tokens.  `Scan.demand` is what a
row of lexemes needs in all, by lexemes alone.

## Main results

* `Scan.move_agrees`: a move with limits is the move without, or goes beyond a limit.
* `Scan.run_agrees`: the same for a whole scan; it goes beyond a limit only if the lexemes
  need more than the limit.
-/

namespace Formula

open Outcome

/-- The fault of the first count beyond a limit. -/
def Limits.excess (limits : Limits) (bound : Bound) : ScanFault :=
  .limit ⟨bound, (limits.cap bound).val, (limits.cap bound).val + 1⟩

/-- The number of open parentheses behind a lexeme. -/
def Lexeme.opensAfter (opens : Nat) : Lexeme → Nat
  | .symbol '(' => opens + 1
  | .symbol ')' => opens - 1
  | _ => opens

theorem Lexeme.opensAfter_of_grouping?_eq_none {c : Char} (h : Symbol.grouping? c = none)
    (opens : Nat) : (Lexeme.symbol c).opensAfter opens = opens := by
  unfold Lexeme.opensAfter
  split
  · rename_i hc
    cases hc
    cases h
  · rename_i hc
    cases hc
    cases h
  · rfl

/-- The open parentheses behind a move are counted by its lexeme. -/
theorem Reads.opensAfter_eq {vocabulary : Vocabulary} {expectation : Expectation}
    {lexeme : Lexeme} {move : Move} (h : Reads vocabulary expectation lexeme move)
    (opens : Nat) : lexeme.opensAfter opens = move.opensAfter opens := by
  cases h with
  | unary hop =>
      exact Lexeme.opensAfter_of_grouping?_eq_none (Symbol.grouping?_eq_none_of_unary hop) opens
  | binary hop =>
      exact Lexeme.opensAfter_of_grouping?_eq_none (Symbol.grouping?_eq_none_of_binary hop) opens
  | _ => rfl

/-- The greatest number of parentheses that are open at a time, when some are open
before the first lexeme. -/
def deepest : Nat → List Lexeme → Nat
  | opens, [] => opens
  | opens, lexeme :: rest => max opens (deepest (lexeme.opensAfter opens) rest)

theorem le_deepest (opens : Nat) (lexemes : List Lexeme) : opens ≤ deepest opens lexemes := by
  cases lexemes with
  | nil => exact Nat.le_refl opens
  | cons lexeme rest => exact Nat.le_max_left _ _

/-- The number of lexemes that become elements. -/
def elementCount (lexemes : List Lexeme) : Nat := lexemes.countP (!·.isGrouping)

theorem elementCount_cons (lexeme : Lexeme) (rest : List Lexeme) :
    elementCount (lexeme :: rest) =
      (if lexeme.isGrouping then 0 else 1) + elementCount rest := by
  cases h : lexeme.isGrouping <;> simp [elementCount, h, Nat.add_comm]

namespace Scan

variable {limits : Limits} {scan scan' : Scan} {position : Nat}

/-- The counts of a scan are within its limits. -/
structure Within (limits : Limits) (scan : Scan) : Prop where
  output : scan.output.length ≤ (limits.cap .outputElements).val
  opens : scan.opens.length ≤ (limits.cap .nestingDepth).val

/-- What a scan needs of each limit for some lexemes to come. -/
def demand (scan : Scan) (lexemes : List Lexeme) : Bound → Nat
  | .outputElements => scan.weight + elementCount lexemes
  | .nestingDepth => deepest scan.opens.length lexemes
  | _ => 0

/-! ## Putting elements out -/

theorem within_of_le {bound : Bound} {count : Nat} (h : count ≤ (limits.cap bound).val) :
    within limits bound count = .ok () := by
  rw [within, (limits.check_eq_ok_iff bound count).2 h]
  rfl

theorem within_succ {bound : Bound} : within limits bound ((limits.cap bound).val + 1) =
    .error (limits.excess bound) := by
  simp [within, Limits.check, Limits.excess]

theorem emit_of_lt (element : Element)
    (h : scan.output.length < (limits.cap .outputElements).val) :
    scan.emit limits element = .ok (scan.put [element]) := by
  have hwithin : within limits .outputElements (scan.output ++ [element]).length = .ok () :=
    within_of_le (by rwa [List.length_append])
  simp only [emit, hwithin, ok_bind, pure_eq_ok]
  rfl

theorem emit_of_eq (element : Element)
    (h : scan.output.length = (limits.cap .outputElements).val) :
    scan.emit limits element = .error (limits.excess .outputElements) := by
  have hwithin : within limits .outputElements (scan.output ++ [element]).length =
      .error (limits.excess .outputElements) := by
    rw [List.length_append, List.length_singleton, h, within_succ]
  simp only [emit, hwithin, error_bind]

/-- Putting operations out goes through as long as they fit. -/
theorem emitAll_cases (ops : List Operation)
    (h : scan.output.length ≤ (limits.cap .outputElements).val) :
    (scan.output.length + ops.length ≤ (limits.cap .outputElements).val ∧
      scan.emitAll limits ops = .ok (scan.put (ops.map .operation))) ∨
    ((limits.cap .outputElements).val < scan.output.length + ops.length ∧
      scan.emitAll limits ops = .error (limits.excess .outputElements)) := by
  induction ops generalizing scan with
  | nil => exact .inl ⟨h, by simp [emitAll, put]⟩
  | cons op ops ih =>
      simp only [List.length_cons]
      rcases Nat.lt_or_eq_of_le h with hlt | heq
      · have hnext : scan.emitAll limits (op :: ops) =
            (scan.put [.operation op]).emitAll limits ops := by
          rw [emitAll, List.foldlM_cons, emit_of_lt _ hlt, ok_bind]
          rfl
        have hlength : (scan.put [.operation op]).output.length = scan.output.length + 1 := by
          simp [put]
        rw [hnext]
        have hnow : (scan.put [.operation op]).output.length ≤
            (limits.cap .outputElements).val := by omega
        rcases ih hnow with ⟨hle, hok⟩ | ⟨hgt, herror⟩
        · exact .inl ⟨by omega, by rw [hok, put_put]; rfl⟩
        · exact .inr ⟨by omega, herror⟩
      · refine .inr ⟨by omega, ?_⟩
        rw [emitAll, List.foldlM_cons, emit_of_eq _ heq, error_bind]

/-! ## Agreement up to a limit -/

/-- The outcome with limits is the one without, and has a property; or a limit is
exceeded, and by a demand. -/
def Agrees {α : Type} (limits : Limits) (property : α → Prop) (demand : Bound → Nat)
    (limited free : Except ScanFault α) : Prop :=
  (limited = free ∧ ∀ x, free = .ok x → property x) ∨
    ∃ bound, limited = .error (limits.excess bound) ∧ (limits.cap bound).val < demand bound

namespace Agrees

variable {α β : Type} {property : α → Prop} {demand : Bound → Nat}

theorem ok {x : α} (h : property x) : Agrees limits property demand (.ok x) (.ok x) := by
  refine .inl ⟨rfl, fun y hy => ?_⟩
  cases hy
  exact h

theorem error (fault : ScanFault) :
    Agrees limits property demand (.error fault) (.error fault) := by
  refine .inl ⟨rfl, fun y hy => ?_⟩
  cases hy

/-- Outcomes in sequence agree if each does. -/
theorem bind {property' : β → Prop} {limited free : Except ScanFault α}
    {next next' : α → Except ScanFault β} (h : Agrees limits property demand limited free)
    (hnext : ∀ x, free = .ok x → property x →
      Agrees limits property' demand (next x) (next' x)) :
    Agrees limits property' demand (limited >>= next) (free >>= next') := by
  rcases h with ⟨rfl, hproperty⟩ | ⟨bound, rfl, hdemand⟩
  · cases limited with
    | error fault => exact error fault
    | ok x => exact hnext x rfl (hproperty x rfl)
  · exact .inr ⟨bound, rfl, hdemand⟩

/-- A step that cannot fail without limits is followed by the next one. -/
theorem andThen {property' : β → Prop} {limited : Except ScanFault α} {x : α}
    {next : α → Except ScanFault β} {free : Except ScanFault β}
    (h : Agrees limits property demand limited (.ok x))
    (hnext : property x → Agrees limits property' demand (next x) free) :
    Agrees limits property' demand (limited >>= next) free := by
  rcases h with ⟨rfl, hproperty⟩ | ⟨bound, rfl, hdemand⟩
  · exact hnext (hproperty x rfl)
  · exact .inr ⟨bound, rfl, hdemand⟩

theorem mono {demand' : Bound → Nat} {limited free : Except ScanFault α}
    (h : Agrees limits property demand limited free)
    (hdemand : ∀ bound, demand bound ≤ demand' bound) :
    Agrees limits property demand' limited free := by
  rcases h with hsame | ⟨bound, herror, hlt⟩
  · exact .inl hsame
  · exact .inr ⟨bound, herror, Nat.lt_of_lt_of_le hlt (hdemand bound)⟩

end Agrees

variable {demand : Bound → Nat}

theorem emit_agrees (element : Element) (hwithin : scan.Within limits)
    (hdemand : scan.weight + 1 ≤ demand .outputElements) :
    Agrees limits (Within limits) demand (scan.emit limits element)
      (.ok (scan.put [element])) := by
  rcases Nat.lt_or_eq_of_le hwithin.output with hlt | heq
  · rw [emit_of_lt element hlt]
    refine .ok ⟨?_, hwithin.opens⟩
    rw [put, List.length_append]
    exact hlt
  · have hweight := length_output_le_weight scan
    exact .inr ⟨.outputElements, emit_of_eq element heq, by omega⟩

/-- Releasing entries is draining them: they were counted while they waited. -/
theorem release_agrees (test : Waiting → Bool) (hwithin : scan.Within limits)
    (hdemand : scan.weight ≤ demand .outputElements) :
    Agrees limits (Within limits) demand (scan.release limits test)
      (.ok (scan.drain test)) := by
  have hlength : (scan.drain test).output.length = scan.output.length +
      ((scan.waiting.takeWhile test).filterMap Waiting.operation?).length := by
    simp [drain, released]
  have hweight : (scan.drain test).output.length ≤ scan.weight := by
    have hle := length_output_le_weight (scan.drain test)
    rwa [weight, content_drain] at hle
  rcases emitAll_cases ((scan.waiting.takeWhile test).filterMap Waiting.operation?)
    hwithin.output with ⟨hle, hok⟩ | ⟨hgt, herror⟩
  · have hrelease : scan.release limits test = .ok (scan.drain test) := by
      simp only [release, hok, ok_bind, pure_eq_ok]
      rfl
    rw [hrelease]
    exact .ok ⟨by omega, hwithin.opens⟩
  · refine .inr ⟨.outputElements, ?_, by omega⟩
    simp only [release, herror, error_bind]

/-! ## Moves with limits -/

/-- What a move needs of each limit. -/
def moveDemand (scan : Scan) (m : Move) : Bound → Nat
  | .outputElements => scan.weight + if m.isGrouping then 0 else 1
  | .nestingDepth =>
    match m with
    | .left => scan.opens.length + 1
    | _ => 0
  | _ => 0

theorem takeLeft_agrees (hwithin : scan.Within limits) (position : Nat) :
    Agrees limits (Within limits) (scan.moveDemand .left) (scan.takeLeft limits position)
      (scan.advance position .left) := by
  rcases Nat.lt_or_eq_of_le hwithin.opens with hlt | heq
  · have hopens : within limits .nestingDepth (scan.opens.length + 1) = .ok () :=
      within_of_le hlt
    simp only [takeLeft, List.length_cons, hopens, ok_bind]
    exact .ok ⟨hwithin.output, hlt⟩
  · refine .inr ⟨.nestingDepth, ?_, ?_⟩
    · simp only [takeLeft, List.length_cons, heq, within_succ, error_bind]
    · simp only [moveDemand]
      omega

theorem takeBinary_agrees (hwithin : scan.Within limits) (op : BinaryOperator)
    (position : Nat) :
    Agrees limits (Within limits) (scan.moveDemand (.binary op))
      (scan.takeBinary limits op) (scan.advance position (.binary op)) := by
  refine (release_agrees Waiting.isApplied hwithin ?_).andThen fun hwithin' => ?_
  · exact Nat.le_add_right _ _
  · refine (release_agrees (Waiting.precedes op.precedence) hwithin' ?_).andThen
      fun hwithin'' => ?_
    · rw [weight, content_drain]
      exact Nat.le_add_right _ _
    · exact .ok ⟨hwithin''.output, hwithin''.opens⟩

theorem takeRight_agrees (hwithin : scan.Within limits) (position : Nat) :
    Agrees limits (Within limits) (scan.moveDemand .right) (scan.takeRight limits position)
      (scan.advance position .right) := by
  refine (release_agrees Waiting.isInside hwithin ?_).andThen fun hwithin' => ?_
  · exact Nat.le_add_right _ _
  · rcases Waiting.stack_cases scan.waiting with hclosed | ⟨inside, outside, hw, hin⟩
    · rw [drain_all hclosed, advance_right_of_closed hclosed]
      exact .error _
    · have hcontent := content_drain scan Waiting.isInside
      rw [drain_inside hw hin] at hwithin' hcontent ⊢
      rw [advance_right hw hin]
      have houtside : Within limits { scan with
          output := scan.output ++ released inside
          waiting := outside
          opens := scan.opens.tail } := by
        refine ⟨hwithin'.output, ?_⟩
        have hopens := hwithin.opens
        simp only [List.length_tail]
        omega
      refine (release_agrees Waiting.isApplied houtside ?_).andThen fun hwithin'' => ?_
      · show _ ≤ scan.weight + 0
        rw [weight, weight, ← hcontent]
        exact Nat.le_refl _
      · exact .ok ⟨hwithin''.output, hwithin''.opens⟩

theorem takeComma_agrees (hwithin : scan.Within limits) (position : Nat) :
    Agrees limits (Within limits) (scan.moveDemand .comma) (scan.takeComma limits position)
      (scan.advance position .comma) := by
  refine (release_agrees Waiting.isInside hwithin ?_).andThen fun hwithin' => ?_
  · exact Nat.le_add_right _ _
  · rcases Waiting.stack_cases scan.waiting with hclosed | ⟨inside, outside, hw, hin⟩
    · rw [drain_all hclosed, advance_comma_of_closed hclosed]
      exact .error _
    · rw [drain_inside hw hin] at hwithin' ⊢
      rw [advance_comma hw hin]
      exact .ok ⟨hwithin'.output, hwithin'.opens⟩

/-- A move with limits is the move without, or goes beyond a limit. -/
theorem move_agrees (hwithin : scan.Within limits) (position : Nat) (m : Move) :
    Agrees limits (Within limits) (scan.moveDemand m) (scan.move limits position m)
      (scan.advance position m) := by
  cases m with
  | operand o =>
      refine (emit_agrees (.operand o) hwithin ?_).andThen fun hwithin' => ?_
      · exact Nat.le_refl _
      · exact .ok ⟨hwithin'.output, hwithin'.opens⟩
  | function name op => exact .ok ⟨hwithin.output, hwithin.opens⟩
  | unary op => exact .ok ⟨hwithin.output, hwithin.opens⟩
  | binary op => exact takeBinary_agrees hwithin op position
  | left => exact takeLeft_agrees hwithin position
  | right => exact takeRight_agrees hwithin position
  | comma => exact takeComma_agrees hwithin position

/-! ## Whole scans -/

section Demand

variable {vocabulary : Vocabulary} {lexeme : Lexeme} {m : Move}

/-- A token needs no more than the row that begins with it. -/
theorem moveDemand_le (hread : Reads vocabulary scan.expectation lexeme m)
    (rest : List Lexeme) (bound : Bound) :
    scan.moveDemand m bound ≤ scan.demand (lexeme :: rest) bound := by
  cases bound with
  | outputElements =>
      simp only [moveDemand, demand, elementCount_cons, hread.isGrouping_eq]
      omega
  | nestingDepth =>
      generalize scan.expectation = expectation at hread
      cases hread with
      | left =>
          have hdeep := le_deepest (scan.opens.length + 1) rest
          simp only [moveDemand, demand, deepest, Lexeme.opensAfter]
          omega
      | _ => exact Nat.zero_le _
  | expressionLength => exact Nat.le_refl _
  | variableCount => exact Nat.le_refl _

/-- Once a token is taken, what the rest needs is no more than the whole row needed. -/
theorem demand_advance_le (hread : Reads vocabulary scan.expectation lexeme m)
    (h : scan.advance position m = .ok scan') (rest : List Lexeme) (bound : Bound) :
    scan'.demand rest bound ≤ scan.demand (lexeme :: rest) bound := by
  cases bound with
  | outputElements =>
      simp only [demand, elementCount_cons, hread.isGrouping_eq, weight_advance h]
      omega
  | nestingDepth =>
      simp only [demand, deepest, length_opens_advance h, hread.opensAfter_eq]
      exact Nat.le_max_right _ _
  | expressionLength => exact Nat.le_refl _
  | variableCount => exact Nat.le_refl _

end Demand

/-- Taking tokens with limits is taking them without, or goes beyond a limit. -/
theorem foldlM_step_agrees (vocabulary : Vocabulary) (source : List Token)
    (hwithin : scan.Within vocabulary.limits) :
    Agrees vocabulary.limits (Within vocabulary.limits)
      (scan.demand (source.map Token.lexeme))
      (source.foldlM (step vocabulary) scan) (source.foldlM (proceed vocabulary) scan) := by
  induction source generalizing scan with
  | nil => exact .ok hwithin
  | cons token source ih =>
      rw [List.foldlM_cons, List.foldlM_cons, step_eq, proceed]
      cases hread : scan.expectation.read vocabulary token.lexeme with
      | error fault => exact .error _
      | ok m =>
          have hreads := Expectation.reads_of_read hread
          refine ((move_agrees hwithin token.position m).mono
            (moveDemand_le hreads _)).bind fun scan' hscan' hwithin' => ?_
          exact (ih hwithin').mono (demand_advance_le hreads hscan' _)

theorem within_start (limits : Limits) : Within limits ({} : Scan) :=
  ⟨Nat.zero_le _, Nat.zero_le _⟩

/-- Tokens that are taken with limits are taken without, and leave the counts within them. -/
theorem taken_of_foldlM_step {vocabulary : Vocabulary} {source : List Token}
    (h : source.foldlM (step vocabulary) {} = .ok scan) :
    source.foldlM (proceed vocabulary) {} = .ok scan ∧ scan.Within vocabulary.limits := by
  rcases foldlM_step_agrees vocabulary source (within_start vocabulary.limits) with
    ⟨hsame, hwithin⟩ | ⟨bound, herror, _⟩
  · have hfree := hsame.symm.trans h
    exact ⟨hfree, hwithin scan hfree⟩
  · rw [h] at herror
    cases herror

theorem foldlM_proceed_of_step {vocabulary : Vocabulary} {source : List Token}
    (h : source.foldlM (step vocabulary) {} = .ok scan) :
    source.foldlM (proceed vocabulary) {} = .ok scan :=
  (taken_of_foldlM_step h).1

theorem within_of_foldlM_step {vocabulary : Vocabulary} {source : List Token}
    (h : source.foldlM (step vocabulary) {} = .ok scan) : scan.Within vocabulary.limits :=
  (taken_of_foldlM_step h).2

theorem finish_of_not_openParen (hopen : scan.expectation.isOpenParen = false)
    (length : Nat) :
    scan.finish limits length = (do
      let scan ← scan.release limits Waiting.isInside
      match scan.waiting with
      | [] => return scan.output
      | _ :: _ => .error (.parse .unmatchedLeft (scan.opens.headD length))) := by
  unfold finish
  split
  · rename_i function hexpectation
    rw [hexpectation] at hopen
    cases hopen
  · rfl

/-- The end of a source releases what is left, which was counted while it waited. -/
theorem finish_agrees (hwithin : scan.Within limits) (length : Nat) :
    Agrees limits (fun elements => elements.length ≤ (limits.cap .outputElements).val)
      (scan.demand []) (scan.finish limits length) (scan.conclude length) := by
  rcases Expectation.openParen_cases scan.expectation with hopen | ⟨function, hexpectation⟩
  · rw [finish_of_not_openParen hopen, conclude_of_not_openParen hopen]
    refine (release_agrees Waiting.isInside hwithin ?_).andThen fun hwithin' => ?_
    · exact Nat.le_add_right _ _
    · cases (scan.drain Waiting.isInside).waiting with
      | nil => exact .ok hwithin'.output
      | cons entry outside => exact .error _
  · rw [conclude_of_openParen hexpectation, finish, hexpectation]
    exact .error _

/-- What is needed at the end is no more than the lexemes needed at the start. -/
theorem demand_foldlM_le {vocabulary : Vocabulary} {source : List Token}
    (h : source.foldlM (proceed vocabulary) scan = .ok scan') (bound : Bound) :
    scan'.demand [] bound ≤ scan.demand (source.map Token.lexeme) bound := by
  refine foldlM_proceed_induction
    (fun scan later => scan'.demand [] bound ≤ scan.demand later bound) h (Nat.le_refl _) ?_
  intro scan next token m later hread hadvance hlater
  exact Nat.le_trans hlater (demand_advance_le hread hadvance _ bound)

/-- A scan with limits is the scan without, or goes beyond a limit.  It does so only if
the lexemes need more than the limit. -/
theorem run_agrees (vocabulary : Vocabulary) (source : List Token) (length : Nat) :
    Agrees vocabulary.limits
      (fun elements => elements.length ≤ (vocabulary.limits.cap .outputElements).val)
      (({} : Scan).demand (source.map Token.lexeme)) (run vocabulary source length)
      (complete vocabulary source length) := by
  have hstart := within_start vocabulary.limits
  refine (foldlM_step_agrees vocabulary source hstart).bind fun scan hscan hwithin => ?_
  exact (finish_agrees hwithin length).mono (demand_foldlM_le hscan)

end Scan

end Formula
