import Formula.Proofs.Scan.Advance

/-!
# Parentheses keep what is inside

A scan that stands behind an open parenthesis never reaches below it: nothing that waits
there is released before the parenthesis is closed, and what is out stays as it is.  So what
a source does to an empty scan, it does to the part of any scan that lies upon an open
parenthesis.  This is said of one move first, then of a row of lexemes.

Nothing that is accepted depends on positions.  They are left out: a *standing* is a scan
without the positions of its parentheses, and `Leads` says what lexemes make of a standing
wherever they are placed.

A row of lexemes that is accepted by itself can be *enclosed*: between parentheses it puts
its own elements out, and nothing of it is left waiting.  It need not make sense; it may be
empty, or end where an operand is due.

## Main results

* `carries_above`: a move does the same upon an open parenthesis, whatever is below it.
* `leads_above`: so does a source.
* `enclosed_of_complete`: what is accepted by itself can be enclosed.
* `Enclosed.comma`, `Enclosed.leads_group`: what commas and parentheses do around that.
-/

namespace Formula

open Outcome

/-- Where a scan stands: what it is, without the positions of its open parentheses. -/
structure Standing where
  expectation : Expectation
  waiting : List Waiting
  output : List Element

def Scan.standing (scan : Scan) : Standing := ⟨scan.expectation, scan.waiting, scan.output⟩

/-- A standing upon an open parenthesis with other entries below it, and behind elements that
are out already. -/
def Standing.above (standing : Standing) (below : List Waiting) (before : List Element) :
    Standing :=
  ⟨standing.expectation, standing.waiting ++ .left :: below, before ++ standing.output⟩

/-- A move carries one standing to another, at any position. -/
def Carries (m : Move) (standing next : Standing) : Prop :=
  ∀ (scan : Scan) (position : Nat), scan.standing = standing →
    ∃ scan', scan.advance position m = .ok scan' ∧ scan'.standing = next

/-- Lexemes lead from one standing to another, wherever they are placed. -/
def Leads (vocabulary : Vocabulary) (row : List Lexeme) (standing next : Standing) : Prop :=
  ∀ (source : List Token) (scan : Scan), source.map Token.lexeme = row →
    scan.standing = standing →
    ∃ scan', source.foldlM (Scan.proceed vocabulary) scan = .ok scan' ∧
      scan'.standing = next

/-- Lexemes that can be enclosed: upon an open parenthesis they put the elements out, but for
some that wait upon it, and nothing is missing where they end. -/
def Enclosed (vocabulary : Vocabulary) (row : List Lexeme) (elements : List Element) : Prop :=
  ∃ (expectation : Expectation) (inside : List Waiting) (output : List Element),
    expectation.isOpenParen = false ∧ (∀ entry ∈ inside, entry.isInside = true) ∧
    output ++ released inside = elements ∧
    ∀ (below : List Waiting) (before : List Element),
      Leads vocabulary row ⟨.operand, .left :: below, before⟩
        ⟨expectation, inside ++ .left :: below, before ++ output⟩

/-! ## One move -/

section Carries

variable {expectation : Expectation} {waiting : List Waiting} {output : List Element}

theorem carries_function (name : Text) (op : Operation) :
    Carries (.function name op) ⟨expectation, waiting, output⟩
      ⟨.openParen name, .applied op :: waiting, output⟩ := by
  rintro scan position hstanding
  cases hstanding
  exact ⟨_, rfl, rfl⟩

theorem carries_unary (op : UnaryOperation) :
    Carries (.unary op) ⟨expectation, waiting, output⟩
      ⟨expectation, .applied (.unary op) :: waiting, output⟩ := by
  rintro scan position hstanding
  cases hstanding
  exact ⟨_, rfl, rfl⟩

theorem carries_left :
    Carries .left ⟨expectation, waiting, output⟩ ⟨.operand, .left :: waiting, output⟩ := by
  rintro scan position hstanding
  cases hstanding
  exact ⟨_, rfl, rfl⟩

/-- A binary operator that comes where nothing waits is the only thing that waits. -/
theorem carries_binary (op : BinaryOperator) :
    Carries (.binary op) ⟨expectation, [], output⟩ ⟨.operand, [.binary op], output⟩ := by
  intro scan position hstanding
  have hwaiting : scan.waiting = [] := congrArg Standing.waiting hstanding
  have houtput : scan.output = output := congrArg Standing.output hstanding
  refine ⟨_, rfl, ?_⟩
  simp [Scan.standing, Scan.expect, Scan.push, Scan.drain, hwaiting, houtput]

/-- A `)` releases what waits inside, and the functions and unary operators in front. -/
theorem carries_right {inside applied below : List Waiting}
    (hinside : ∀ entry ∈ inside, entry.isInside = true)
    (happlied : ∀ entry ∈ applied, entry.isApplied = true)
    (hbelow : ∀ entry ∈ below.head?, entry.isApplied = false) :
    Carries .right ⟨expectation, inside ++ .left :: (applied ++ below), output⟩
      ⟨.operator, below, output ++ released inside ++ released applied⟩ := by
  intro scan position hstanding
  have hwaiting : scan.waiting = inside ++ .left :: (applied ++ below) :=
    congrArg Standing.waiting hstanding
  have houtput : scan.output = output := congrArg Standing.output hstanding
  refine ⟨_, Scan.advance_right hwaiting hinside, ?_⟩
  rw [Scan.drain_of_split rfl happlied hbelow, houtput]
  rfl

/-- A comma releases what waits inside. -/
theorem carries_comma {inside below : List Waiting}
    (hinside : ∀ entry ∈ inside, entry.isInside = true) :
    Carries .comma ⟨expectation, inside ++ .left :: below, output⟩
      ⟨.operand, .left :: below, output ++ released inside⟩ := by
  intro scan position hstanding
  have hwaiting : scan.waiting = inside ++ .left :: below :=
    congrArg Standing.waiting hstanding
  have houtput : scan.output = output := congrArg Standing.output hstanding
  refine ⟨_, Scan.advance_comma hwaiting hinside, ?_⟩
  rw [houtput]
  rfl

end Carries

/-! ## A move upon an open parenthesis -/

section Above

variable {test : Waiting → Bool} {below : List Waiting} {before : List Element}
  {inner outer inner' : Scan}

/-- `Above below before inner outer` says that the outer scan is the inner one upon an open
parenthesis. -/
def Above (below : List Waiting) (before : List Element) (inner outer : Scan) : Prop :=
  outer.standing = inner.standing.above below before

theorem takeWhile_append_left (hleft : test .left = false) (entries below : List Waiting) :
    (entries ++ .left :: below).takeWhile test = entries.takeWhile test := by
  induction entries with
  | nil => simp [hleft]
  | cons entry entries ih =>
      by_cases hentry : test entry = true
      · simp [hentry, ih]
      · simp [hentry]

theorem dropWhile_append_left (hleft : test .left = false) (entries below : List Waiting) :
    (entries ++ .left :: below).dropWhile test = entries.dropWhile test ++ .left :: below := by
  induction entries with
  | nil => simp [hleft]
  | cons entry entries ih =>
      by_cases hentry : test entry = true
      · simp [hentry, ih]
      · simp [hentry]

namespace Above

theorem expectation_eq (h : Above below before inner outer) :
    outer.expectation = inner.expectation := congrArg Standing.expectation h

theorem waiting_eq (h : Above below before inner outer) :
    outer.waiting = inner.waiting ++ .left :: below := congrArg Standing.waiting h

theorem output_eq (h : Above below before inner outer) :
    outer.output = before ++ inner.output := congrArg Standing.output h

theorem expect (h : Above below before inner outer) (expectation : Expectation) :
    Above below before (inner.expect expectation) (outer.expect expectation) := by
  show Standing.mk expectation outer.waiting outer.output = _
  rw [h.waiting_eq, h.output_eq]
  rfl

theorem push (h : Above below before inner outer) (entry : Waiting) :
    Above below before (inner.push entry) (outer.push entry) := by
  show Standing.mk outer.expectation (entry :: outer.waiting) outer.output = _
  rw [h.expectation_eq, h.waiting_eq, h.output_eq]
  rfl

theorem put (h : Above below before inner outer) (elements : List Element) :
    Above below before (inner.put elements) (outer.put elements) := by
  show Standing.mk outer.expectation outer.waiting (outer.output ++ elements) = _
  rw [h.expectation_eq, h.waiting_eq, h.output_eq, List.append_assoc]
  rfl

/-- What is released stops at the parenthesis at the latest. -/
theorem drain (h : Above below before inner outer) (hleft : test .left = false) :
    Above below before (inner.drain test) (outer.drain test) := by
  show Standing.mk outer.expectation (outer.waiting.dropWhile test)
    (outer.output ++ released (outer.waiting.takeWhile test)) = _
  rw [h.expectation_eq, h.waiting_eq, h.output_eq, takeWhile_append_left hleft,
    dropWhile_append_left hleft, List.append_assoc]
  rfl

end Above

/-- **One move.**  What a move does to a scan, it does to it upon an open parenthesis. -/
theorem carries_above {position : Nat} {m : Move} (h : inner.advance position m = .ok inner')
    (below : List Waiting) (before : List Element) :
    Carries m (inner.standing.above below before) (inner'.standing.above below before) := by
  intro outer place hstanding
  have habove : Above below before inner outer := hstanding
  cases m with
  | operand o =>
      cases h
      exact ⟨_, rfl, (habove.put _).expect _⟩
  | function name op =>
      cases h
      exact ⟨_, rfl, (habove.push _).expect _⟩
  | unary op =>
      cases h
      exact ⟨_, rfl, habove.push _⟩
  | binary op =>
      cases h
      exact ⟨_, rfl, (((habove.drain rfl).drain rfl).push _).expect _⟩
  | left =>
      cases h
      exact ⟨_, rfl, (habove.push .left).expect .operand⟩
  | right =>
      obtain ⟨inside, outside, hwaiting, hinside, rfl⟩ := Scan.waiting_of_advance_right h
      have houter : outer.waiting = inside ++ .left :: (outside ++ .left :: below) := by
        rw [habove.waiting_eq, hwaiting, List.append_assoc]
        rfl
      have hclosed : Above below before
          { inner with
            output := inner.output ++ released inside
            waiting := outside
            opens := inner.opens.tail }
          { outer with
            output := outer.output ++ released inside
            waiting := outside ++ .left :: below
            opens := outer.opens.tail } := by
        show Standing.mk outer.expectation _ (outer.output ++ released inside) = _
        rw [habove.expectation_eq, habove.output_eq, List.append_assoc]
        rfl
      exact ⟨_, Scan.advance_right houter hinside, (hclosed.drain rfl).expect _⟩
  | comma =>
      obtain ⟨inside, outside, hwaiting, hinside, rfl⟩ := Scan.waiting_of_advance_comma h
      have houter : outer.waiting = inside ++ .left :: (outside ++ .left :: below) := by
        rw [habove.waiting_eq, hwaiting, List.append_assoc]
        rfl
      refine ⟨_, Scan.advance_comma houter hinside, ?_⟩
      show Standing.mk .operand _ (outer.output ++ released inside) = _
      rw [habove.output_eq, List.append_assoc]
      rfl

end Above

/-! ## Rows of lexemes -/

namespace Leads

variable {vocabulary : Vocabulary} {standing middle next : Standing} {first later : List Lexeme}

theorem nil : Leads vocabulary [] standing standing := by
  intro source scan hsource hstanding
  have hnone : source = [] := List.map_eq_nil_iff.1 hsource
  subst hnone
  exact ⟨scan, rfl, hstanding⟩

/-- A lexeme leads where its move carries. -/
theorem cons {lexeme : Lexeme} {m : Move}
    (hread : Reads vocabulary standing.expectation lexeme m) (hmove : Carries m standing middle)
    (hlater : Leads vocabulary later middle next) :
    Leads vocabulary (lexeme :: later) standing next := by
  intro source scan hsource hstanding
  obtain ⟨token, rest, rfl, hlexeme, hrest⟩ := List.map_eq_cons_iff.1 hsource
  obtain ⟨scan₁, hadvance, hmiddle⟩ := hmove scan token.position hstanding
  obtain ⟨scan₂, hscan, hnext⟩ := hlater rest scan₁ hrest hmiddle
  have hreads : Reads vocabulary scan.expectation token.lexeme m := by
    have hexpectation : scan.expectation = standing.expectation :=
      congrArg Standing.expectation hstanding
    rw [hexpectation, hlexeme]
    exact hread
  refine ⟨scan₂, ?_, hnext⟩
  rw [List.foldlM_cons, Scan.proceed_of_reads hreads, hadvance]
  exact hscan

theorem append (hfirst : Leads vocabulary first standing middle)
    (hlater : Leads vocabulary later middle next) :
    Leads vocabulary (first ++ later) standing next := by
  intro source scan hsource hstanding
  obtain ⟨front, rest, rfl, hfront, hrest⟩ := List.map_eq_append_iff.1 hsource
  obtain ⟨scan₁, hscan₁, hmiddle⟩ := hfirst front scan hfront hstanding
  obtain ⟨scan₂, hscan₂, hnext⟩ := hlater rest scan₁ hrest hmiddle
  refine ⟨scan₂, ?_, hnext⟩
  rw [List.foldlM_append, hscan₁]
  exact hscan₂

end Leads

section

variable {vocabulary : Vocabulary} {source : List Token} {scan scan' : Scan}
  {row first later : List Lexeme} {elements firstElements laterElements : List Element}

/-- **A source.**  What a source does to a scan, its lexemes do to it upon an open
parenthesis. -/
theorem leads_above (h : source.foldlM (Scan.proceed vocabulary) scan = .ok scan')
    (below : List Waiting) (before : List Element) :
    Leads vocabulary (source.map Token.lexeme) (scan.standing.above below before)
      (scan'.standing.above below before) := by
  refine Scan.foldlM_proceed_induction
    (fun scan later => Leads vocabulary later (scan.standing.above below before)
      (scan'.standing.above below before)) h .nil ?_
  intro scan next token m later hread hadvance hlater
  exact .cons hread (carries_above hadvance below before) hlater

/-- Lexemes that lead to an end where nothing is open are accepted. -/
theorem complete_of_leads {standing : Standing}
    (h : Leads vocabulary (source.map Token.lexeme) ⟨.operand, [], []⟩ standing)
    (hopen : standing.expectation.isOpenParen = false)
    (hclosed : ∀ entry ∈ standing.waiting, entry.isInside = true) (length : Nat) :
    Scan.complete vocabulary source length =
      .ok (standing.output ++ released standing.waiting) := by
  obtain ⟨scan, hscan, rfl⟩ := h source {} rfl rfl
  have hconclude : scan.conclude length = .ok (scan.output ++ released scan.waiting) :=
    Scan.conclude_of_closed hopen hclosed
  rw [Scan.complete, hscan]
  exact hconclude

/-! ## Groups -/

/-- What is accepted by itself can be enclosed. -/
theorem enclosed_of_complete {length : Nat}
    (h : Scan.complete vocabulary source length = .ok elements) :
    Enclosed vocabulary (source.map Token.lexeme) elements := by
  obtain ⟨scan, hscan, hconclude⟩ := Scan.exists_of_complete h
  obtain ⟨hopen, hinside, helements⟩ := Scan.content_of_conclude hconclude
  refine ⟨scan.expectation, scan.waiting, scan.output, hopen, hinside, helements.symm, ?_⟩
  intro below before
  have hleads := leads_above hscan below before
  have hstart : ({} : Scan).standing.above below before =
      ⟨.operand, .left :: below, before⟩ := by
    simp [Scan.standing, Standing.above]
  rw [hstart] at hleads
  exact hleads

/-- With a comma between them, two rows can be enclosed together. -/
theorem Enclosed.comma (hfirst : Enclosed vocabulary first firstElements)
    (hlater : Enclosed vocabulary later laterElements) :
    Enclosed vocabulary (first ++ .symbol ',' :: later) (firstElements ++ laterElements) := by
  obtain ⟨expectation₁, inside₁, output₁, hopen₁, hinside₁, rfl, hleads₁⟩ := hfirst
  obtain ⟨expectation₂, inside₂, output₂, hopen₂, hinside₂, rfl, hleads₂⟩ := hlater
  refine ⟨expectation₂, inside₂, output₁ ++ released inside₁ ++ output₂, hopen₂, hinside₂,
    List.append_assoc _ _ _, ?_⟩
  intro below before
  have hcomma : Leads vocabulary (.symbol ',' :: later)
      ⟨expectation₁, inside₁ ++ .left :: below, before ++ output₁⟩
      ⟨expectation₂, inside₂ ++ .left :: below,
        before ++ output₁ ++ released inside₁ ++ output₂⟩ :=
    .cons (.comma hopen₁) (carries_comma hinside₁) (hleads₂ below _)
  have hboth := (hleads₁ below before).append hcomma
  simpa only [List.append_assoc] using hboth

/-- Between parentheses, with functions and unary operators in front, a row puts its elements
out, and then these. -/
theorem Enclosed.leads_group (h : Enclosed vocabulary row elements)
    (expectation : Expectation) (applied below : List Waiting) (before : List Element)
    (happlied : ∀ entry ∈ applied, entry.isApplied = true)
    (hbelow : ∀ entry ∈ below.head?, entry.isApplied = false) :
    Leads vocabulary (.symbol '(' :: (row ++ [.symbol ')']))
      ⟨expectation, applied ++ below, before⟩
      ⟨.operator, below, before ++ elements ++ released applied⟩ := by
  obtain ⟨expectation', inside, output, hopen, hinside, rfl, hleads⟩ := h
  have hright : Leads vocabulary [.symbol ')']
      ⟨expectation', inside ++ .left :: (applied ++ below), before ++ output⟩
      ⟨.operator, below, before ++ output ++ released inside ++ released applied⟩ :=
    .cons (.right hopen) (carries_right hinside happlied hbelow) .nil
  have hgroup := (hleads (applied ++ below) before).append hright
  rw [List.append_assoc before output] at hgroup
  exact .cons .left carries_left hgroup

end

end Formula
