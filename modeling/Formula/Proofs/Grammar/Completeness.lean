import Formula.Proofs.Grammar.Lexemes
import Formula.Proofs.Parse

/-!
# Every phrase is parsed

A phrase is scanned in the middle of others: something waits on the stack when it begins,
and it has to leave that alone.  Which entries it may begin upon depends on its level.  A
phrase of level `k` may not stand upon a binary operator of precedence `k` or more, which
would be released with it; a phrase that begins with an operand or a parenthesis may stand
upon the unary operators in front of it, and may release them or not.  It ends with
operations of its own still waiting, and with these released it has put out just its
elements.

## Main results

* `scanned_of_derives`: how a phrase is scanned, upon any stack that it may begin upon.
* `complete_of_derives`: a whole phrase scans to its elements.
* `parse_of_derives`: a text that spells a phrase is parsed to the elements of the phrase.
-/

namespace Formula

open Outcome

/-- The stacks that a phrase of some level may begin upon. -/
def Bears (level : Nat) (below : List Waiting) : Prop :=
  ∀ entry ∈ below.head?, entry.isApplied = false ∧ entry.precedes level = false

/-- What a phrase of some level leaves waiting: unary operators and functions upon
binary operators that bind at least as tight as the level. -/
def Layered (level : Nat) (entries : List Waiting) : Prop :=
  ∃ applied joined, entries = applied ++ joined ∧
    (∀ entry ∈ applied, entry.isApplied = true) ∧
    ∀ entry ∈ joined, entry.precedes level = true

/-- The scan has gone on over something with the given elements: it expects an operator,
`inner` waits upon what waited below, and with `inner` released the elements are out. -/
structure Scan.Passed (scan scan' : Scan) (inner below : List Waiting)
    (elements : List Element) : Prop where
  expectation : scan'.expectation = .operator
  opens : scan'.opens = scan.opens
  waiting : scan'.waiting = inner ++ below
  output : scan'.output ++ released inner = scan.output ++ elements

/-- How tokens that spell a part are scanned.  The unary operators in front of a phrase of
the highest level are `applied`. -/
def Scanned (vocabulary : Vocabulary) (source : List Token) (elements : List Element) :
    Part → Prop
  | .phrase level => ∀ (scan : Scan) (applied below : List Waiting),
      scan.expectation = .operand → scan.waiting = applied ++ below →
      (∀ entry ∈ applied, entry.isApplied = true) → (level < topLevel → applied = []) →
      Bears level below →
      ∃ scan' inner, source.foldlM (Scan.proceed vocabulary) scan = .ok scan' ∧
        Layered level inner ∧
        Scan.Passed scan scan' inner below (elements ++ released applied)
  | .arguments _ => ∀ (scan : Scan) (below : List Waiting),
      scan.expectation = .operand → scan.waiting = .left :: below →
      ∃ scan' inner, source.foldlM (Scan.proceed vocabulary) scan = .ok scan' ∧
        (∀ entry ∈ inner, entry.isInside = true) ∧
        Scan.Passed scan scan' inner (.left :: below) elements

namespace Layered

variable {level : Nat} {entries : List Waiting}

theorem isInside (h : Layered level entries) : ∀ entry ∈ entries, entry.isInside = true := by
  obtain ⟨applied, joined, rfl, happlied, hjoined⟩ := h
  intro entry hmem
  rcases List.mem_append.1 hmem with hmem | hmem
  · exact Waiting.isInside_of_isApplied (happlied entry hmem)
  · exact Waiting.isInside_of_precedes (hjoined entry hmem)

theorem of_applied (h : ∀ entry ∈ entries, entry.isApplied = true) : Layered level entries :=
  ⟨entries, [], (List.append_nil _).symm, h, by simp⟩

end Layered

theorem Waiting.precedes_mono {level level' : Nat} (h : level ≤ level') {entry : Waiting}
    (hentry : entry.precedes level' = true) : entry.precedes level = true := by
  cases entry with
  | binary op =>
      simp only [precedes, decide_eq_true_eq] at hentry ⊢
      omega
  | applied op => cases hentry
  | left => cases hentry

theorem Bears.mono {level level' : Nat} (h : level ≤ level') {below : List Waiting}
    (hbelow : Bears level below) : Bears level' below := by
  intro entry hmem
  obtain ⟨happlied, hprecedes⟩ := hbelow entry hmem
  refine ⟨happlied, ?_⟩
  cases hlevel' : entry.precedes level' with
  | false => rfl
  | true => rw [Waiting.precedes_mono h hlevel'] at hprecedes; exact hprecedes

theorem bears_left (level : Nat) (below : List Waiting) : Bears level (.left :: below) := by
  intro entry hmem
  cases hmem
  exact ⟨rfl, rfl⟩

theorem bears_nil (level : Nat) : Bears level [] := by
  intro entry hmem
  cases hmem

/-! ## One part after another -/

section

variable {vocabulary : Vocabulary} {elements : List Element}

theorem scanned_operand {token : Token} {term : Text} {o : Operand}
    (hlexeme : token.lexeme = .term term)
    (hmeaning : vocabulary.meaning? term = some (.operand o)) :
    Scanned vocabulary [token] [.operand o] (.phrase topLevel) := by
  intro scan applied below hexpectation hwaiting happlied _ _
  have hreads : Reads vocabulary scan.expectation token.lexeme (.operand o) := by
    rw [hexpectation, hlexeme]
    exact .operand rfl hmeaning
  refine ⟨(scan.put [.operand o]).expect .operator, applied, ?_, .of_applied happlied, ?_⟩
  · rw [List.foldlM_cons, Scan.proceed_of_reads hreads]
    rfl
  · refine ⟨rfl, rfl, hwaiting, ?_⟩
    simp [Scan.expect, Scan.put]

/-- Something in parentheses, with functions and unary operators in front of it. -/
theorem parenthesized {opening closing : Token} {inside : List Token} {count : Nat}
    (hopening : opening.lexeme = .symbol '(') (hclosing : closing.lexeme = .symbol ')')
    (h : Scanned vocabulary inside elements (.arguments count)) (scan : Scan)
    (applied : List Waiting) {below : List Waiting} (hwaiting : scan.waiting = applied ++ below)
    (happlied : ∀ entry ∈ applied, entry.isApplied = true)
    (hbelow : ∀ entry ∈ below.head?, entry.isApplied = false) :
    ∃ scan', (opening :: inside ++ [closing]).foldlM (Scan.proceed vocabulary) scan =
        .ok scan' ∧
      Scan.Passed scan scan' [] below (elements ++ released applied) := by
  -- behind the `(`
  have hleft : Reads vocabulary scan.expectation opening.lexeme .left := by
    rw [hopening]
    exact .left
  obtain ⟨inner, left, hinner, hinside, hpassed⟩ := h
    ({ scan.push .left with opens := opening.position :: scan.opens }.expect .operand)
    (applied ++ below) rfl (by rw [← hwaiting]; rfl)
  -- behind the `)`
  have hright : Reads vocabulary inner.expectation closing.lexeme .right := by
    rw [hclosing]
    exact .right (by rw [hpassed.expectation]; rfl)
  have hclose := Scan.proceed_of_reads hright
  rw [Scan.advance_right hpassed.waiting hinside] at hclose
  rw [Scan.drain_of_split rfl happlied hbelow] at hclose
  refine ⟨{ inner with
    expectation := .operator
    waiting := below
    opens := inner.opens.tail
    output := inner.output ++ released left ++ released applied }, ?_, rfl, ?_, rfl, ?_⟩
  · rw [List.cons_append, List.foldlM_cons, Scan.proceed_of_reads hleft]
    show (inside ++ [closing]).foldlM (Scan.proceed vocabulary) _ = _
    rw [List.foldlM_append, hinner, ok_bind, List.foldlM_cons, hclose]
    rfl
  · show inner.opens.tail = scan.opens
    rw [hpassed.opens]
    rfl
  · show inner.output ++ released left ++ released applied ++ [] = _
    rw [hpassed.output, List.append_nil, List.append_assoc]
    rfl

theorem scanned_group {opening closing : Token} {inside : List Token} {count : Nat}
    (hopening : opening.lexeme = .symbol '(') (hclosing : closing.lexeme = .symbol ')')
    (h : Scanned vocabulary inside elements (.arguments count)) :
    Scanned vocabulary (opening :: inside ++ [closing]) elements (.phrase topLevel) := by
  intro scan applied below _ hwaiting happlied _ hbelow
  obtain ⟨scan', hscan, hpassed⟩ := parenthesized hopening hclosing h scan applied hwaiting
    happlied fun entry hmem => (hbelow entry hmem).1
  exact ⟨scan', [], hscan, .of_applied (by simp), hpassed⟩

theorem scanned_call {called opening closing : Token} {inside : List Token} {name : Text}
    {op : Operation} {count : Nat} (hcalled : called.lexeme = .term name)
    (hmeaning : vocabulary.meaning? name = some (.function op))
    (hopening : opening.lexeme = .symbol '(') (hclosing : closing.lexeme = .symbol ')')
    (h : Scanned vocabulary inside elements (.arguments count)) :
    Scanned vocabulary (called :: opening :: inside ++ [closing])
      (elements ++ [.operation op]) (.phrase topLevel) := by
  intro scan applied below hexpectation hwaiting happlied _ hbelow
  have hreads : Reads vocabulary scan.expectation called.lexeme (.function name op) := by
    rw [hexpectation, hcalled]
    exact .function rfl hmeaning
  -- the function waits with the unary operators in front of it
  obtain ⟨scan', hscan, hpassed⟩ := parenthesized hopening hclosing h
    (scan.takeFunction name op) (.applied op :: applied)
    (by rw [Scan.takeFunction, Scan.push, Scan.expect, hwaiting]; rfl)
    (by simpa [Waiting.isApplied] using happlied) fun entry hmem => (hbelow entry hmem).1
  refine ⟨scan', [], ?_, .of_applied (by simp), ?_⟩
  · rw [List.cons_append, List.foldlM_cons, Scan.proceed_of_reads hreads]
    exact hscan
  · refine ⟨hpassed.expectation, hpassed.opens, hpassed.waiting, ?_⟩
    rw [hpassed.output, released_applied, List.append_assoc, List.singleton_append]
    rfl

theorem scanned_unary {token : Token} {argument : List Token} {c : Char}
    {op : UnaryOperation} (hlexeme : token.lexeme = .symbol c)
    (hop : Symbol.unary? c = some op)
    (h : Scanned vocabulary argument elements (.phrase topLevel)) :
    Scanned vocabulary (token :: argument) (elements ++ [.operation (.unary op)])
      (.phrase topLevel) := by
  intro scan applied below hexpectation hwaiting happlied hlevel hbelow
  have hreads : Reads vocabulary scan.expectation token.lexeme (.unary op) := by
    rw [hexpectation, hlexeme]
    exact .unary hop
  obtain ⟨scan', inner, hscan, hlayered, hpassed⟩ := h
    (scan.push (.applied (.unary op))) (.applied (.unary op) :: applied) below hexpectation
    (by rw [Scan.push, hwaiting]; rfl) (by simpa [Waiting.isApplied] using happlied)
    (fun hlt => absurd hlt (Nat.lt_irrefl _)) hbelow
  refine ⟨scan', inner, ?_, hlayered, ?_⟩
  · rw [List.foldlM_cons, Scan.proceed_of_reads hreads]
    exact hscan
  · refine ⟨hpassed.expectation, hpassed.opens, hpassed.waiting, ?_⟩
    rw [hpassed.output, released_applied, List.append_assoc, List.singleton_append]
    rfl

/-- What a binary operator makes of the phrase on its left: the phrase is put out, and the
operator waits upon what waited below the phrase. -/
theorem proceed_binary {token : Token} {c : Char} {op : BinaryOperator}
    (hlexeme : token.lexeme = .symbol c) (hop : Symbol.binary? c = some op)
    {scan scan' : Scan} {inner below : List Waiting}
    (hlayered : Layered op.precedence inner) (hbelow : Bears op.precedence below)
    (hpassed : Scan.Passed scan scan' inner below elements) :
    scan'.proceed vocabulary token = .ok
      { scan with
        expectation := .operand
        waiting := .binary op :: below
        output := scan.output ++ elements } := by
  have hreads : Reads vocabulary scan'.expectation token.lexeme (.binary op) := by
    rw [hpassed.expectation, hlexeme]
    exact .binary hop
  obtain ⟨applied, joined, rfl, happlied, hjoined⟩ := hlayered
  have hwaiting : scan'.waiting = applied ++ (joined ++ below) := by
    rw [hpassed.waiting, List.append_assoc]
  -- the unary operators end where the binary ones begin, or what waited below
  have hstop : ∀ entry ∈ (joined ++ below).head?, entry.isApplied = false := by
    cases joined with
    | nil => exact fun entry hmem => (hbelow entry hmem).1
    | cons first joined =>
        intro entry hmem
        cases hmem
        have hfirst := hjoined first (by simp)
        cases first <;> first | rfl | cases hfirst
  rw [Scan.proceed_of_reads hreads, Scan.advance, Scan.drain_of_split hwaiting happlied hstop,
    Scan.drain_of_split rfl hjoined fun entry hmem => (hbelow entry hmem).2]
  have houtput := hpassed.output
  rw [released_append, ← List.append_assoc] at houtput
  simp only [Scan.push, Scan.expect, houtput, hpassed.opens]

theorem scanned_binary {token : Token} {left right : List Token} {c : Char}
    {op : BinaryOperator} {leftElements rightElements : List Element}
    (hlexeme : token.lexeme = .symbol c) (hop : Symbol.binary? c = some op)
    (hleft : Scanned vocabulary left leftElements (.phrase op.precedence))
    (hright : Scanned vocabulary right rightElements (.phrase (op.precedence + 1))) :
    Scanned vocabulary (left ++ token :: right)
      (leftElements ++ rightElements ++ [.operation (.binary op.operation)])
      (.phrase op.precedence) := by
  intro scan applied below hexpectation hwaiting _ hlevel hbelow
  have hnone := hlevel (Symbol.binary?_eq_some_iff.1 hop).level_lt
  subst hnone
  obtain ⟨scan₁, inner₁, hscan₁, hlayered₁, hpassed₁⟩ := hleft scan [] below hexpectation
    hwaiting (by simp) (fun _ => rfl) hbelow
  rw [released_nil, List.append_nil] at hpassed₁
  have hjoin : scan₁.proceed vocabulary token = .ok
      { scan with
        expectation := .operand
        waiting := .binary op :: below
        output := scan.output ++ leftElements } :=
    proceed_binary hlexeme hop hlayered₁ hbelow hpassed₁
  have hbears : Bears (op.precedence + 1) (.binary op :: below) := by
    intro entry hmem
    cases hmem
    exact ⟨rfl, by simp [Waiting.precedes]⟩
  obtain ⟨scan₂, inner₂, hscan₂, ⟨applied₂, joined₂, rfl, happlied₂, hjoined₂⟩, hpassed₂⟩ :=
    hright { scan with
      expectation := .operand
      waiting := .binary op :: below
      output := scan.output ++ leftElements } [] (.binary op :: below) rfl rfl (by simp)
      (fun _ => rfl) hbears
  refine ⟨scan₂, applied₂ ++ (joined₂ ++ [.binary op]), ?_, ?_, ?_⟩
  · rw [List.foldlM_append, hscan₁, ok_bind, List.foldlM_cons, hjoin, ok_bind, hscan₂]
  · refine ⟨applied₂, joined₂ ++ [.binary op], rfl, happlied₂, ?_⟩
    intro entry hmem
    rcases List.mem_append.1 hmem with hmem | hmem
    · exact Waiting.precedes_mono (Nat.le_succ _) (hjoined₂ entry hmem)
    · rw [List.mem_singleton.1 hmem]
      simp [Waiting.precedes]
  · refine ⟨hpassed₂.expectation, hpassed₂.opens, ?_, ?_⟩
    · rw [hpassed₂.waiting]
      simp
    · have houtput := hpassed₂.output
      rw [released_nil, List.append_nil] at houtput
      calc scan₂.output ++ released (applied₂ ++ (joined₂ ++ [.binary op]))
          = scan₂.output ++ released (applied₂ ++ joined₂) ++ released [.binary op] := by
            rw [← List.append_assoc applied₂, released_append _ [.binary op],
              List.append_assoc]
        _ = scan.output ++ leftElements ++ rightElements ++ released [.binary op] := by
            rw [houtput]
        _ = _ := by simp

theorem scanned_lift {source : List Token} {level : Nat} (hlevel : level < topLevel)
    (h : Scanned vocabulary source elements (.phrase (level + 1))) :
    Scanned vocabulary source elements (.phrase level) := by
  intro scan applied below hexpectation hwaiting happlied hnone hbelow
  obtain ⟨scan', inner, hscan, ⟨applied', joined, rfl, happlied', hjoined⟩, hpassed⟩ :=
    h scan applied below hexpectation hwaiting happlied (fun _ => hnone hlevel)
      (hbelow.mono (Nat.le_succ level))
  exact ⟨scan', _, hscan, ⟨applied', joined, rfl, happlied', fun entry hmem =>
    Waiting.precedes_mono (Nat.le_succ level) (hjoined entry hmem)⟩, hpassed⟩

theorem scanned_lastArgument {source : List Token}
    (h : Scanned vocabulary source elements (.phrase 0)) :
    Scanned vocabulary source elements (.arguments 1) := by
  intro scan below hexpectation hwaiting
  obtain ⟨scan', inner, hscan, hlayered, hpassed⟩ := h scan [] (.left :: below) hexpectation
    hwaiting (by simp) (fun _ => rfl) (bears_left 0 below)
  rw [released_nil, List.append_nil] at hpassed
  exact ⟨scan', inner, hscan, hlayered.isInside, hpassed⟩

theorem scanned_moreArguments {comma : Token} {first later : List Token} {count : Nat}
    {firstElements laterElements : List Element} (hcomma : comma.lexeme = .symbol ',')
    (hfirst : Scanned vocabulary first firstElements (.arguments 1))
    (hlater : Scanned vocabulary later laterElements (.arguments count)) :
    Scanned vocabulary (first ++ comma :: later) (firstElements ++ laterElements)
      (.arguments (count + 1)) := by
  intro scan below hexpectation hwaiting
  obtain ⟨scan₁, inner₁, hscan₁, hinside₁, hpassed₁⟩ := hfirst scan below hexpectation hwaiting
  have hreads : Reads vocabulary scan₁.expectation comma.lexeme .comma := by
    rw [hcomma]
    exact .comma (by rw [hpassed₁.expectation]; rfl)
  have hbetween : scan₁.proceed vocabulary comma = .ok
      { scan with
        expectation := .operand
        waiting := .left :: below
        output := scan.output ++ firstElements } := by
    rw [Scan.proceed_of_reads hreads, Scan.advance_comma hpassed₁.waiting hinside₁, Scan.expect]
    simp only [hpassed₁.output, hpassed₁.opens]
  obtain ⟨scan₂, inner₂, hscan₂, hinside₂, hpassed₂⟩ := hlater
    { scan with
      expectation := .operand
      waiting := .left :: below
      output := scan.output ++ firstElements } below rfl rfl
  refine ⟨scan₂, inner₂, ?_, hinside₂, ?_⟩
  · rw [List.foldlM_append, hscan₁, ok_bind, List.foldlM_cons, hbetween, ok_bind, hscan₂]
  · refine ⟨hpassed₂.expectation, hpassed₂.opens, hpassed₂.waiting, ?_⟩
    rw [hpassed₂.output, ← List.append_assoc]

end

/-! ## Every phrase -/

theorem exists_parenthesized {source : List Token} {lexemes : List Lexeme}
    (h : source.map Token.lexeme = .symbol '(' :: lexemes ++ [.symbol ')']) :
    ∃ opening inside closing, source = opening :: inside ++ [closing] ∧
      opening.lexeme = .symbol '(' ∧ inside.map Token.lexeme = lexemes ∧
      closing.lexeme = .symbol ')' := by
  obtain ⟨before, after, rfl, hbefore, hafter⟩ := List.map_eq_append_iff.1 h
  obtain ⟨opening, inside, rfl, hopening, hinside⟩ := List.map_eq_cons_iff.1 hbefore
  obtain ⟨closing, rfl, hclosing⟩ := List.map_eq_singleton_iff.1 hafter
  exact ⟨opening, inside, closing, rfl, hopening, hinside, hclosing⟩

/-- How a derived part is scanned, upon any stack that it may begin upon. -/
theorem scanned_of_derives {vocabulary : Vocabulary} {admits : Operation → Nat → Prop}
    {part : Part} {lexemes : List Lexeme} {elements : List Element}
    (d : Derives vocabulary admits part lexemes elements) {source : List Token}
    (hsource : source.map Token.lexeme = lexemes) :
    Scanned vocabulary source elements part := by
  induction d generalizing source with
  | operand hmeaning =>
      obtain ⟨token, rfl, hlexeme⟩ := List.map_eq_singleton_iff.1 hsource
      exact scanned_operand hlexeme (Vocabulary.meaning?_eq_some_iff.2 hmeaning)
  | group _ ih =>
      obtain ⟨opening, inside, closing, rfl, hopening, hinside, hclosing⟩ :=
        exists_parenthesized hsource
      exact scanned_group hopening hclosing (scanned_lastArgument (ih hinside))
  | call hmeaning _ _ ih =>
      obtain ⟨called, rest, rfl, hcalled, hrest⟩ := List.map_eq_cons_iff.1 hsource
      obtain ⟨opening, inside, closing, rfl, hopening, hinside, hclosing⟩ :=
        exists_parenthesized hrest
      exact scanned_call hcalled (Vocabulary.meaning?_eq_some_iff.2 hmeaning) hopening hclosing
        (ih hinside)
  | unary hop _ ih =>
      obtain ⟨token, argument, rfl, hlexeme, hargument⟩ := List.map_eq_cons_iff.1 hsource
      exact scanned_unary hlexeme (Symbol.unary?_eq_some_iff.2 hop) (ih hargument)
  | binary hop _ _ ihLeft ihRight =>
      obtain ⟨left, rest, rfl, hleft, hrest⟩ := List.map_eq_append_iff.1 hsource
      obtain ⟨token, right, rfl, hlexeme, hright⟩ := List.map_eq_cons_iff.1 hrest
      exact scanned_binary hlexeme (Symbol.binary?_eq_some_iff.2 hop) (ihLeft hleft)
        (ihRight hright)
  | lift hlevel _ ih => exact scanned_lift hlevel (ih hsource)
  | lastArgument _ ih => exact scanned_lastArgument (ih hsource)
  | moreArguments _ _ ihFirst ihLater =>
      obtain ⟨first, rest, rfl, hfirst, hrest⟩ := List.map_eq_append_iff.1 hsource
      obtain ⟨comma, later, rfl, hcomma, hlater⟩ := List.map_eq_cons_iff.1 hrest
      exact scanned_moreArguments hcomma (scanned_lastArgument (ihFirst hfirst))
        (ihLater hlater)

/-- The tokens of a phrase scan to the elements of the phrase. -/
theorem complete_of_derives {vocabulary : Vocabulary} {admits : Operation → Nat → Prop}
    {source : List Token} {elements : List Element}
    (d : Derives vocabulary admits (.phrase 0) (source.map Token.lexeme) elements)
    (length : Nat) : Scan.complete vocabulary source length = .ok elements := by
  obtain ⟨scan, inner, hscan, hlayered, hpassed⟩ := scanned_of_derives d rfl {} [] [] rfl rfl
    (by simp) (fun _ => rfl) (bears_nil 0)
  have hwaiting : scan.waiting = inner := by rw [hpassed.waiting, List.append_nil]
  have hconclude : scan.conclude length = .ok (scan.output ++ released scan.waiting) :=
    Scan.conclude_of_closed (by rw [hpassed.expectation]; rfl)
      (by rw [hwaiting]; exact hlayered.isInside)
  rw [Scan.complete, hscan, ok_bind, hconclude, hwaiting, hpassed.output]
  simp

/-- A source whose lexemes are those of a phrase is parsed to the elements of the phrase,
within the limits. -/
theorem parse_of_derives_lexemes {source : Text} {names : List Text} {config : Config}
    {admits : Operation → Nat → Prop} {elements : List Element}
    (hwithin : ∀ bound,
      sourceDemand names (config.fold source) bound ≤ (config.limits.cap bound).val)
    (d : Derives (config.vocabulary names) admits (.phrase 0) (lexemes (config.fold source))
      elements) :
    parse source names config =
      .ok { Expression.ofNames (names.map config.fold) with elements } := by
  rw [parse_eq_parseFreely hwithin, parseFreely, complete_of_derives d]
  rfl

/-- A text spells its own lexemes. -/
theorem spells_lexemes (source : Text) : Spells (lexemes source) source :=
  (spellsTokens source 0).1

/-- A text that spells a phrase, with any blanks, is parsed to the elements of the phrase
in post-order.  The phrase may be of any size, as long as the limits admit it. -/
theorem parse_of_derives {source : Text} {names : List Text} {config : Config}
    {phrase : List Lexeme} {elements : List Element} (hfold : config.caseFold = false)
    (hwithin : ∀ bound, sourceDemand names source bound ≤ (config.limits.cap bound).val)
    (hnames : ∀ name ∈ names, Lexeme.term name ∈ phrase →
      name ≠ [] ∧ ∀ c ∈ name, isTermChar c = true)
    (hspells : Spells phrase source)
    (d : Derives ⟨names, config.limits⟩ anyArguments (.phrase 0) phrase elements) :
    parse source names config = .ok { Expression.ofNames names with elements } := by
  have hid (text : Text) : config.fold text = text := by
    rw [Config.fold, hfold]
    rfl
  have hmap : names.map config.fold = names := by
    rw [List.map_congr_left fun name _ => hid name, List.map_id']
  have hvocabulary : config.vocabulary names = ⟨names, config.limits⟩ := by
    rw [Config.vocabulary, hmap]
  have hlexemes : lexemes source = phrase :=
    map_lexeme_tokensFrom hspells (d.proper hnames) d.apart 0
  have hderives : Derives (config.vocabulary names) anyArguments (.phrase 0)
      (lexemes (config.fold source)) elements := by
    rwa [hid, hlexemes, hvocabulary]
  have hparse := parse_of_derives_lexemes (fun bound => by rw [hid]; exact hwithin bound)
    hderives
  rwa [hmap] at hparse

/-- A product inside of a sum, a negated call, a parenthesis that is not needed and the second
spelling of the conjunction, with blanks in some places only. -/
theorem parse_of_derives_mixed :
    parse "1+2 * x  |-log( (x) ,2)".toList [['x']] ⟨false, none⟩ =
      .ok { Expression.ofNames [['x']] with
        elements := [.operand (.literal ['1'] (Float.ofScientific 1 true 0)),
          .operand (.literal ['2'] (Float.ofScientific 2 true 0)), .operand (.variable ['x']),
          .operation (.binary .mul), .operation (.binary .add), .operand (.variable ['x']),
          .operand (.literal ['2'] (Float.ofScientific 2 true 0)), .operation (.binary .log),
          .operation (.unary .negate), .operation (.binary .and)] } := by
  let vocabulary : Vocabulary := ⟨[['x']], Limits.default⟩
  have hx : Derives vocabulary anyArguments (.phrase topLevel) [.term ['x']]
      [.operand (.variable ['x'])] :=
    .operand (.declared (by decide) rfl (Symbol.constant?_eq_none_iff.1 rfl))
  have hone : Derives vocabulary anyArguments (.phrase topLevel) [.term ['1']]
      [.operand (.literal ['1'] (Float.ofScientific 1 true 0))] :=
    .operand (.number rfl (by decide +kernel))
  have htwo : Derives vocabulary anyArguments (.phrase topLevel) [.term ['2']]
      [.operand (.literal ['2'] (Float.ofScientific 2 true 0))] :=
    .operand (.number rfl (by decide +kernel))
  have hproduct : Derives vocabulary anyArguments (.phrase 3)
      ([.term ['2']] ++ .symbol '*' :: [.term ['x']]) _ :=
    .binary .star (htwo.lower (by decide) (Nat.le_refl _)) (hx.lower (by decide) (Nat.le_refl _))
  have hsum : Derives vocabulary anyArguments (.phrase 2)
      ([.term ['1']] ++ .symbol '+' :: ([.term ['2']] ++ .symbol '*' :: [.term ['x']])) _ :=
    .binary .plus (hone.lower (by decide) (Nat.le_refl _)) hproduct
  have hgroup : Derives vocabulary anyArguments (.phrase topLevel)
      (.symbol '(' :: [.term ['x']] ++ [.symbol ')']) _ :=
    .group (hx.lower (Nat.zero_le _) (Nat.le_refl _))
  have harguments : Derives vocabulary anyArguments (.arguments 2)
      ((.symbol '(' :: [.term ['x']] ++ [.symbol ')']) ++ .symbol ',' :: [.term ['2']]) _ :=
    .moreArguments (hgroup.lower (Nat.zero_le _) (Nat.le_refl _))
      (.lastArgument (htwo.lower (Nat.zero_le _) (Nat.le_refl _)))
  have hcall : Derives vocabulary anyArguments (.phrase topLevel)
      (.symbol '-' :: .term "log".toList :: .symbol '(' ::
        ((.symbol '(' :: [.term ['x']] ++ [.symbol ')']) ++ .symbol ',' :: [.term ['2']]) ++
        [.symbol ')']) _ := .unary .minus (.call (.function .log (by decide)) trivial harguments)
  have hphrase : Derives vocabulary anyArguments (.phrase 0)
      (lexemes "1+2 * x  |-log( (x) ,2)".toList) _ :=
    .binary .bar (hsum.lower (Nat.zero_le _) (by decide)) (hcall.lower (by decide) (Nat.le_refl _))
  have hnames : ∀ name ∈ [['x']], Lexeme.term name ∈ lexemes "1+2 * x  |-log( (x) ,2)".toList →
      name ≠ [] ∧ ∀ c ∈ name, isTermChar c = true := by
    intro name hname _
    rw [List.mem_singleton.1 hname]
    exact ⟨by simp, List.all_eq_true.1 rfl⟩
  exact parse_of_derives rfl (by intro bound; cases bound <;> decide +kernel) hnames
    (spells_lexemes _) hphrase

end Formula
