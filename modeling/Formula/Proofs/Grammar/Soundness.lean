import Formula.Proofs.Grammar.Account
import Formula.Proofs.Grammar.Completeness

/-!
# What has a value is written, or nearly so

A source whose account is without faults is a phrase, and its functions are called with
the right numbers of arguments.  To see this, the lexemes taken so far are divided at the
open groups and at the commas in them: what stands in front of a division is a beginning
that a closing parenthesis can complete, and behind the last division stands a phrase, or
one that lacks its last operand.

A source that has a value has as many missing operands as superfluous ones.  If it has
none, it is a phrase; otherwise it is none, and its faults cancel out.

## Main results

* `Opened.close`: a closing parenthesis completes what its group belongs to.
* `written_iff_faultless`: a source that is parsed is a phrase exactly if its account is
  without faults.
* `derives_iff_of_evaluates`: which of the sources that have a value are phrases.
-/

namespace Formula

open Outcome

/-- The lexemes are those of a phrase or of arguments, and every function is called with
as many arguments as it has. -/
def Written (vocabulary : Vocabulary) (part : Part) (lexemes : List Lexeme) : Prop :=
  ∃ elements, Derives vocabulary exactArguments part lexemes elements

/-- The lexemes become a phrase with any operand behind them. -/
def Owing (vocabulary : Vocabulary) (lexemes : List Lexeme) : Prop :=
  ∀ operand, Written vocabulary (.phrase topLevel) operand →
    Written vocabulary (.phrase 0) (lexemes ++ operand)

/-- `Opened vocabulary groups lexemes` says that the lexemes end where a phrase begins
inside of the groups: behind an open parenthesis, or behind a comma. -/
inductive Opened (vocabulary : Vocabulary) : List Group → List Lexeme → Prop where
  | start : Opened vocabulary [] []
  | group {groups : List Group} {before owing : List Lexeme} :
    Opened vocabulary groups before → Owing vocabulary owing →
    Opened vocabulary (⟨1, 0⟩ :: groups) (before ++ owing ++ [.symbol '('])
  | call {groups : List Group} {before owing : List Lexeme} {name : Text} {op : Operation} :
    Opened vocabulary groups before → Owing vocabulary owing →
    vocabulary.Means name (.function op) →
    Opened vocabulary (⟨op.arity, 0⟩ :: groups)
      (before ++ owing ++ [.term name, .symbol '('])
  | argument {groups : List Group} {arity commas : Nat} {before argument : List Lexeme} :
    Opened vocabulary (⟨arity, commas⟩ :: groups) before →
    Written vocabulary (.phrase 0) argument →
    Opened vocabulary (⟨arity, commas + 1⟩ :: groups) (before ++ argument ++ [.symbol ','])

section

variable {vocabulary : Vocabulary} {admits : Operation → Nat → Prop}

/-! ## Phrases that grow at their end -/

/-- A phrase goes on behind a binary operator, however tight this binds. -/
theorem Derives.append_binary {c : Char} {own : Nat} {op : BinaryOperation}
    (hop : Joins c own op) {part : Part} {left : List Lexeme}
    {leftElements : List Element} (dLeft : Derives vocabulary admits part left leftElements)
    {level : Nat} (hpart : part = .phrase level) (hle : level ≤ own)
    {right : List Lexeme} {rightElements : List Element}
    (dRight : Derives vocabulary admits (.phrase topLevel) right rightElements) :
    ∃ elements, Derives vocabulary admits (.phrase level) (left ++ .symbol c :: right)
      elements := by
  have hlt := hop.level_lt
  induction dLeft generalizing level with
  | @binary c' level' op' _ _ _ _ hop' dFirst dSecond ihFirst ihSecond =>
      cases hpart
      -- an operator of the same level joins the whole, and one that binds tighter goes
      -- to the right side
      by_cases heq : level' = own
      · subst heq
        have dWhole := Derives.binary hop' dFirst dSecond
        exact ⟨_, .binary hop dWhole (dRight.lower (by omega) (Nat.le_refl _))⟩
      · obtain ⟨elements, dJoined⟩ := ihSecond rfl (by omega)
        rw [List.append_assoc, List.cons_append]
        exact ⟨_, .binary hop' dFirst dJoined⟩
  | @lift lower _ _ hlevel d ih =>
      have hlower : lower = level := Part.phrase.inj hpart
      subst hlower
      by_cases heq : lower = own
      · subst heq
        exact ⟨_, .binary hop (.lift hlevel d) (dRight.lower (by omega) (Nat.le_refl _))⟩
      · obtain ⟨elements, dJoined⟩ := ih rfl (by omega)
        exact ⟨_, .lift hlevel dJoined⟩
  | lastArgument _ _ => cases hpart
  | moreArguments _ _ _ _ => cases hpart
  | _ =>
      cases hpart
      omega

theorem Written.phrase_zero {lexemes : List Lexeme}
    (h : Written vocabulary (.phrase topLevel) lexemes) :
    Written vocabulary (.phrase 0) lexemes := by
  obtain ⟨elements, d⟩ := h
  exact ⟨elements, d.lower (Nat.zero_le _) (Nat.le_refl _)⟩

theorem owing_nil : Owing vocabulary [] := by
  intro operand hoperand
  exact hoperand.phrase_zero

theorem Owing.unary {lexemes : List Lexeme} (h : Owing vocabulary lexemes) {c : Char}
    {op : UnaryOperation} (hop : Applies c op) :
    Owing vocabulary (lexemes ++ [.symbol c]) := by
  intro operand hoperand
  obtain ⟨elements, d⟩ := hoperand
  have hwhole := h (.symbol c :: operand) ⟨_, .unary hop d⟩
  rwa [List.append_assoc, List.singleton_append]

theorem Written.owing {lexemes : List Lexeme} (h : Written vocabulary (.phrase 0) lexemes)
    {c : Char} {level : Nat} {op : BinaryOperation} (hop : Joins c level op) :
    Owing vocabulary (lexemes ++ [.symbol c]) := by
  intro operand hoperand
  obtain ⟨elements, d⟩ := h
  obtain ⟨elements', d'⟩ := hoperand
  rw [List.append_assoc, List.singleton_append]
  exact d.append_binary hop rfl (Nat.zero_le _) d'

/-! ## Groups that close -/

/-- Behind the last argument that is due, a closing parenthesis completes what the
innermost group belongs to.  The induction is on the arguments that the group has already:
each of them joins those behind it. -/
theorem Opened.close {groups : List Group} {before : List Lexeme}
    (h : Opened vocabulary groups before) {arity commas count : Nat} {outer : List Group}
    (hgroups : groups = ⟨arity, commas⟩ :: outer) (harity : commas + count = arity)
    {arguments : List Lexeme} (harguments : Written vocabulary (.arguments count) arguments) :
    ∃ front phrase, before ++ arguments ++ [.symbol ')'] = front ++ phrase ∧
      Opened vocabulary outer front ∧ Written vocabulary (.phrase 0) phrase := by
  induction h generalizing arity commas count arguments with
  | start => cases hgroups
  | @group groups before owing hbefore howing _ =>
      cases hgroups
      obtain ⟨elements, d⟩ := harguments
      have hone : count = 1 := by omega
      subst hone
      have hgroup : Written vocabulary (.phrase topLevel)
          (.symbol '(' :: arguments ++ [.symbol ')']) := by
        cases d with
        | lastArgument d => exact ⟨_, .group d⟩
        | moreArguments _ dLater => exact absurd dLater.one_le_count (by omega)
      exact ⟨before, _, by simp, hbefore, howing _ hgroup⟩
  | @call groups before owing name op hbefore howing hmeaning _ =>
      cases hgroups
      obtain ⟨elements, d⟩ := harguments
      have hexact : exactArguments op count := by
        rw [exactArguments]
        omega
      have hcall : Written vocabulary (.phrase topLevel)
          (.term name :: .symbol '(' :: arguments ++ [.symbol ')']) :=
        ⟨_, .call hmeaning hexact d⟩
      exact ⟨before, _, by simp, hbefore, howing _ hcall⟩
  | @argument groups arity' commas' before argument hbefore hargument ih =>
      cases hgroups
      obtain ⟨elements, d⟩ := harguments
      obtain ⟨elements', d'⟩ := hargument
      have hall : Written vocabulary (.arguments (count + 1))
          (argument ++ .symbol ',' :: arguments) := ⟨_, .moreArguments d' d⟩
      obtain ⟨front, phrase, hsplit, hfront, hphrase⟩ := ih rfl (by omega) hall
      refine ⟨front, phrase, ?_, hfront, hphrase⟩
      rw [← hsplit]
      simp

/-! ## The lexemes of a faultless account -/

/-- How the lexemes that have been taken are divided, if the account of them is without
faults. -/
def Divided (vocabulary : Vocabulary) (read : List Lexeme) (account : Account) : Prop :=
  match account.expectation with
  | .operand => ∃ before owing, read = before ++ owing ∧
      Opened vocabulary account.groups before ∧ Owing vocabulary owing
  | .operator => ∃ before phrase, read = before ++ phrase ∧
      Opened vocabulary account.groups before ∧ Written vocabulary (.phrase 0) phrase
  | .openParen name => ∃ before owing op outer, read = before ++ owing ++ [.term name] ∧
      account.groups = ⟨op.arity, 0⟩ :: outer ∧ Opened vocabulary outer before ∧
      Owing vocabulary owing ∧ vocabulary.Means name (.function op)

section

variable {read : List Lexeme} {account : Account}

/-- Where something begins without a fault, an operand is owed. -/
theorem Divided.begins (h : Divided vocabulary read account)
    (hopen : account.expectation.isOpenParen = false)
    (hfaultless : account.begins.Faultless) :
    ∃ before owing, read = before ++ owing ∧ Opened vocabulary account.groups before ∧
      Owing vocabulary owing := by
  have hgiven := (Account.faultless_of_begins hfaultless).2
  rw [Divided, Expectation.eq_operand hopen hgiven] at h
  exact h

/-- Where something ends without a fault, a phrase stands. -/
theorem Divided.ends (h : Divided vocabulary read account)
    (hopen : account.expectation.isOpenParen = false) (hfaultless : account.ends.Faultless) :
    ∃ before phrase, read = before ++ phrase ∧ Opened vocabulary account.groups before ∧
      Written vocabulary (.phrase 0) phrase := by
  have howed := (Account.faultless_of_ends hfaultless).2
  rw [Divided, Expectation.eq_operator hopen howed] at h
  exact h

theorem divided_left (hfaultless : (account.enter .left).Faultless)
    (h : Divided vocabulary read account) :
    Divided vocabulary (read ++ [.symbol '(']) (account.enter .left) := by
  rcases Expectation.openParen_cases account.expectation with hopen | ⟨name, hname⟩
  · have hclosed : ¬ account.expectation.isOpenParen = true := by simp [hopen]
    rw [Account.enter, if_neg hclosed] at hfaultless ⊢
    have hbegins : account.begins.Faultless := hfaultless
    obtain ⟨before, owing, rfl, hbefore, howing⟩ := h.begins hopen hbegins
    exact ⟨before ++ owing ++ [.symbol '('], [], (List.append_nil _).symm,
      .group hbefore howing, owing_nil⟩
  · have hopen : account.expectation.isOpenParen = true := by rw [hname]; rfl
    rw [Divided, hname] at h
    obtain ⟨before, owing, op, outer, rfl, hgroups, hbefore, howing, hmeaning⟩ := h
    rw [Account.enter, if_pos hopen]
    have hopened := Opened.call hbefore howing hmeaning
    rw [← hgroups] at hopened
    exact ⟨before ++ owing ++ [.term name, .symbol '('], [], by simp, hopened, owing_nil⟩

theorem divided_right {group : Group} {outer : List Group}
    (hgroups : account.groups = group :: outer)
    (hopen : account.expectation.isOpenParen = false)
    (hfaultless : (account.enter .right).Faultless) (h : Divided vocabulary read account) :
    Divided vocabulary (read ++ [.symbol ')']) (account.enter .right) := by
  rw [Account.enter, hgroups] at hfaultless ⊢
  have hsettles : (account.ends.settles group).Faultless := hfaultless
  obtain ⟨hends, harity⟩ := Account.faultless_of_settles hsettles
  obtain ⟨before, phrase, rfl, hbefore, elements, d⟩ := h.ends hopen hends
  have hargument : Written vocabulary (.arguments 1) phrase := ⟨elements, .lastArgument d⟩
  exact hbefore.close hgroups harity hargument

theorem divided_comma {group : Group} {outer : List Group}
    (hgroups : account.groups = group :: outer)
    (hopen : account.expectation.isOpenParen = false)
    (hfaultless : (account.enter .comma).Faultless) (h : Divided vocabulary read account) :
    Divided vocabulary (read ++ [.symbol ',']) (account.enter .comma) := by
  rw [Account.enter, hgroups] at hfaultless ⊢
  have hends : account.ends.Faultless := hfaultless
  obtain ⟨before, phrase, rfl, hbefore, hphrase⟩ := h.ends hopen hends
  rw [hgroups] at hbefore
  exact ⟨before ++ phrase ++ [.symbol ','], [], (List.append_nil _).symm,
    .argument hbefore hphrase, owing_nil⟩

/-- Every move that adds no fault leaves the lexemes divided. -/
theorem divided_enter {lexeme : Lexeme} {m : Move}
    (hread : Reads vocabulary account.expectation lexeme m)
    (hgroups : m = .right ∨ m = .comma → account.groups ≠ [])
    (hfaultless : (account.enter m).Faultless) (h : Divided vocabulary read account) :
    Divided vocabulary (read ++ [lexeme]) (account.enter m) := by
  generalize hexpectation : account.expectation = expectation at hread
  cases hread with
  | @operand _ term o hopen hmeaning =>
      rw [← hexpectation] at hopen
      have hbegins : account.begins.Faultless := hfaultless
      obtain ⟨before, owing, rfl, hbefore, howing⟩ := h.begins hopen hbegins
      have hoperand : Written vocabulary (.phrase topLevel) [.term term] :=
        ⟨_, .operand (Vocabulary.meaning?_eq_some_iff.1 hmeaning)⟩
      exact ⟨before, owing ++ [.term term], List.append_assoc _ _ _, hbefore,
        howing _ hoperand⟩
  | @function _ name op hopen hmeaning =>
      rw [← hexpectation] at hopen
      have hbegins : account.begins.Faultless := hfaultless
      obtain ⟨before, owing, rfl, hbefore, howing⟩ := h.begins hopen hbegins
      exact ⟨before, owing, op, account.groups, rfl, rfl, hbefore, howing,
        Vocabulary.meaning?_eq_some_iff.1 hmeaning⟩
  | @unary c op hop =>
      rw [Divided, hexpectation] at h
      obtain ⟨before, owing, rfl, hbefore, howing⟩ := h
      rw [Account.enter, Divided, hexpectation]
      exact ⟨before, owing ++ [.symbol c], List.append_assoc _ _ _, hbefore,
        howing.unary (Symbol.unary?_eq_some_iff.1 hop)⟩
  | @binary c op hop =>
      rw [Divided, hexpectation] at h
      obtain ⟨before, phrase, rfl, hbefore, hphrase⟩ := h
      exact ⟨before, phrase ++ [.symbol c], List.append_assoc _ _ _, hbefore,
        hphrase.owing (Symbol.binary?_eq_some_iff.1 hop)⟩
  | left => exact divided_left hfaultless h
  | right hopen =>
      rw [← hexpectation] at hopen
      cases hsplit : account.groups with
      | nil => exact absurd hsplit (hgroups (.inl rfl))
      | cons group outer => exact divided_right hsplit hopen hfaultless h
  | comma hopen =>
      rw [← hexpectation] at hopen
      cases hsplit : account.groups with
      | nil => exact absurd hsplit (hgroups (.inr rfl))
      | cons group outer => exact divided_comma hsplit hopen hfaultless h

end

theorem Opened.eq_nil {before : List Lexeme} (h : Opened vocabulary [] before) :
    before = [] := by
  cases h
  rfl

/-- A source whose account is without faults is a phrase. -/
theorem written_of_faultless {source : List Token} {length : Nat} {elements : List Element}
    (hcomplete : Scan.complete vocabulary source length = .ok elements)
    (hfaultless : (Account.ofLexemes vocabulary (source.map Token.lexeme)).Faultless) :
    Written vocabulary (.phrase 0) (source.map Token.lexeme) := by
  obtain ⟨scan, hscan, hconclude⟩ := Scan.exists_of_complete hcomplete
  have hstart : Divided vocabulary [] {} := ⟨[], [], rfl, .start, owing_nil⟩
  obtain ⟨hfollows, hdivided⟩ := Account.Follows.induction
    (fun read account => account.Faultless → Divided vocabulary read account)
    (fun hread hgroups ih hnext =>
      divided_enter hread hgroups hnext (ih (Account.faultless_of_enter hnext)))
    [] Account.follows_empty (fun _ => hstart) hscan
  obtain ⟨hopen, hgroups, _⟩ := hfollows.conclude hconclude
  obtain ⟨hmissing, hsuperfluous⟩ := hfaultless
  simp only [Account.ofLexemes, Account.ends] at hmissing hsuperfluous
  have hexpectation := Expectation.eq_operator hopen (by omega)
  have hread := hdivided ⟨by omega, hsuperfluous⟩
  rw [Divided, hexpectation, hgroups] at hread
  obtain ⟨before, phrase, hsplit, hbefore, hphrase⟩ := hread
  rw [hbefore.eq_nil, List.nil_append, List.nil_append] at hsplit
  rwa [hsplit]

end

/-! ## What has a value -/

/-- A parsed source is a phrase exactly if its account is without faults. -/
theorem written_iff_faultless {source : List Token} {vocabulary : Vocabulary} {length : Nat}
    {elements : List Element}
    (hcomplete : Scan.complete vocabulary source length = .ok elements) :
    Written vocabulary (.phrase 0) (source.map Token.lexeme) ↔
      (Account.ofLexemes vocabulary (source.map Token.lexeme)).Faultless := by
  constructor
  · intro hwritten
    obtain ⟨elements', d⟩ := hwritten
    exact Account.faultless_of_derives d
  · exact written_of_faultless hcomplete

/-- What has a value has as many missing operands as superfluous ones. -/
theorem missing_eq_superfluous {source : List Token} {vocabulary : Vocabulary} {length : Nat}
    {elements : List Element} {values : Values} {x : Value}
    (hcomplete : Scan.complete vocabulary source length = .ok elements)
    (hvalue : evaluateElements values elements = .ok x) :
    (Account.ofLexemes vocabulary (source.map Token.lexeme)).missing =
      (Account.ofLexemes vocabulary (source.map Token.lexeme)).superfluous := by
  obtain ⟨tree, htree⟩ := exists_postorder_of_evaluates hvalue
  have hone : balance elements = 1 := by
    rw [← htree]
    exact balance_postorder tree
  have hbalance := Account.balance_of_complete hcomplete
  omega

/-- **Which of the sources that have a value are phrases.**  A source that has a value has
as many missing operands as superfluous ones, and it is a phrase exactly if it has none.
Then its elements are those of the phrase. -/
theorem derives_iff_of_evaluates {source : Text} {names : List Text} {config : Config}
    {bindings : List (Text × Value)} {expression : Expression} {x : Value}
    (hparse : parse source names config = .ok expression)
    (hvalue : expression.evaluate bindings = .ok x) :
    let vocabulary := config.vocabulary names
    let source := lexemes (config.fold source)
    let account := Account.ofLexemes vocabulary source
    account.missing = account.superfluous ∧
      ((∃ elements, Derives vocabulary exactArguments (.phrase 0) source elements) ↔
        account.missing = 0) ∧
      ∀ elements, Derives vocabulary exactArguments (.phrase 0) source elements →
        elements = expression.elements := by
  intro vocabulary lexemes account
  have hcomplete := complete_of_parse hparse
  have hbalanced : account.missing = account.superfluous := by
    obtain ⟨values, _, hvalue'⟩ := exists_of_bind hvalue
    exact missing_eq_superfluous hcomplete hvalue'
  refine ⟨hbalanced, ?_, ?_⟩
  · have hiff : Written vocabulary (.phrase 0) lexemes ↔ account.Faultless :=
      written_iff_faultless hcomplete
    constructor
    · intro hwritten
      exact (hiff.1 hwritten).1
    · intro hnone
      exact hiff.2 ⟨hnone, hbalanced ▸ hnone⟩
  · intro elements d
    have hphrase := complete_of_derives d (config.fold source).length
    rw [hphrase] at hcomplete
    exact Except.ok.inj hcomplete

/-- Two missing operands are made up for by two superfluous ones. -/
theorem derives_iff_of_evaluates_groups :
    ∃ expression, parse "(2,3) + (,)".toList [] {} = .ok expression ∧
      expression.evaluate [] = .ok 5.0 ∧
      ¬ ∃ elements, Derives (Config.vocabulary {} []) exactArguments (.phrase 0)
        (lexemes (Config.fold {} "(2,3) + (,)".toList)) elements := by
  have hparse : parse "(2,3) + (,)".toList [] {} = .ok
      { Expression.ofNames [] with
        elements := [.operand (.literal ['2'] (Float.ofScientific 2 true 0)),
          .operand (.literal ['3'] (Float.ofScientific 3 true 0)),
          .operation (.binary .add)] } := by rfl
  have hvalue : Expression.evaluate
      { Expression.ofNames [] with
        elements := [.operand (.literal ['2'] (Float.ofScientific 2 true 0)),
          .operand (.literal ['3'] (Float.ofScientific 3 true 0)),
          .operation (.binary .add)] } [] = .ok 5.0 := by decide +kernel
  refine ⟨_, hparse, hvalue, ?_⟩
  intro hderives
  have hmissing : (Account.ofLexemes (Config.vocabulary {} [])
      (lexemes (Config.fold {} "(2,3) + (,)".toList))).missing = 0 :=
    (derives_iff_of_evaluates hparse hvalue).2.1.1 hderives
  revert hmissing
  decide +kernel

/-- A sum written behind its summands has a value, and is no phrase. -/
theorem evaluates_sum_behind_summands :
    ∃ expression, parse "2 3 +".toList [] {} = .ok expression ∧
      expression.evaluate [] = .ok 5.0 ∧
      ¬ ∃ elements, Derives (Config.vocabulary {} []) exactArguments (.phrase 0)
        (lexemes (Config.fold {} "2 3 +".toList)) elements := by
  refine ⟨{ Expression.ofNames [] with
    elements := [.operand (.literal ['2'] (Float.ofScientific 2 true 0)),
      .operand (.literal ['3'] (Float.ofScientific 3 true 0)),
      .operation (.binary .add)] }, by rfl, by decide +kernel, ?_⟩
  rintro ⟨elements, d⟩
  have hmissing := (Account.faultless_of_derives d).1
  revert hmissing
  decide +kernel

end Formula
