import Formula.Proofs.Expression.Forest
import Formula.Proofs.Grammar.Lexemes
import Formula.Proofs.Parse
import Mathlib.Algebra.BigOperators.Group.List.Basic

/-!
# An account of what is wrong

A scan does not remember that an operand is still owed, nor how many arguments a function
was called with.  The account of a source does.  It goes over the lexemes as the scan
does, and counts two kinds of fault: an operand is *missing* where a closing parenthesis,
a comma or the end comes too early, and *superfluous* where two of them stand side by
side.  An argument that a function lacks is a missing operand, and one that it has too
many is a superfluous one.

Evaluation does not see the faults.  It sees their difference, for a missing operand is a
value too few in the end, and a superfluous one is a value too many.

## Main results

* `Account.worth_enter`: what every move does to the number of values in the end.
* `Account.Follows.induction`: what is shown of a whole scan by its moves.
* `Account.balance_of_complete`: a source leaves one value in the end, and the superfluous
  operands more, and the missing ones less.
* `Account.faultless_of_derives`: the account of a phrase is without faults.
-/

namespace Formula

open Outcome

/-- What is open: an operation with its arguments, or one phrase alone. -/
structure Group where
  /-- The number of arguments that are due. -/
  arity : Nat
  /-- The number of commas so far. -/
  commas : Nat

/-- The account of some lexemes.  The innermost group comes first. -/
structure Account where
  expectation : Expectation := .operand
  groups : List Group := []
  missing : Nat := 0
  superfluous : Nat := 0

/-- The number of values that stand where something is expected. -/
def Expectation.given : Expectation → Nat
  | operator => 1
  | _ => 0

/-- The number of values that are owed where something is expected. -/
def Expectation.owed : Expectation → Nat
  | operand => 1
  | _ => 0

@[simp] theorem Expectation.given_operand : operand.given = 0 := rfl

@[simp] theorem Expectation.given_operator : operator.given = 1 := rfl

@[simp] theorem Expectation.given_openParen (function : Text) :
    (openParen function).given = 0 := rfl

/-- The number of groups that are open before their parenthesis is. -/
def Expectation.pending : Expectation → Nat
  | openParen _ => 1
  | _ => 0

theorem Expectation.given_add_owed {expectation : Expectation}
    (hopen : expectation.isOpenParen = false) : expectation.given + expectation.owed = 1 := by
  cases expectation with
  | openParen function => cases hopen
  | operand => rfl
  | operator => rfl

theorem Expectation.eq_operand {expectation : Expectation}
    (hopen : expectation.isOpenParen = false) (hgiven : expectation.given = 0) :
    expectation = .operand := by
  cases expectation with
  | openParen function => cases hopen
  | operand => rfl
  | operator => cases hgiven

theorem Expectation.eq_operator {expectation : Expectation}
    (hopen : expectation.isOpenParen = false) (howed : expectation.owed = 0) :
    expectation = .operator := by
  cases expectation with
  | openParen function => cases hopen
  | operand => cases howed
  | operator => rfl

theorem Expectation.pending_eq_zero {expectation : Expectation}
    (hopen : expectation.isOpenParen = false) : expectation.pending = 0 := by
  cases expectation with
  | openParen function => cases hopen
  | operand => rfl
  | operator => rfl

theorem Expectation.given_eq_zero {expectation : Expectation}
    (hopen : expectation.isOpenParen = true) :
    expectation.given = 0 ∧ expectation.pending = 1 := by
  cases expectation with
  | openParen function => exact ⟨rfl, rfl⟩
  | operand => cases hopen
  | operator => cases hopen

namespace Account

/-- Something that gives a value begins.  It is superfluous where a value stands already. -/
def begins (account : Account) : Account :=
  { account with superfluous := account.superfluous + account.expectation.given }

/-- Something that gives a value has to be over.  If it has not begun, it is missing. -/
def ends (account : Account) : Account :=
  { account with missing := account.missing + account.expectation.owed }

/-- A group is over, after one argument more than it has commas. -/
def settles (account : Account) (group : Group) : Account :=
  { account with
    missing := account.missing + (group.arity - (group.commas + 1))
    superfluous := account.superfluous + (group.commas + 1 - group.arity) }

/-- Enters a move. -/
def enter (account : Account) : Move → Account
  | .operand _ => { account.begins with expectation := .operator }
  | .function name op =>
      { account.begins with
        expectation := .openParen name
        groups := ⟨op.arity, 0⟩ :: account.groups }
  | .unary _ => account
  | .binary _ => { account with expectation := .operand }
  | .left =>
      -- behind the name of a function the group is open already
      if account.expectation.isOpenParen then { account with expectation := .operand }
      else
        { account.begins with
          expectation := .operand
          groups := ⟨1, 0⟩ :: account.groups }
  | .right =>
    match account.groups with
    | [] => account
    | group :: outer =>
      { account.ends.settles group with expectation := .operator, groups := outer }
  | .comma =>
    match account.groups with
    | [] => account
    | group :: outer =>
      { account.ends with
        expectation := .operand
        groups := ⟨group.arity, group.commas + 1⟩ :: outer }

/-- Takes a lexeme in.  A lexeme that no scan accepts there changes nothing. -/
def take (vocabulary : Vocabulary) (account : Account) (lexeme : Lexeme) : Account :=
  match account.expectation.read vocabulary lexeme with
  | .ok m => account.enter m
  | .error _ => account

/-- The account of all the lexemes of a source. -/
def ofLexemes (vocabulary : Vocabulary) (lexemes : List Lexeme) : Account :=
  (lexemes.foldl (take vocabulary) {}).ends

/-- Nothing is missing, and nothing superfluous. -/
def Faultless (account : Account) : Prop := account.missing = 0 ∧ account.superfluous = 0

/-- What groups are worth: the arguments that have begun, less the due ones. -/
def groupsWorth (groups : List Group) : Int :=
  (groups.map fun group => (group.commas : Int) + 1 - group.arity).sum

/-- The number of values that lexemes add up to, when those that the open groups will use
up are taken off and the faults are counted in. -/
def worth (account : Account) : Int :=
  account.expectation.given + groupsWorth account.groups + account.superfluous
    - account.missing

variable {account : Account} {vocabulary : Vocabulary} {lexeme : Lexeme} {m : Move}

/-! ## The worth of an account -/

@[simp] theorem groupsWorth_cons (group : Group) (groups : List Group) :
    groupsWorth (group :: groups) =
      (group.commas : Int) + 1 - group.arity + groupsWorth groups := by
  rw [groupsWorth, List.map_cons, List.sum_cons, groupsWorth]

/-- Every move changes the worth by the values that its element adds. -/
theorem worth_enter (hread : Reads vocabulary account.expectation lexeme m)
    (hgroups : m = .right ∨ m = .comma → account.groups ≠ []) :
    (account.enter m).worth = account.worth + balance m.elements := by
  obtain ⟨expectation, groups, missing, superfluous⟩ := account
  dsimp only at hread hgroups
  cases hread with
  | operand hopen _ =>
      simp only [enter, begins, worth, Move.elements, balance_operand,
        Expectation.given_operator]
      omega
  | function hopen _ =>
      simp only [enter, begins, worth, Move.elements, balance_operation, groupsWorth_cons,
        Expectation.given_openParen]
      omega
  | @unary c op _ =>
      have hnone : balance [.operation (.unary op)] = 0 := balance_operation (.unary op)
      simp only [enter, worth, Move.elements, hnone]
      omega
  | @binary c op _ =>
      have hone : balance [.operation (.binary op.operation)] = -1 :=
        balance_operation (.binary op.operation)
      simp only [enter, worth, Move.elements, hone, Expectation.given_operand,
        Expectation.given_operator]
      omega
  | left =>
      by_cases hopen : expectation.isOpenParen = true
      · have hgiven := (Expectation.given_eq_zero hopen).1
        simp only [enter, hopen, ↓reduceIte, worth, Move.elements, balance_nil, hgiven,
          Expectation.given_operand]
        omega
      · simp only [enter, hopen, Bool.false_eq_true, ↓reduceIte, begins, worth,
          groupsWorth_cons, Move.elements, balance_nil, Expectation.given_operand]
        omega
  | right hopen =>
      have hsum := Expectation.given_add_owed hopen
      cases groups with
      | nil => exact absurd rfl (hgroups (.inl rfl))
      | cons group outer =>
          simp only [enter, ends, settles, worth, groupsWorth_cons, Move.elements, balance_nil,
            Expectation.given_operator]
          omega
  | comma hopen =>
      have hsum := Expectation.given_add_owed hopen
      cases groups with
      | nil => exact absurd rfl (hgroups (.inr rfl))
      | cons group outer =>
          simp only [enter, ends, worth, groupsWorth_cons, Move.elements, balance_nil,
            Expectation.given_operand]
          omega

/-! ## Faults stay -/

theorem faultless_of_begins (h : account.begins.Faultless) :
    account.Faultless ∧ account.expectation.given = 0 := by
  have hmissing : account.missing = 0 := h.1
  have hsuperfluous : account.superfluous + account.expectation.given = 0 := h.2
  exact ⟨⟨hmissing, by omega⟩, by omega⟩

theorem faultless_of_ends (h : account.ends.Faultless) :
    account.Faultless ∧ account.expectation.owed = 0 := by
  have hmissing : account.missing + account.expectation.owed = 0 := h.1
  have hsuperfluous : account.superfluous = 0 := h.2
  exact ⟨⟨by omega, hsuperfluous⟩, by omega⟩

theorem faultless_of_settles {group : Group} (h : (account.settles group).Faultless) :
    account.Faultless ∧ group.commas + 1 = group.arity := by
  have hmissing : account.missing + (group.arity - (group.commas + 1)) = 0 := h.1
  have hsuperfluous : account.superfluous + (group.commas + 1 - group.arity) = 0 := h.2
  exact ⟨⟨by omega, by omega⟩, by omega⟩

/-- A fault once entered stays. -/
theorem faultless_of_enter (h : (account.enter m).Faultless) : account.Faultless := by
  cases m with
  | operand o =>
      have hbegins : account.begins.Faultless := h
      exact (faultless_of_begins hbegins).1
  | function name op =>
      have hbegins : account.begins.Faultless := h
      exact (faultless_of_begins hbegins).1
  | unary op => exact h
  | binary op => exact h
  | left =>
      by_cases hopen : account.expectation.isOpenParen = true
      · rw [enter, if_pos hopen] at h
        exact h
      · rw [enter, if_neg hopen] at h
        have hbegins : account.begins.Faultless := h
        exact (faultless_of_begins hbegins).1
  | right =>
      cases hgroups : account.groups with
      | nil =>
          rw [enter, hgroups] at h
          exact h
      | cons group outer =>
          rw [enter, hgroups] at h
          have hsettles : (account.ends.settles group).Faultless := h
          exact (faultless_of_ends (faultless_of_settles hsettles).1).1
  | comma =>
      cases hgroups : account.groups with
      | nil =>
          rw [enter, hgroups] at h
          exact h
      | cons group outer =>
          rw [enter, hgroups] at h
          have hends : account.ends.Faultless := h
          exact (faultless_of_ends hends).1

/-! ## An account follows the scan -/

theorem take_of_reads (hread : Reads vocabulary account.expectation lexeme m) :
    take vocabulary account lexeme = account.enter m := by
  rw [take, Expectation.read_of_reads hread]

/-- What an account expects is what the scan expects. -/
theorem expectation_enter (hgroups : m = .right ∨ m = .comma → account.groups ≠ []) :
    (account.enter m).expectation = m.next account.expectation := by
  obtain ⟨expectation, groups, missing, superfluous⟩ := account
  cases m with
  | left => cases expectation <;> rfl
  | right =>
      cases groups with
      | nil => exact absurd rfl (hgroups (.inl rfl))
      | cons group outer => rfl
  | comma =>
      cases groups with
      | nil => exact absurd rfl (hgroups (.inr rfl))
      | cons group outer => rfl
  | _ => rfl

/-- The account is that of a scan: it has a group for every open parenthesis, and it is
worth the elements that are out or waiting. -/
structure Follows (account : Account) (scan : Scan) : Prop where
  expectation : account.expectation = scan.expectation
  groups : account.groups.length = scan.opens.length + scan.expectation.pending
  matched : scan.Matched
  worth : account.worth = balance scan.content

theorem balance_perm {first second : List Element} (h : first.Perm second) :
    balance first = balance second := by
  rw [balance, balance, h.countP_eq, ((h.filterMap _).map _).sum_eq]

theorem follows_empty : Follows {} {} := ⟨rfl, rfl, rfl, rfl⟩

/-- Where a `)` or a comma is taken, a group is open. -/
theorem Follows.groups_ne_nil {scan scan' : Scan} {position : Nat}
    (h : account.Follows scan) (hadvance : scan.advance position m = .ok scan') :
    m = .right ∨ m = .comma → account.groups ≠ [] := by
  intro hclosing hnil
  have hopens : scan.opens = [] := by
    have hlength := h.groups
    rw [hnil, List.length_nil] at hlength
    exact List.eq_nil_of_length_eq_zero (by omega)
  rcases hclosing with rfl | rfl
  · obtain ⟨inside, outside, hw, _, _⟩ := Scan.waiting_of_advance_right hadvance
    exact Scan.opens_ne_nil h.matched hw hopens
  · obtain ⟨inside, outside, hw, _, _⟩ := Scan.waiting_of_advance_comma hadvance
    exact Scan.opens_ne_nil h.matched hw hopens

/-- A move opens and closes as many groups as parentheses, except that a function opens its
group before its parenthesis. -/
theorem groups_enter (hread : Reads vocabulary account.expectation lexeme m)
    (hgroups : m = .right ∨ m = .comma → account.groups ≠ []) :
    (account.enter m).groups.length + account.expectation.pending =
      m.opensAfter account.groups.length + (m.next account.expectation).pending := by
  obtain ⟨expectation, groups, missing, superfluous⟩ := account
  dsimp only at hread hgroups
  cases hread with
  | operand hopen _ => rw [Expectation.pending_eq_zero hopen]; rfl
  | function hopen _ => rw [Expectation.pending_eq_zero hopen]; rfl
  | unary _ => rfl
  | binary _ => rfl
  | left => cases expectation <;> rfl
  | right hopen =>
      rw [Expectation.pending_eq_zero hopen]
      cases groups with
      | nil => exact absurd rfl (hgroups (.inl rfl))
      | cons group outer => rfl
  | comma hopen =>
      rw [Expectation.pending_eq_zero hopen]
      cases groups with
      | nil => exact absurd rfl (hgroups (.inr rfl))
      | cons group outer => rfl

theorem Follows.groups_advance {scan scan' : Scan} {position : Nat} (h : account.Follows scan)
    (hread : Reads vocabulary scan.expectation lexeme m)
    (hadvance : scan.advance position m = .ok scan') :
    (account.enter m).groups.length = scan'.opens.length + scan'.expectation.pending := by
  have hread' : Reads vocabulary account.expectation lexeme m := h.expectation ▸ hread
  have henter := groups_enter hread' (h.groups_ne_nil hadvance)
  have hopens := Scan.length_opens_advance hadvance
  have hlength := h.groups
  rw [Scan.expectation_advance hadvance, ← h.expectation]
  rw [← h.expectation] at hlength
  have hpending : m = .right → account.expectation.pending = 0 := by
    rintro rfl
    generalize account.expectation = expectation at hread'
    cases hread' with
    | right hopen => exact Expectation.pending_eq_zero hopen
  cases m with
  | right =>
      have hnone := hpending rfl
      simp only [Move.opensAfter] at henter hopens
      omega
  | _ =>
      simp only [Move.opensAfter] at henter hopens
      omega

/-- Every move keeps the account with the scan. -/
theorem Follows.advance {scan scan' : Scan} {position : Nat} (h : account.Follows scan)
    (hread : Reads vocabulary scan.expectation lexeme m)
    (hadvance : scan.advance position m = .ok scan') : (account.enter m).Follows scan' := by
  have hgroups := h.groups_ne_nil hadvance
  have hread' : Reads vocabulary account.expectation lexeme m := h.expectation ▸ hread
  refine ⟨?_, ?_, Scan.matched_advance h.matched hadvance, ?_⟩
  · rw [expectation_enter hgroups, Scan.expectation_advance hadvance, h.expectation]
  · exact h.groups_advance hread hadvance
  · rw [worth_enter hread' hgroups, h.worth, balance_perm (Scan.content_advance hadvance),
      balance_append]

/-- What holds of no lexemes, and is kept by every move that a scan can make, holds of all
that a scan has taken.  The account follows the scan meanwhile. -/
theorem Follows.induction (property : List Lexeme → Account → Prop)
    (hstep : ∀ {read : List Lexeme} {account : Account} {lexeme : Lexeme} {m : Move},
      Reads vocabulary account.expectation lexeme m →
      (m = .right ∨ m = .comma → account.groups ≠ []) →
      property read account → property (read ++ [lexeme]) (account.enter m))
    {source : List Token} (read : List Lexeme) {scan scan' : Scan}
    (hfollows : account.Follows scan) (hproperty : property read account)
    (hscan : source.foldlM (Scan.proceed vocabulary) scan = .ok scan') :
    ((source.map Token.lexeme).foldl (take vocabulary) account).Follows scan' ∧
      property (read ++ source.map Token.lexeme)
        ((source.map Token.lexeme).foldl (take vocabulary) account) := by
  induction source generalizing scan account read with
  | nil =>
      cases hscan
      rw [List.map_nil, List.append_nil]
      exact ⟨hfollows, hproperty⟩
  | cons token source ih =>
      rw [List.foldlM_cons] at hscan
      obtain ⟨next, hnext, hlater⟩ := exists_of_bind hscan
      obtain ⟨m, hread, hadvance⟩ := Scan.reads_of_proceed hnext
      have hread' : Reads vocabulary account.expectation token.lexeme m :=
        hfollows.expectation ▸ hread
      have hproperty' := hstep hread' (hfollows.groups_ne_nil hadvance) hproperty
      have hrest := ih _ (hfollows.advance hread hadvance) hproperty' hlater
      rw [List.append_assoc, List.singleton_append] at hrest
      rw [List.map_cons, List.foldl_cons, take_of_reads hread']
      exact hrest

/-- At the end of a source no group is open, and the elements are those that the account
is worth. -/
theorem Follows.conclude {scan : Scan} {length : Nat} {elements : List Element}
    (h : account.Follows scan) (hconclude : scan.conclude length = .ok elements) :
    account.expectation.isOpenParen = false ∧ account.groups = [] ∧
      balance elements = 1 + (account.ends.superfluous : Int) - account.ends.missing := by
  obtain ⟨hopen, hclosed, rfl⟩ := Scan.content_of_conclude hconclude
  have hgroups : account.groups = [] := by
    have hlength := h.groups
    rw [Scan.opens_eq_nil h.matched hclosed, Expectation.pending_eq_zero hopen] at hlength
    exact List.eq_nil_of_length_eq_zero hlength
  rw [← h.expectation] at hopen
  have hsum := Expectation.given_add_owed hopen
  have hworth := h.worth
  rw [Account.worth, hgroups] at hworth
  refine ⟨hopen, hgroups, ?_⟩
  simp only [ends, ← hworth, groupsWorth, List.map_nil, List.sum_nil]
  omega

/-- A source leaves one value, and the superfluous operands more, and the missing ones
less. -/
theorem balance_of_complete {source : List Token} {length : Nat} {elements : List Element}
    (h : Scan.complete vocabulary source length = .ok elements) :
    balance elements = 1 + ((ofLexemes vocabulary (source.map Token.lexeme)).superfluous : Int)
      - (ofLexemes vocabulary (source.map Token.lexeme)).missing := by
  obtain ⟨scan, hscan, hconclude⟩ := Scan.exists_of_complete h
  have hfollows := (Follows.induction (fun _ _ => True) (fun _ _ _ => trivial) []
    follows_empty trivial hscan).1
  exact (hfollows.conclude hconclude).2.2

/-! ## The account of a phrase -/

/-- How the lexemes of a part are entered: they change what is expected, and arguments are
counted by their commas.  Faults are neither added nor taken away. -/
def Entered (vocabulary : Vocabulary) (lexemes : List Lexeme) : Part → Prop
  | .phrase _ => ∀ groups missing superfluous,
      lexemes.foldl (take vocabulary) ⟨.operand, groups, missing, superfluous⟩ =
        ⟨.operator, groups, missing, superfluous⟩
  | .arguments count => ∀ arity commas outer missing superfluous,
      lexemes.foldl (take vocabulary) ⟨.operand, ⟨arity, commas⟩ :: outer, missing, superfluous⟩ =
        ⟨.operator, ⟨arity, commas + count - 1⟩ :: outer, missing, superfluous⟩

/-- A closing parenthesis behind as many arguments as are due. -/
theorem take_right {arity commas : Nat} (harity : commas + 1 = arity) (outer : List Group)
    (missing superfluous : Nat) :
    take vocabulary ⟨.operator, ⟨arity, commas⟩ :: outer, missing, superfluous⟩ (.symbol ')') =
      ⟨.operator, outer, missing, superfluous⟩ := by
  rw [take_of_reads (.right rfl)]
  subst harity
  simp only [enter, ends, settles, Nat.sub_self, Nat.add_zero]
  rfl

theorem entered_of_derives {part : Part} {lexemes : List Lexeme} {elements : List Element}
    (d : Derives vocabulary exactArguments part lexemes elements) :
    Entered vocabulary lexemes part := by
  induction d with
  | operand hmeaning =>
      intro groups missing superfluous
      exact take_of_reads (.operand rfl (Vocabulary.meaning?_eq_some_iff.2 hmeaning))
  | group _ ih =>
      intro groups missing superfluous
      have hopened : take vocabulary ⟨.operand, groups, missing, superfluous⟩ (.symbol '(') =
          ⟨.operand, ⟨1, 0⟩ :: groups, missing, superfluous⟩ := take_of_reads .left
      rw [List.foldl_concat, List.foldl_cons, hopened, ih, take_right rfl]
  | @call name op count _ _ hmeaning hcount d ih =>
      intro groups missing superfluous
      have hcalled : take vocabulary ⟨.operand, groups, missing, superfluous⟩ (.term name) =
          ⟨.openParen name, ⟨op.arity, 0⟩ :: groups, missing, superfluous⟩ :=
        take_of_reads (.function rfl (Vocabulary.meaning?_eq_some_iff.2 hmeaning))
      have hopened : take vocabulary
          ⟨.openParen name, ⟨op.arity, 0⟩ :: groups, missing, superfluous⟩ (.symbol '(') =
            ⟨.operand, ⟨op.arity, 0⟩ :: groups, missing, superfluous⟩ := take_of_reads .left
      have hdue : 0 + count - 1 + 1 = op.arity := by
        have hpositive := d.one_le_count
        have hexact : count = op.arity := hcount
        omega
      rw [List.foldl_concat, List.foldl_cons, hcalled, List.foldl_cons, hopened, ih,
        take_right hdue]
  | unary hop _ ih =>
      intro groups missing superfluous
      rw [List.foldl_cons, take_of_reads (.unary (Symbol.unary?_eq_some_iff.2 hop))]
      exact ih groups missing superfluous
  | binary hop _ _ ihLeft ihRight =>
      intro groups missing superfluous
      rw [List.foldl_append, ihLeft, List.foldl_cons,
        take_of_reads (.binary (Symbol.binary?_eq_some_iff.2 hop))]
      exact ihRight groups missing superfluous
  | lift _ _ ih => exact ih
  | lastArgument _ ih =>
      intro arity commas outer missing superfluous
      exact ih _ missing superfluous
  | @moreArguments count _ _ _ _ _ dLater ihFirst ihLater =>
      intro arity commas outer missing superfluous
      have hseparated : take vocabulary
          ⟨.operator, ⟨arity, commas⟩ :: outer, missing, superfluous⟩ (.symbol ',') =
            ⟨.operand, ⟨arity, commas + 1⟩ :: outer, missing, superfluous⟩ :=
        take_of_reads (.comma rfl)
      have hcommas : commas + 1 + count - 1 = commas + (count + 1) - 1 := by omega
      rw [List.foldl_append, ihFirst, List.foldl_cons, hseparated, ihLater, hcommas]

/-- The account of a phrase is without faults. -/
theorem faultless_of_derives {lexemes : List Lexeme} {elements : List Element}
    (d : Derives vocabulary exactArguments (.phrase 0) lexemes elements) :
    (ofLexemes vocabulary lexemes).Faultless := by
  have hentered : lexemes.foldl (take vocabulary) ⟨.operand, [], 0, 0⟩ =
      ⟨.operator, [], 0, 0⟩ := entered_of_derives d [] 0 0
  rw [ofLexemes, hentered]
  exact ⟨rfl, rfl⟩

end Account

end Formula
