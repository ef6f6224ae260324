import Formula.Proofs.Expression.Residual
import Mathlib.Data.List.Basic

/-!
# Expressions under construction

An expression is built by appending elements, and at some point it may be made an equality.
Appending asks nothing of what is there, so it goes on afterwards: what is appended then
stands behind the subtraction, and the expression no longer gives the residual of the
comparison that its relation names.  Until something is appended it does.

Building falls into two parts at the one conversion that succeeds.  Before it the elements
are those appended so far; behind it they are those of the residual and those appended since.

## Main results

* `Session.after_of_builds`: what one step does.
* `Session.grows_of_equality`: what building does to an equality.
* `Session.current_of_construction`: what building does to an expression that is none.
* `relation_of_construction`: what an expression with a relation is, and what it gives.
* `holds_behind_appended`: an equality that no longer tests its comparison.
-/

namespace Formula

/-- Whether a command is a step in the construction of an expression. -/
def Command.builds : Command → Bool
  | append _ | makeEquality => true
  | _ => false

/-- The element that a command appends. -/
def Command.appended? : Command → Option Element
  | append element => some element
  | _ => none

/-- The elements that some commands append. -/
def appended (commands : List Command) : List Element := commands.filterMap Command.appended?

/-- What some commands make of a new expression with the given variables. -/
def constructed (names : List Text) (commands : List Command) : Expression :=
  (commands.foldl Session.after { current := Expression.ofNames names }).current

namespace Expression

/-- An expression with more elements at its end. -/
def appendAll (expression : Expression) (elements : List Element) : Expression :=
  { expression with elements := expression.elements ++ elements }

theorem appendAll_nil (expression : Expression) : expression.appendAll [] = expression := by
  rw [appendAll, List.append_nil]

theorem appendAll_append (expression : Expression) (elements later : List Element) :
    expression.appendAll (elements ++ later) = (expression.appendAll elements).appendAll later := by
  rw [appendAll, appendAll, appendAll, List.append_assoc]

end Expression

namespace Session

variable {session : Session} {command : Command} {commands : List Command}
  {relation : Relation} {equality : Expression}

theorem after_makeEquality_of_error {fault : RelationFault}
    (h : session.current.makeEquality = .error fault) : session.after .makeEquality = session := by
  apply after_of_error
  rw [run, h]
  rfl

theorem current_after_makeEquality (h : session.current.makeEquality = .ok equality) :
    (session.after .makeEquality).current = equality := by
  have hrun : session.run .makeEquality = .ok (.done, session.change equality) := by
    rw [run, h]
    rfl
  rw [after_of_ok hrun]
  rfl

/-- The commands do nothing to the expression but append to it. -/
def Grows (session : Session) (commands : List Command) : Prop :=
  (commands.foldl after session).current = session.current.appendAll (appended commands)

theorem grows_nil (session : Session) : session.Grows [] :=
  (Expression.appendAll_nil _).symm

theorem Grows.current_eq (h : session.Grows [command]) :
    (session.after command).current = session.current.appendAll (appended [command]) := h

theorem Grows.relation_eq (h : session.Grows [command]) :
    (session.after command).current.relation = session.current.relation := by
  rw [h.current_eq, Expression.appendAll]

theorem Grows.cons (h : session.Grows [command])
    (hlater : (session.after command).Grows commands) : session.Grows (command :: commands) := by
  have hsplit : appended (command :: commands) = appended [command] ++ appended commands :=
    List.filterMap_append (l := [command])
  rw [Grows, List.foldl_cons, hlater, h.current_eq, hsplit, Expression.appendAll_append]

/-- A step of the construction appends what it is to append, or it makes the equality. -/
theorem after_of_builds (session : Session) (h : command.builds = true) :
    session.Grows [command] ∨ command = .makeEquality ∧
      ∃ equality, session.current.makeEquality = .ok equality := by
  cases command with
  | append element => exact .inl rfl
  | makeEquality =>
      cases hmake : session.current.makeEquality with
      | error fault =>
          left
          have hsame := after_makeEquality_of_error hmake
          rw [Grows, List.foldl_cons, hsame]
          exact grows_nil session
      | ok equality => exact .inr ⟨rfl, equality, rfl⟩
  | _ => cases h

/-- Building on an equality appends to it, and does nothing else. -/
theorem grows_of_equality (hbuilds : ∀ command ∈ commands, command.builds = true)
    (h : session.current.relation = some relation) : session.Grows commands := by
  induction commands generalizing session with
  | nil => exact grows_nil session
  | cons command commands ih =>
      obtain ⟨hfirst, hlater⟩ := List.forall_mem_cons.1 hbuilds
      rcases after_of_builds session hfirst with hgrows | ⟨-, equality, hmake⟩
      · exact hgrows.cons (ih hlater (hgrows.relation_eq.trans h))
      · rw [Expression.makeEquality_of_relation h] at hmake
        cases hmake

/-- What building makes of an expression that is no equality: it is none still, and what was
appended stands at its end; or it was made one in between, of the comparison that it was
then. -/
theorem current_of_construction (hbuilds : ∀ command ∈ commands, command.builds = true)
    (h : session.current.relation = none) :
    session.Grows commands ∨
      ∃ earlier later equality, commands = earlier ++ .makeEquality :: later ∧
        session.Grows earlier ∧
        (earlier.foldl after session).current.makeEquality = .ok equality ∧
        (commands.foldl after session).current = equality.appendAll (appended later) := by
  induction commands generalizing session with
  | nil => exact .inl (grows_nil session)
  | cons command commands ih =>
      obtain ⟨hfirst, hlater⟩ := List.forall_mem_cons.1 hbuilds
      rcases after_of_builds session hfirst with hgrows | ⟨rfl, equality, hmake⟩
      · rcases ih hlater (hgrows.relation_eq.trans h) with
          hall | ⟨earlier, later, equality, rfl, hbefore, hmake, hbehind⟩
        · exact .inl (hgrows.cons hall)
        · exact .inr ⟨command :: earlier, later, equality, rfl, hgrows.cons hbefore, hmake,
            hbehind⟩
      · have hnext := current_after_makeEquality hmake
        obtain ⟨_, init, relation, _, hequality⟩ := Expression.makeEquality_eq_ok_iff.1 hmake
        have hrelation : (session.after .makeEquality).current.relation = some relation := by
          rw [hnext, hequality]
          rfl
        refine .inr ⟨[], commands, equality, rfl, grows_nil session, hmake, ?_⟩
        rw [List.foldl_cons, grows_of_equality hlater hrelation, hnext]

end Session

/-- `Represents equality comparison relation` says that the equality ends in a subtraction,
and is the comparison once the relation is put back in its place. -/
def Expression.Represents (equality comparison : Expression) (relation : Relation) : Prop :=
  ∃ init, equality.elements = init ++ [.operation (.binary .sub)] ∧
    comparison.elements = init ++ [.operation relation.operation]

/-- A residual with elements behind it represents its comparison only if there are none. -/
theorem Expression.represents_appendAll_iff {comparison : Expression} {relation : Relation}
    {init : List Element} (h : comparison.elements = init ++ [.operation relation.operation])
    (elements : List Element) :
    ((comparison.residual relation init).appendAll elements).Represents comparison relation ↔
      elements = [] := by
  constructor
  · rintro ⟨init', hequality, hcomparison⟩
    have hinit : init' = init :=
      List.append_cancel_right (hcomparison.symm.trans h)
    rw [hinit] at hequality
    have hnone : init ++ [Element.operation (.binary .sub)] ++ elements =
        init ++ [Element.operation (.binary .sub)] ++ [] := by
      rw [List.append_nil]
      exact hequality
    exact List.append_cancel_left hnone
  · rintro rfl
    exact ⟨init, List.append_nil _, h⟩

/-- **What an expression with a relation is.**  Let a new expression be built by any steps,
those that fail included, and have a relation.  Then it was made an equality once, of a
comparison that ended in this relation.  It consists of the residual of that comparison and
of what was appended since; so it represents the comparison exactly if nothing was appended
since, and then it gives the residual.  In any case the test of the equality is a test of
what it gives. -/
theorem relation_of_construction (names : List Text) (commands : List Command)
    (hbuilds : ∀ command ∈ commands, command.builds = true) {relation : Relation}
    (hrelation : (constructed names commands).relation = some relation) :
    ∃ earlier later init,
      commands = earlier ++ .makeEquality :: later ∧
      (constructed names earlier).relation = none ∧
      (constructed names earlier).elements = init ++ [.operation relation.operation] ∧
      (constructed names earlier).elements = appended earlier ∧
      constructed names commands =
        ((constructed names earlier).residual relation init).appendAll (appended later) ∧
      ((constructed names commands).Represents (constructed names earlier) relation ↔
        appended later = []) ∧
      ∀ bindings,
        (appended later = [] → Expression.ResidualLaw (constructed names earlier)
          (constructed names commands) relation bindings) ∧
        ∀ tolerance, (constructed names commands).holds bindings tolerance =
          match (constructed names commands).evaluate bindings with
          | .ok r => .ok (relation.holds r tolerance)
          | .error fault => .error (.evaluation fault) := by
  have hnew : (Session.current { current := Expression.ofNames names }).relation = none := rfl
  rcases Session.current_of_construction hbuilds hnew with
    hnone | ⟨earlier, later, equality, hsplit, hbefore, hmake, hbehind⟩
  · -- An expression that was never made an equality has no relation.
    rw [constructed, hnone] at hrelation
    cases hrelation
  · obtain ⟨hunconverted, init, relation', hinit, rfl⟩ :=
      Expression.makeEquality_eq_ok_iff.1 hmake
    have hall : constructed names commands =
        ((constructed names earlier).residual relation' init).appendAll (appended later) := hbehind
    have hsame : relation' = relation := by
      rw [hall] at hrelation
      exact Option.some.inj hrelation
    subst hsame
    refine ⟨earlier, later, init, hsplit, hunconverted, hinit, ?_, hall, ?_, ?_⟩
    · rw [constructed, hbefore]
      rfl
    · rw [hall]
      exact Expression.represents_appendAll_iff hinit _
    · intro bindings
      refine ⟨?_, fun tolerance => Expression.holds_of_relation hrelation bindings tolerance⟩
      intro hlater
      rw [hall, hlater, Expression.appendAll_nil]
      exact Expression.residual_of_makeEquality hinit bindings

/-- The steps that build a comparison of five and three. -/
def fiveOverThree : List Command :=
  [.append (.operand (.literal ['5'] 5.0)), .append (.operand (.literal ['3'] 3.0)),
    .append (.operation (.binary .greater))]

/-- That five is greater than three is tested on their difference. -/
theorem relation_of_construction_greater :
    (constructed [] (fiveOverThree ++ [.makeEquality])).Represents (constructed [] fiveOverThree)
        .greater ∧
      (constructed [] (fiveOverThree ++ [.makeEquality])).evaluate [] = .ok 2.0 ∧
      (constructed [] (fiveOverThree ++ [.makeEquality])).holds [] 0.0 = .ok true := by
  have hbuilds : ∀ command ∈ fiveOverThree ++ [.makeEquality], command.builds = true := by
    decide
  have hrelation : (constructed [] (fiveOverThree ++ [.makeEquality])).relation =
      some .greater := rfl
  obtain ⟨earlier, later, _, hsplit, _, _, _, _, hrepresents, htests⟩ :=
    relation_of_construction [] _ hbuilds hrelation
  have hnever : Command.makeEquality ∉ fiveOverThree := by simp [fiveOverThree]
  obtain ⟨rfl, -, rfl⟩ :=
    (List.append_cons_inj_of_notMem hnever List.not_mem_nil).1 hsplit
  obtain ⟨hresidual, hholds⟩ := htests []
  have hreached : (constructed [] fiveOverThree).reached [] = .ok [3.0, 5.0] := rfl
  have hlaw := hresidual rfl
  rw [Expression.ResidualLaw, hreached] at hlaw
  have hvalue : (constructed [] (fiveOverThree ++ [.makeEquality])).evaluate [] = .ok 2.0 :=
    hlaw.2.trans (by decide +kernel)
  refine ⟨hrepresents.2 rfl, hvalue, ?_⟩
  rw [hholds 0.0, hvalue]
  decide +kernel

/-- An element that is appended to an equality changes what is tested: five is greater than
three, but the test of the negated residual says that it is not. -/
theorem holds_behind_appended :
    (constructed [] (fiveOverThree ++ [.makeEquality])).relation = some .greater ∧
      (constructed [] (fiveOverThree ++ [.makeEquality])).holds [] 0.0 = .ok true ∧
      ∃ negated,
        constructed [] (fiveOverThree ++ [.makeEquality, .append (.operation (.unary .negate))]) =
          negated ∧
        negated.relation = some .greater ∧
        negated.elements.getLast? = some (.operation (.unary .negate)) ∧
        negated.evaluate [] = .ok (.float (-2.0)) ∧
        negated.holds [] 0.0 = .ok false := by
  refine ⟨rfl, by decide +kernel, _, rfl, rfl, rfl, by decide +kernel, by decide +kernel⟩

end Formula
