import Formula.Session
import Formula.Proofs.Outcome

/-!
# Runs of sessions

A session goes from command to command, and a command that fails leaves it where it was.
What a command can do to the current expression is little: unless it puts another one in
its place, it adds an element, gives a slot a value, or takes the comparison off.  The last
happens once.  A command that only asks the expression something does nothing to it, so what
it answers does not depend on what has been asked before.

## Main results

* `Session.current_of_run`: all that a command can do to the current expression.
* `Session.relation_foldl_after`: the relation of an equality stays, whatever else is done
  to the expression.
* `Session.answers_of_asks`: questions are answered as if each were the only one.
-/

namespace Formula

open Outcome

/-- Whether a command puts another expression in the place of the current one. -/
def Command.replaces : Command → Bool
  | create _ | parse _ _ _ | parseAsEquality _ _ _ => true
  | _ => false

/-- Whether a command only asks something of the current expression.  To make an evaluator
is to ask for the values of the variables. -/
def Command.asks : Command → Bool
  | evaluate _ | evaluateAsBoolean _ | result _ | booleanResult _ | holds _ _
  | makeEvaluator _ => true
  | _ => false

/-- `Edits expression changed` says that one command can make `changed` of `expression`. -/
inductive Edits (expression : Expression) : Expression → Prop where
  | none : Edits expression expression
  | append (element : Element) : Edits expression (expression.append element)
  | set {name : Text} {value : Value} {changed : Expression} :
    expression.setSlot? name value = some changed → Edits expression changed
  | makeEquality {changed : Expression} :
    expression.makeEquality = .ok changed → Edits expression changed

/-- An equality is made once. -/
theorem Expression.makeEquality_of_relation {expression : Expression} {relation : Relation}
    (h : expression.relation = some relation) :
    expression.makeEquality = .error .alreadyEquality := by
  rw [makeEquality, isEquality, h]
  rfl

/-- Giving a slot a value changes slots only. -/
theorem Expression.relation_of_setSlot? {expression changed : Expression} {name : Text}
    {value : Value} (h : expression.setSlot? name value = some changed) :
    changed.relation = expression.relation := by
  unfold setSlot? at h
  split at h
  · cases h
    rfl
  · cases h

/-- No edit changes the relation of an equality. -/
theorem Edits.relation {expression changed : Expression} {relation : Relation}
    (h : Edits expression changed) (hrelation : expression.relation = some relation) :
    changed.relation = some relation := by
  cases h with
  | none => exact hrelation
  | append element => exact hrelation
  | set hset => exact (Expression.relation_of_setSlot? hset).trans hrelation
  | makeEquality hmake =>
      rw [Expression.makeEquality_of_relation hrelation] at hmake
      cases hmake

namespace Session

/-- The session behind a command.  A command that fails changes nothing. -/
def after (session : Session) (command : Command) : Session :=
  match session.run command with
  | .ok (_, next) => next
  | .error _ => session

variable {session next : Session} {command : Command} {answer : Answer}

theorem after_of_ok (h : session.run command = .ok (answer, next)) :
    session.after command = next := by
  rw [after, h]

theorem after_of_error {error : ExpressionError} (h : session.run command = .error error) :
    session.after command = session := by
  rw [after, h]

/-- All that a command can do to the current expression. -/
theorem current_of_run (hcommand : command.replaces = false)
    (h : session.run command = .ok (answer, next)) : Edits session.current next.current := by
  cases command with
  | create names => cases hcommand
  | parse source names config => cases hcommand
  | parseAsEquality source names config => cases hcommand
  | append element =>
      cases h
      exact .append element
  | appendSlot name =>
      simp only [run] at h
      split at h
      · cases h
        exact .append _
      · cases h
  | set name value =>
      simp only [run] at h
      split at h
      · rename_i changed hset
        cases h
        exact .set hset
      · cases h
  | makeEquality =>
      obtain ⟨changed, hmake, hrest⟩ := exists_of_bind h
      cases hrest
      exact .makeEquality (eq_ok_of_mapError hmake)
  | _ =>
      obtain ⟨value, _, hrest⟩ := exists_of_bind h
      cases hrest
      exact .none

/-- The relation of an equality stays, whatever else is done to the expression. -/
theorem relation_foldl_after {relation : Relation} {commands : List Command}
    (hcommands : ∀ command ∈ commands, command.replaces = false)
    (hrelation : session.current.relation = some relation) :
    (commands.foldl after session).current.relation = some relation := by
  induction commands generalizing session with
  | nil => exact hrelation
  | cons command commands ih =>
      obtain ⟨hcommand, hlater⟩ := List.forall_mem_cons.1 hcommands
      refine ih hlater ?_
      cases hrun : session.run command with
      | error error =>
          rw [after_of_error hrun]
          exact hrelation
      | ok outcome =>
          rw [after_of_ok hrun]
          exact (current_of_run hcommand hrun).relation hrelation

/-! ## Questions -/

/-- What some commands give, one after the other. -/
def answers (session : Session) : List Command → List (Except ExpressionError Answer)
  | [] => []
  | command :: commands =>
    (session.run command).map Prod.fst :: (session.after command).answers commands

/-- A question leaves the current expression as it is. -/
theorem current_after_of_asks (hasks : command.asks = true) (session : Session) :
    (session.after command).current = session.current := by
  cases hrun : session.run command with
  | error error => rw [after_of_error hrun]
  | ok outcome =>
      rw [after_of_ok hrun]
      cases command with
      | evaluate _ | evaluateAsBoolean _ | result _ | booleanResult _ | holds _ _
      | makeEvaluator _ =>
          obtain ⟨value, _, hrest⟩ := exists_of_bind hrun
          cases hrest
          rfl
      | _ => cases hasks

/-- A question is answered by the current expression. -/
theorem map_run_congr (hasks : command.asks = true) (h : session.current = next.current) :
    (session.run command).map Prod.fst = (next.run command).map Prod.fst := by
  cases command with
  | evaluate _ | evaluateAsBoolean _ | result _ | booleanResult _ | holds _ _
  | makeEvaluator _ => simp only [run, h, map_fst_bind]
  | _ => cases hasks

/-- Questions leave the current expression as it is, and are answered as if each were the
only one. -/
theorem answers_of_asks {questions : List Command}
    (hasks : ∀ question ∈ questions, question.asks = true) (session : Session) :
    (questions.foldl after session).current = session.current ∧
      session.answers questions =
        questions.map fun question => (session.run question).map Prod.fst := by
  induction questions generalizing session with
  | nil => exact ⟨rfl, rfl⟩
  | cons question questions ih =>
      obtain ⟨hfirst, hlater⟩ := List.forall_mem_cons.1 hasks
      have hsame := current_after_of_asks hfirst session
      obtain ⟨hcurrent, hanswers⟩ := ih hlater (session.after question)
      refine ⟨hcurrent.trans hsame, ?_⟩
      rw [answers, hanswers, List.map_cons]
      congr 1
      apply List.map_congr_left
      intro later hmem
      exact map_run_congr (hlater later hmem) hsame

end Session

end Formula
