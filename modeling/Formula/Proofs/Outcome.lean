/-!
# Outcomes in sequence

A step that may fail is an `Except`, and steps in sequence are its binds.  These are
the facts with which the proofs take a sequence apart.
-/

namespace Formula.Outcome

variable {ε α β : Type}

@[simp] theorem ok_bind (x : α) (next : α → Except ε β) :
    (Except.ok x >>= next) = next x := rfl

@[simp] theorem error_bind (fault : ε) (next : α → Except ε β) :
    ((Except.error fault : Except ε α) >>= next) = .error fault := rfl

@[simp] theorem pure_eq_ok (x : α) : (pure x : Except ε α) = .ok x := rfl

@[simp] theorem mapError_ok {φ : Type} (f : ε → φ) (x : α) :
    (Except.ok x : Except ε α).mapError f = .ok x := rfl

@[simp] theorem mapError_error {φ : Type} (f : ε → φ) (fault : ε) :
    (Except.error fault : Except ε α).mapError f = .error (f fault) := rfl

/-- Of a step that gives a pair, the first component does not depend on the second. -/
theorem map_fst_bind {γ : Type} (x : Except ε α) (first : α → β) (second : α → γ) :
    (x >>= fun a => pure (first a, second a)).map Prod.fst = x.map first := by
  cases x <;> rfl

/-- A sequence that succeeds has succeeded at its first step. -/
theorem exists_of_bind {x : Except ε α} {next : α → Except ε β} {y : β}
    (h : (x >>= next) = .ok y) : ∃ a, x = .ok a ∧ next a = .ok y := by
  cases x with
  | error fault => cases h
  | ok a => exact ⟨a, rfl, h⟩

/-- A step with its result changed succeeds and fails as the step does. -/
theorem exists_of_map {x : Except ε α} {f : α → β} {y : β} (h : x.map f = .ok y) :
    ∃ a, x = .ok a ∧ f a = y := by
  cases x with
  | error fault => cases h
  | ok a => exact ⟨a, rfl, Except.ok.inj h⟩

theorem eq_error_of_map {x : Except ε α} {f : α → β} {fault : ε} (h : x.map f = .error fault) :
    x = .error fault := by
  cases x with
  | error fault' =>
      cases h
      rfl
  | ok a => cases h

theorem eq_ok_of_mapError {φ : Type} {x : Except ε α} {f : ε → φ} {y : α}
    (h : x.mapError f = .ok y) : x = .ok y := by
  cases x with
  | error fault => cases h
  | ok a =>
      cases h
      rfl

/-- A row of steps that fails has gone through up to one of them, and failed there. -/
theorem exists_split_of_foldlM_error {steps : List β} {run : α → β → Except ε α} {start : α}
    {fault : ε} (h : steps.foldlM run start = .error fault) :
    ∃ before step after reached, steps = before ++ step :: after ∧
      before.foldlM run start = .ok reached ∧ run reached step = .error fault := by
  induction steps generalizing start with
  | nil => cases h
  | cons step steps ih =>
      rw [List.foldlM_cons] at h
      cases hstep : run start step with
      | error first =>
          rw [hstep, error_bind] at h
          cases h
          exact ⟨[], step, steps, start, rfl, rfl, hstep⟩
      | ok next =>
          rw [hstep, ok_bind] at h
          obtain ⟨before, failing, after, reached, rfl, hbefore, hfailing⟩ := ih h
          refine ⟨step :: before, failing, after, reached, rfl, ?_, hfailing⟩
          rw [List.foldlM_cons, hstep, ok_bind, hbefore]

/-- A row of steps that fails has failed at one of them. -/
theorem exists_of_foldlM_error {steps : List β} {run : α → β → Except ε α} {start : α}
    {fault : ε} (h : steps.foldlM run start = .error fault) :
    ∃ step ∈ steps, ∃ reached, run reached step = .error fault := by
  obtain ⟨before, step, after, reached, rfl, _, hstep⟩ := exists_split_of_foldlM_error h
  exact ⟨step, by simp, reached, hstep⟩

/-- What holds of every step that goes through holds of the steps of a row that does. -/
theorem forall_of_foldlM_ok {steps : List β} {run : α → β → Except ε α} {start stop : α}
    {property : β → Prop} (h : steps.foldlM run start = .ok stop)
    (hproperty : ∀ reached step next, run reached step = .ok next → property step) :
    ∀ step ∈ steps, property step := by
  induction steps generalizing start with
  | nil => simp
  | cons step steps ih =>
      rw [List.foldlM_cons] at h
      obtain ⟨next, hnext, hlater⟩ := exists_of_bind h
      exact List.forall_mem_cons.2 ⟨hproperty start step next hnext, ih hlater⟩

/-- If a step does the same to the image of a state as to the state, so does a row of steps. -/
theorem foldlM_image {σ : Type} {steps : List β} {run : α → β → Except ε α}
    {run' : α → σ → Except ε α} {state : α → α} {image : β → σ} {report : ε → ε}
    (hstep : ∀ reached step, run' (state reached) (image step) =
      ((run reached step).map state).mapError report) (start : α) :
    (steps.map image).foldlM run' (state start) =
      ((steps.foldlM run start).map state).mapError report := by
  induction steps generalizing start with
  | nil => rfl
  | cons step steps ih =>
      rw [List.map_cons, List.foldlM_cons, List.foldlM_cons, hstep]
      cases run start step with
      | error fault => rfl
      | ok next => exact ih next

end Formula.Outcome
