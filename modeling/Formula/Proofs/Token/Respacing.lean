import Formula.Proofs.Parse
import Formula.Proofs.Token.Cut

/-!
# Respacing a text

Blanks may be put into a text, and taken out of it, wherever no term is torn or joined with
another by that.  What can be reached in this way are exactly the texts with the same
lexemes: each of them can be brought into the form in which every lexeme is followed by one
blank.

## Main results

* `Divides.lexemes_append`: where no term goes on, the lexemes of a text are those of its two parts.
* `Respaced.tidy`: every text can be brought into one form, by its lexemes.
* `respaced_iff`: two texts can be respaced into each other if they have the same lexemes.
-/

namespace Formula

/-- `Respaced source source'` says that one text can be made of the other by inserting and
deleting blanks.  A blank may stand in front of, behind and between lexemes, but not inside a
term; and it may be taken away where what is in front of it is not joined with what is behind
it. -/
inductive Respaced : Text → Text → Prop where
  | same (source : Text) : Respaced source source
  | insert {source front behind : Text} {blank : Char} : isBlank blank = true →
    Divides front behind → Respaced source (front ++ behind) →
    Respaced source (front ++ blank :: behind)
  | delete {source front behind : Text} {blank : Char} : isBlank blank = true →
    Divides front behind → Respaced source (front ++ blank :: behind) →
    Respaced source (front ++ behind)

/-! ## Lexemes of a text that is divided -/

theorem divides_nil_left (text : Text) : Divides [] text := by
  intro c hc
  cases hc

/-- No term goes on with a character that is part of none. -/
theorem divides_cons {c : Char} (hc : isTermChar c = false) (front rest : Text) :
    Divides front (c :: rest) := by
  intro _ _ d hd hterm
  cases hd
  rw [hc] at hterm
  cases hterm

theorem lexemes_of_blank {text : Text} (hblank : ∀ c ∈ text, isBlank c = true) :
    lexemes text = [] := by
  rw [lexemes, tokens, tokensFrom_of_blank hblank]
  rfl

/-- The lexemes of a text are what it begins with, and those of the rest. -/
theorem Begins.lexemes_eq {text before after : Text} {lexeme : Lexeme}
    (h : Begins text before lexeme after) : lexemes text = lexeme :: lexemes after := by
  rw [lexemes, tokens, h.tokensFrom_eq, List.map_cons, map_lexeme_tokensFrom_eq 0]
  rfl

/-- Induction over the lexemes of a text, from the left. -/
theorem lexemes_induction {motive : Text → Prop}
    (blank : ∀ text, (∀ c ∈ text, isBlank c = true) → motive text)
    (lexeme : ∀ {text before after : Text} {lexeme : Lexeme},
      Begins text before lexeme after → motive after → motive text)
    (text : Text) : motive text :=
  tokensFrom_induction (motive := fun _ text _ => motive text) (fun h => blank _ h)
    (fun h ih => lexeme h ih) 0 text

theorem lexemes_blanks {before : Text} (hblank : ∀ c ∈ before, isBlank c = true)
    (text : Text) : lexemes (before ++ text) = lexemes text := by
  rw [lexemes, tokens, tokensFrom_blanks hblank, map_lexeme_tokensFrom_eq 0]
  rfl

/-- A text that is divided from what follows it begins in front of that as it does alone. -/
theorem Begins.append {text before after behind : Text} {lexeme : Lexeme}
    (h : Begins text before lexeme after) (hdivides : Divides text behind) :
    Begins (text ++ behind) before lexeme (after ++ behind) := by
  refine ⟨by rw [h.text_eq, List.append_assoc, List.append_assoc], h.blank, h.proper, ?_⟩
  intro hterm c hc
  cases hafter : after with
  | cons d rest =>
      rw [hafter] at hc
      apply h.ends hterm c
      rw [hafter]
      exact hc
  | nil =>
      rw [hafter] at hc
      cases hkind : isTermChar c with
      | false => rfl
      | true =>
          -- The last character of the term would go on.
          obtain ⟨last, hlast⟩ : ∃ last, lexeme.text.getLast? = some last :=
            ⟨_, List.getLast?_eq_some_getLast h.proper.text_ne_nil⟩
          have htext : text.getLast? = some last := by
            rw [h.text_eq, hafter, List.append_nil, List.getLast?_append, hlast]
            rfl
          have hnot := hdivides last htext c hc hkind
          rw [h.proper.isTermChar_eq (List.mem_of_getLast? hlast), hterm] at hnot
          cases hnot

theorem Begins.divides_after {text before after behind : Text} {lexeme : Lexeme}
    (h : Begins text before lexeme after) (hdivides : Divides text behind) :
    Divides after behind := by
  intro c hc
  apply hdivides c
  rw [h.text_eq, List.getLast?_append, List.getLast?_append, Option.mem_def.1 hc]
  rfl

/-- Where no term goes on from one text into another, their lexemes stay apart. -/
theorem Divides.lexemes_append {front behind : Text} (hdivides : Divides front behind) :
    lexemes (front ++ behind) = lexemes front ++ lexemes behind := by
  revert hdivides
  refine lexemes_induction (motive := fun front => Divides front behind →
    lexemes (front ++ behind) = lexemes front ++ lexemes behind) ?_ ?_ front
  · intro front hblank _
    rw [lexemes_blanks hblank, lexemes_of_blank hblank, List.nil_append]
  · intro front before after lexeme hbegins ih hdivides
    rw [(hbegins.append hdivides).lexemes_eq, hbegins.lexemes_eq,
      ih (hbegins.divides_after hdivides), List.cons_append]

/-! ## Respacing keeps the lexemes -/

theorem lexemes_blank_between {front behind : Text} {blank : Char}
    (hblank : isBlank blank = true) (hdivides : Divides front behind) :
    lexemes (front ++ blank :: behind) = lexemes (front ++ behind) := by
  have hskip : lexemes (blank :: behind) = lexemes behind :=
    lexemes_blanks (List.forall_mem_singleton.2 hblank) behind
  rw [(divides_cons (isTermChar_of_isBlank hblank) front behind).lexemes_append,
    hdivides.lexemes_append, hskip]

namespace Respaced

variable {source source' source'' : Text}

theorem lexemes_eq (h : Respaced source source') : lexemes source = lexemes source' := by
  induction h with
  | same => rfl
  | insert hblank hdivides _ ih => rw [ih, lexemes_blank_between hblank hdivides]
  | delete hblank hdivides _ ih => rw [ih, lexemes_blank_between hblank hdivides]

theorem trans (h : Respaced source source') (h' : Respaced source' source'') :
    Respaced source source'' := by
  induction h' with
  | same => exact h
  | insert hblank hdivides _ ih => exact .insert hblank hdivides ih
  | delete hblank hdivides _ ih => exact .delete hblank hdivides ih

/-- What was inserted can be deleted, and the other way round. -/
theorem symm (h : Respaced source source') : Respaced source' source := by
  induction h with
  | same => exact .same _
  | insert hblank hdivides _ ih =>
      exact trans (.delete hblank hdivides (.same _)) ih
  | delete hblank hdivides _ ih =>
      exact trans (.insert hblank hdivides (.same _)) ih

/-! ## One form for all -/

/-- Blanks at the beginning can be taken away. -/
theorem drop_blanks {before : Text} (hblank : ∀ c ∈ before, isBlank c = true) (text : Text) :
    Respaced (before ++ text) text := by
  induction before with
  | nil => exact .same text
  | cons c before ih =>
      obtain ⟨hc, hrest⟩ := List.forall_mem_cons.1 hblank
      have hfirst : Respaced (c :: (before ++ text)) ([] ++ (before ++ text)) :=
        .delete hc (divides_nil_left _) (.same _)
      exact hfirst.trans (ih hrest)

/-- Behind a blank, a text can be respaced as it can be alone. -/
theorem append_left (h : Respaced source source') (front : Text) :
    Respaced (front ++ ' ' :: source) (front ++ ' ' :: source') := by
  have hdivides {first second : Text} (h : Divides first second) :
      Divides (front ++ ' ' :: first) second := by
    intro c hc
    rw [List.getLast?_append, List.getLast?_cons] at hc
    cases hlast : first.getLast? with
    | none =>
        rw [hlast] at hc
        cases hc
        exact fun _ _ _ => rfl
    | some d =>
        rw [hlast] at hc
        cases hc
        exact h d hlast
  induction h with
  | same => exact .same _
  | insert hblank hdiv _ ih =>
      rw [← List.cons_append, ← List.append_assoc] at ih ⊢
      exact .insert hblank (hdivides hdiv) ih
  | delete hblank hdiv _ ih =>
      rw [← List.cons_append, ← List.append_assoc] at ih ⊢
      exact .delete hblank (hdivides hdiv) ih

end Respaced

/-- A row of lexemes with one blank behind each. -/
def tidied (row : List Lexeme) : Text := row.flatMap fun lexeme => lexeme.text ++ [' ']

/-- Every text can be brought into this form. -/
theorem Respaced.tidy (text : Text) : Respaced text (tidied (lexemes text)) := by
  refine lexemes_induction (motive := fun text => Respaced text (tidied (lexemes text))) ?_ ?_ text
  · intro text hblank
    have hdrop := drop_blanks hblank []
    rw [List.append_nil] at hdrop
    rw [lexemes_of_blank hblank]
    exact hdrop
  · intro text before after lexeme hbegins ih
    have hform : tidied (lexemes text) = lexeme.text ++ ' ' :: tidied (lexemes after) := by
      rw [hbegins.lexemes_eq, tidied, List.flatMap_cons, List.append_assoc]
      rfl
    have hbare : Begins (lexeme.text ++ after) [] lexeme after :=
      ⟨rfl, List.forall_mem_nil _, hbegins.proper, hbegins.ends⟩
    have hparted : Divides lexeme.text after := hbare.divides []
    have hfirst : Respaced text (lexeme.text ++ after) := by
      rw [hbegins.text_eq]
      exact drop_blanks hbegins.blank _
    rw [hform]
    exact (hfirst.insert rfl hparted).trans (ih.append_left lexeme.text)

/-- Two texts can be respaced into each other exactly if they have the same lexemes. -/
theorem respaced_iff {source source' : Text} :
    Respaced source source' ↔ lexemes source = lexemes source' := by
  constructor
  · exact Respaced.lexemes_eq
  · intro hsame
    have htidy := Respaced.tidy source
    rw [hsame] at htidy
    exact htidy.trans (Respaced.tidy source').symm

end Formula
