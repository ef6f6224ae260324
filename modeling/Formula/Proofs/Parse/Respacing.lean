import Formula.Proofs.Parse.Assignment
import Formula.Proofs.Scan.Relocation
import Formula.Proofs.Token.Respacing

/-!
# Blanks between tokens

What is made of a source depends on its lexemes alone, and where a fault is found is one of
them, or the end behind the last.  So two texts that can be respaced into each other are
parsed alike: to the same expression, or with the same fault at the same token, wherever this
stands in each of them.

Assignments are split alike as well, and the remainders can be respaced into each other.
There is one exception.  Of a text without tokens the fault is reported at its beginning, and
not at its end, as it is of a text that breaks off behind the target.

## Main results

* `parseFreely_cases`: what is parsed of all texts with the same lexemes.
* `splitAssignment_by_lexemes`: how a text is split, by its lexemes.
* `parse_respaced`: texts that can be respaced into each other are parsed and split alike.
-/

namespace Formula

open Outcome

/-! ## Parsing by lexemes -/

section Parse

variable {source : Text} {names : List Text} {config : Config}

/-- A parse that reports no limit is the parse that checks none. -/
theorem parse_eq_of_ne_limit
    (hlimit : ∀ excess, parse source names config ≠ .error (.limit excess)) :
    parse source names config = parseFreely source names config := by
  rcases parse_agrees source names config with ⟨hsame, _⟩ | ⟨excess, herror, _⟩
  · exact hsame
  · exact absurd herror (hlimit excess)

/-- All texts with the same lexemes are parsed to the same expression, or in all of them the
same fault is found, at the same token. -/
theorem parseFreely_cases (hcase : config.caseFold = false) (names : List Text)
    (row : List Lexeme) :
    (∃ expression, ∀ source, lexemes source = row →
      parseFreely source names config = .ok expression) ∨
    ∃ cause number, number ≤ row.length ∧ ∀ source, lexemes source = row →
      parseFreely source names config = .error (.parse cause (place source number) source) := by
  have hfold (text : Text) : config.fold text = text := by simp [Config.fold, hcase]
  cases hcomplete : Scan.complete (config.vocabulary names) (numbered row) row.length with
  | ok elements =>
      refine .inl ⟨{ Expression.ofNames (names.map config.fold) with elements }, ?_⟩
      rintro source rfl
      rw [parseFreely, hfold, Scan.complete_tokens, hcomplete]
      rfl
  | error fault =>
      obtain ⟨cause, number, rfl, hnumber⟩ := exists_of_complete_numbered_error hcomplete
      refine .inr ⟨cause, number, hnumber, ?_⟩
      rintro source rfl
      rw [parseFreely, hfold, Scan.complete_tokens, hcomplete]
      rfl

end Parse

/-! ## Splitting by lexemes -/

/-- What a row of lexemes is as an assignment: its target, and the lexemes of the remainder;
or the number of the lexeme that is wrong. -/
def assignmentOf : List Lexeme → Except Nat (Text × List Lexeme)
  | .term target :: second :: rest =>
    if second = .symbol '=' ∧ rest.head? ≠ some (.symbol '=') then .ok (target, rest)
    else .error 1
  | [.term _] => .error 1
  | _ => .error 0

section Place

variable {source before after between rest : Text} {first second : Lexeme}

theorem Begins.place_zero (h : Begins source before first after) :
    place source 0 = before.length := by
  rw [place, tokens, h.tokensFrom_eq]
  exact Nat.zero_add _

theorem Begins.place_one (h : Begins source before first after)
    (h' : Begins after between second rest) :
    place source 1 = before.length + first.text.length + between.length := by
  rw [place, tokens, h.tokensFrom_eq, h'.tokensFrom_eq]
  show 0 + before.length + first.text.length + between.length = _
  rw [Nat.zero_add]

theorem lexemes_dropWhile_isBlank (text : Text) :
    lexemes (text.dropWhile isBlank) = lexemes text := by
  have hblank : ∀ c ∈ text.takeWhile isBlank, isBlank c = true :=
    fun c hc => List.all_eq_true.1 List.all_takeWhile c hc
  rw [← lexemes_blanks hblank (text.dropWhile isBlank), List.takeWhile_append_dropWhile]

/-- The first lexeme of a text is a symbol if that is its first character behind the blanks. -/
theorem head_dropWhile_isBlank_iff {c : Char} (hc : (Lexeme.symbol c).Proper) (text : Text) :
    (text.dropWhile isBlank).head? = some c ↔ (lexemes text).head? = some (.symbol c) := by
  rcases blank_or_begins text with hblank | ⟨before, lexeme, after, hbegins⟩
  · rw [dropWhile_of_blank hblank, lexemes_of_blank hblank]
    simp
  · obtain ⟨d, rest, htext, _, hlexeme⟩ := hbegins.exists_head
    rw [hbegins.dropWhile_eq, htext, hbegins.lexemes_eq, ← hlexeme, List.head?_cons,
      List.head?_cons, Cursor.lexemeAt_eq]
    by_cases hd : isTermChar d = true
    · rw [if_pos hd]
      constructor
      · rintro ⟨⟩
        rw [hc.1] at hd
        cases hd
      · rintro ⟨⟩
    · rw [if_neg hd]
      exact ⟨by rintro ⟨⟩; rfl, by rintro ⟨⟩; rfl⟩

end Place

/-- How a text is split is known from its lexemes, up to where they stand.  A text without
lexemes is an exception: what it lacks is reported at its beginning. -/
theorem splitAssignment_by_lexemes (source : Text) (config : Config) :
    match assignmentOf (lexemes source) with
    | .ok (target, rest) => ∃ remainder, lexemes remainder = rest ∧
        splitAssignment source config = .ok ⟨config.fold target, remainder⟩
    | .error number => splitAssignment source config = .error (.parse .malformedAssignment
        (if lexemes source = [] then 0 else place source number) source) := by
  rcases blank_or_begins source with hblank | ⟨before, lexeme, after, hfirst⟩
  · rw [lexemes_of_blank hblank]
    exact splitAssignment_of_blank hblank
  · have hrow := hfirst.lexemes_eq
    cases lexeme with
    | symbol c =>
        rw [hrow]
        show splitAssignment source config =
          .error (.parse .malformedAssignment (place source 0) source)
        rw [hfirst.place_zero]
        exact splitAssignment_of_symbol hfirst
    | term target =>
        rcases blank_or_begins after with hblank | ⟨between, second, rest, hsecond⟩
        · rw [lexemes_of_blank hblank] at hrow
          have hend : place source 1 = source.length := by
            have hlength := place_length source
            rw [hrow] at hlength
            exact hlength
          rw [hrow]
          show splitAssignment source config =
            .error (.parse .malformedAssignment (place source 1) source)
          rw [hend]
          exact splitAssignment_of_end hfirst hblank
        · rw [hsecond.lexemes_eq] at hrow
          have hsplit : splitAssignment source config = _ :=
            splitAssignment_of_second hfirst hsecond
          have hsign := head_dropWhile_isBlank_iff WrittenAssignment.proper_sign rest
          rw [hrow, assignmentOf]
          by_cases hok : second = .symbol '=' ∧ (lexemes rest).head? ≠ some (.symbol '=')
          · rw [if_pos ⟨hok.1, fun h => hok.2 (hsign.1 h)⟩] at hsplit
            rw [if_pos hok]
            exact ⟨rest.dropWhile isBlank, lexemes_dropWhile_isBlank rest, hsplit⟩
          · rw [if_neg fun h => hok ⟨h.1, fun h' => h.2 (hsign.2 h')⟩] at hsplit
            rw [if_neg hok]
            show splitAssignment source config =
              .error (.parse .malformedAssignment (place source 1) source)
            rw [hfirst.place_one hsecond]
            exact hsplit

theorem le_length_of_assignmentOf {row : List Lexeme} {number : Nat}
    (h : assignmentOf row = .error number) : number ≤ row.length := by
  unfold assignmentOf at h
  split at h
  · split at h
    · cases h
    · cases h
      simp
  · cases h
    simp
  · cases h
    exact Nat.zero_le _

/-! ## Respacing -/

/-- **Blanks between tokens.**  If case is not folded and no limit is reported, two texts that
can be respaced into each other have the same lexemes; both are parsed to the same
expression, or both are refused for the same fault, at the token with the same number or both
at the end.  Both are split as assignments of the same name, with remainders that can be
respaced into each other; or both are refused at the token with the same number or at the
end, but at the beginning if there is no token. -/
theorem parse_respaced {source source' : Text} {names : List Text} {config : Config}
    (hcase : config.caseFold = false) (hrespaced : Respaced source source')
    (hlimit : ∀ excess, parse source names config ≠ .error (.limit excess))
    (hlimit' : ∀ excess, parse source' names config ≠ .error (.limit excess)) :
    lexemes source = lexemes source' ∧
    ((∃ expression, parse source names config = .ok expression ∧
        parse source' names config = .ok expression) ∨
      ∃ cause number, number ≤ (lexemes source).length ∧
        parse source names config = .error (.parse cause (place source number) source) ∧
        parse source' names config = .error (.parse cause (place source' number) source')) ∧
    ((∃ name remainder remainder', Respaced remainder remainder' ∧
        splitAssignment source config = .ok ⟨name, remainder⟩ ∧
        splitAssignment source' config = .ok ⟨name, remainder'⟩) ∨
      (lexemes source ≠ [] ∧ ∃ number, number ≤ (lexemes source).length ∧
        splitAssignment source config =
          .error (.parse .malformedAssignment (place source number) source) ∧
        splitAssignment source' config =
          .error (.parse .malformedAssignment (place source' number) source')) ∨
      (lexemes source = [] ∧
        splitAssignment source config = .error (.parse .malformedAssignment 0 source) ∧
        splitAssignment source' config = .error (.parse .malformedAssignment 0 source'))) := by
  have hsame : lexemes source' = lexemes source := hrespaced.lexemes_eq.symm
  refine ⟨hsame.symm, ?_, ?_⟩
  · rw [parse_eq_of_ne_limit hlimit, parse_eq_of_ne_limit hlimit']
    rcases parseFreely_cases hcase names (lexemes source) with
      ⟨expression, hall⟩ | ⟨cause, number, hnumber, hall⟩
    · exact .inl ⟨expression, hall source rfl, hall source' hsame⟩
    · exact .inr ⟨cause, number, hnumber, hall source rfl, hall source' hsame⟩
  · have hsplit := splitAssignment_by_lexemes source config
    have hsplit' := splitAssignment_by_lexemes source' config
    rw [hsame] at hsplit'
    cases hassignment : assignmentOf (lexemes source) with
    | ok assignment =>
        rw [hassignment] at hsplit hsplit'
        obtain ⟨remainder, hrest, hok⟩ := hsplit
        obtain ⟨remainder', hrest', hok'⟩ := hsplit'
        have hremainders : Respaced remainder remainder' :=
          respaced_iff.2 (hrest.trans hrest'.symm)
        exact .inl ⟨_, remainder, remainder', hremainders, hok, hok'⟩
    | error number =>
        have hnumber := le_length_of_assignmentOf hassignment
        rw [hassignment] at hsplit hsplit'
        by_cases hnone : lexemes source = []
        · simp only [if_pos hnone] at hsplit hsplit'
          exact .inr (.inr ⟨hnone, hsplit, hsplit'⟩)
        · simp only [if_neg hnone] at hsplit hsplit'
          exact .inr (.inl ⟨hnone, number, hnumber, hsplit, hsplit'⟩)

/-- An assignment that is no formula, with few blanks and with many. -/
theorem parse_respaced_assignment :
    let config : Config := { caseFold := false }
    Respaced "z=2 3)".toList " z =2\t 3 )".toList ∧
    parse "z=2 3)".toList [['z']] config =
      .error (.parse .unmatchedRight 5 "z=2 3)".toList) ∧
    parse " z =2\t 3 )".toList [['z']] config =
      .error (.parse .unmatchedRight 9 " z =2\t 3 )".toList) ∧
    splitAssignment "z=2 3)".toList config = .ok ⟨['z'], "2 3)".toList⟩ ∧
    splitAssignment " z =2\t 3 )".toList config = .ok ⟨['z'], "2\t 3 )".toList⟩ ∧
    ∃ number, place "z=2 3)".toList number = 5 ∧ place " z =2\t 3 )".toList number = 9 := by
  intro config
  have hrespaced : Respaced "z=2 3)".toList " z =2\t 3 )".toList := respaced_iff.2 rfl
  have hparse : parse "z=2 3)".toList [['z']] config =
      .error (.parse .unmatchedRight 5 "z=2 3)".toList) := rfl
  have hparse' : parse " z =2\t 3 )".toList [['z']] config =
      .error (.parse .unmatchedRight 9 " z =2\t 3 )".toList) := rfl
  have hlimit : ∀ excess,
      parse "z=2 3)".toList [['z']] config ≠ .error (.limit excess) := by
    rw [hparse]
    exact nofun
  have hlimit' : ∀ excess,
      parse " z =2\t 3 )".toList [['z']] config ≠ .error (.limit excess) := by
    rw [hparse']
    exact nofun
  obtain ⟨_, hparsed, _⟩ := parse_respaced rfl hrespaced hlimit hlimit'
  rw [hparse, hparse'] at hparsed
  rcases hparsed with ⟨_, hok, _⟩ | ⟨_, number, _, hfault, hfault'⟩
  · cases hok
  · refine ⟨hrespaced, hparse, hparse', rfl, rfl, number, ?_, ?_⟩
    · injection hfault with hfault
      injection hfault with _ hposition
      exact hposition.symm
    · injection hfault' with hfault'
      injection hfault' with _ hposition
      exact hposition.symm

/-- Of two texts without tokens that can be respaced into each other, the fault is reported at
the beginning, which is the end of one of them only. -/
theorem splitAssignment_without_tokens :
    let config : Config := { caseFold := false }
    Respaced [] [' ', ' '] ∧ lexemes [' ', ' '] = [] ∧
    splitAssignment [] config = .error (.parse .malformedAssignment (place [] 0) []) ∧
    splitAssignment [' ', ' '] config = .error (.parse .malformedAssignment 0 [' ', ' ']) ∧
    ∀ number, place [' ', ' '] number ≠ 0 := by
  refine ⟨respaced_iff.2 rfl, rfl, rfl, rfl, ?_⟩
  intro number
  show ((([] : List Token)[number]?).map Token.position).getD 2 ≠ 0
  simp

end Formula
