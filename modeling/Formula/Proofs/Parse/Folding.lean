import Formula.Proofs.Parse
import Formula.Proofs.Token.Folding

/-!
# Names in folded sources

A parse folds its source as a whole, and each name by itself, and what is in the source is
looked up among the names afterwards.  So a name is found where it stands in the source if
folding does to it there what it does to it alone.

What becomes of a name that is found is told by the operands of the expression: a scan moves
operations only, and puts the operands out in the order of the source.

## Main results

* `operands_of_parse`: the operands of a parsed expression are those of its terms, in order.
* `operand?_of_name`: a term that is folded to what a name is folded to is that name's
  variable.
* `parse_folding`: when folding and tokenising agree, and what follows for names.
-/

namespace Formula

open Outcome

/-- The operand of an element that is one. -/
def Element.operand? : Element → Option Operand
  | .operand o => some o
  | .operation _ => none

/-- The operand that a term stands for. -/
def Vocabulary.operand? (vocabulary : Vocabulary) (term : Text) : Option Operand :=
  match vocabulary.meaning? term with
  | some (.operand o) => some o
  | _ => none

/-- The text of a lexeme that is a term. -/
def Lexeme.term? : Lexeme → Option Text
  | .term text => some text
  | .symbol _ => none

/-- The terms of a source, in order. -/
def terms (source : Text) : List Text := (lexemes source).filterMap Lexeme.term?

/-! ## Operands keep their order -/

namespace Scan

variable {vocabulary : Vocabulary} {scan scan' : Scan} {position : Nat}

/-- The operands that are out. -/
def operands (scan : Scan) : List Operand := scan.output.filterMap Element.operand?

theorem filterMap_released (entries : List Waiting) :
    (released entries).filterMap Element.operand? = [] := by
  induction entries with
  | nil => rfl
  | cons entry entries ih => cases entry <;> simpa [Element.operand?] using ih

theorem operands_drain (scan : Scan) (test : Waiting → Bool) :
    (scan.drain test).operands = scan.operands := by
  rw [operands, drain, List.filterMap_append, filterMap_released, List.append_nil, operands]

/-- A move puts its operand out, if it has one, and no other. -/
theorem operands_advance {m : Move} (h : scan.advance position m = .ok scan') :
    scan'.operands = scan.operands ++ m.elements.filterMap Element.operand? := by
  cases m with
  | operand o =>
      cases h
      exact List.filterMap_append
  | function name op =>
      cases h
      exact (List.append_nil _).symm
  | unary op =>
      cases h
      exact (List.append_nil _).symm
  | binary op =>
      cases h
      refine Eq.trans ?_ (List.append_nil _).symm
      exact (operands_drain _ _).trans (operands_drain _ _)
  | left =>
      cases h
      exact (List.append_nil _).symm
  | right =>
      obtain ⟨inside, outside, _, _, rfl⟩ := waiting_of_advance_right h
      refine Eq.trans ?_ (List.append_nil _).symm
      refine (operands_drain _ _).trans ?_
      rw [operands, List.filterMap_append, filterMap_released, List.append_nil, operands]
  | comma =>
      obtain ⟨inside, outside, _, _, rfl⟩ := waiting_of_advance_comma h
      rw [operands, expect, List.filterMap_append, filterMap_released]
      rfl

/-- The operand of a move is that of its lexeme. -/
theorem filterMap_elements_of_reads {expectation : Expectation} {lexeme : Lexeme} {m : Move}
    (h : Reads vocabulary expectation lexeme m) :
    m.elements.filterMap Element.operand? =
      (lexeme.term?.bind vocabulary.operand?).toList := by
  cases h with
  | operand hopen hmeaning =>
      simp [Move.elements, Element.operand?, Lexeme.term?, Vocabulary.operand?, hmeaning]
  | function hopen hmeaning =>
      simp [Move.elements, Element.operand?, Lexeme.term?, Vocabulary.operand?, hmeaning]
  | _ => rfl

theorem operands_foldlM {source : List Token}
    (h : source.foldlM (proceed vocabulary) scan = .ok scan') :
    scan'.operands = scan.operands ++
      ((source.map Token.lexeme).filterMap Lexeme.term?).filterMap vocabulary.operand? := by
  refine foldlM_proceed_induction
    (fun scan later => scan'.operands = scan.operands ++
      (later.filterMap Lexeme.term?).filterMap vocabulary.operand?) h
    (List.append_nil _).symm ?_
  intro scan next token m later hread hadvance hlater
  rw [hlater, operands_advance hadvance, filterMap_elements_of_reads hread, List.append_assoc]
  cases hterm : token.lexeme.term? with
  | none => simp [hterm]
  | some term =>
      cases hoperand : vocabulary.operand? term with
      | none => simp [hterm, hoperand]
      | some o => simp [hterm, hoperand]

end Scan

variable {source : Text} {names : List Text} {config : Config}

/-- The operands of a parsed expression are those of the terms of its source, in order. -/
theorem operands_of_parse {expression : Expression}
    (h : parse source names config = .ok expression) :
    expression.elements.filterMap Element.operand? =
      (terms (config.fold source)).filterMap (config.vocabulary names).operand? := by
  obtain ⟨scan, hscan, hconclude⟩ := Scan.exists_of_complete (complete_of_parse h)
  obtain ⟨_, _, helements⟩ := Scan.content_of_conclude hconclude
  rw [helements, Scan.content, List.filterMap_append, Scan.filterMap_released, List.append_nil]
  exact Scan.operands_foldlM hscan

/-- The slots of a parsed expression are those of the folded names. -/
theorem slots_of_parse {expression : Expression}
    (h : parse source names config = .ok expression) :
    expression.slots = Expression.slotsOf (names.map config.fold) := by
  unfold parse at h
  obtain ⟨_, _, h⟩ := exists_of_bind h
  obtain ⟨_, _, h⟩ := exists_of_bind h
  obtain ⟨_, _, h⟩ := exists_of_bind h
  cases h
  rfl

/-! ## Names -/

theorem exists_slot_foldl {name : Text} (slots : List Slot)
    (h : (∃ slot ∈ slots, slot.name = name) ∨ name ∈ names) :
    ∃ slot ∈ names.foldl
      (fun slots name => if slots.any (·.name == name) then slots else slots ++ [⟨name, 0.0⟩])
      slots, slot.name = name := by
  induction names generalizing slots with
  | nil => exact h.resolve_right List.not_mem_nil
  | cons first names ih =>
      rw [List.foldl_cons]
      refine ih _ ?_
      by_cases hany : slots.any (·.name == first) = true
      · rw [if_pos hany]
        rcases h with hslot | hname
        · exact .inl hslot
        · rcases List.mem_cons.1 hname with rfl | hlater
          · exact .inl (by simpa using hany)
          · exact .inr hlater
      · rw [if_neg hany]
        rcases h with ⟨slot, hslot, rfl⟩ | hname
        · exact .inl ⟨slot, by simp [hslot], rfl⟩
        · rcases List.mem_cons.1 hname with rfl | hlater
          · exact .inl ⟨⟨name, 0.0⟩, by simp, rfl⟩
          · exact .inr hlater

/-- Every name has a slot. -/
theorem exists_slot_of_mem {name : Text} (h : name ∈ names) :
    ∃ slot ∈ Expression.slotsOf names, slot.name = name :=
  exists_slot_foldl [] (.inr h)

/-- A term that is folded to what a name is folded to is that name's variable, unless it is
a numeral or a constant. -/
theorem operand?_of_name {term name : Text} (hname : name ∈ names)
    (hfold : config.fold name = config.fold term)
    (hnumeral : Number.numeral? (config.fold term) = none)
    (hconstant : Symbol.constant? (config.fold term) = none) :
    (config.vocabulary names).operand? (config.fold term) =
        some (.variable (config.fold term)) ∧
      ∃ slot ∈ Expression.slotsOf (names.map config.fold), slot.name = config.fold term := by
  have hmem : config.fold term ∈ names.map config.fold := by
    rw [← hfold]
    exact List.mem_map_of_mem hname
  refine ⟨?_, exists_slot_of_mem hmem⟩
  have hmeaning : (config.vocabulary names).meaning? (config.fold term) =
      some (.operand (.variable (config.fold term))) := by
    rw [Vocabulary.meaning?, hnumeral, hconstant]
    exact if_pos hmem
  rw [Vocabulary.operand?, hmeaning]

/-- The name that is split off an assignment is its folded target. -/
theorem exists_target_of_splitAssignment {assignment name remainder : Text}
    (h : splitAssignment assignment config = .ok ⟨name, remainder⟩) :
    ∃ target position, (Cursor.mk assignment 0).read.1 = some ⟨.term target, position⟩ ∧
      name = config.fold target := by
  unfold splitAssignment at h
  simp only at h
  split at h
  · cases h
  · cases h
  · rename_i target position behindName hread
    refine ⟨target, position, by rw [hread], ?_⟩
    split at h
    · cases h
    · split at h
      · cases h
        rfl
      · cases h

theorem fold_fold (config : Config) (text : Text) :
    config.fold (config.fold text) = config.fold text := by
  unfold Config.fold
  split
  · exact Text.lower_lower text
  · rfl

/-- The text of a spelling that is a term. -/
def termOfSpelling (spelling : Text × Bool) : Option Text :=
  if spelling.2 then some spelling.1 else none

theorem terms_eq (source : Text) :
    terms source = ((tokens source).map Token.spelled).filterMap termOfSpelling := by
  rw [terms, lexemes, List.filterMap_map, List.filterMap_map]
  refine List.filterMap_congr fun token _ => ?_
  obtain ⟨lexeme, position⟩ := token
  cases lexeme <;> rfl

/-- The terms of a source that folds alone are folded one by one. -/
theorem terms_lower (h : FoldsAlone source) :
    terms (Text.lower source) = (terms source).map Text.lower := by
  rw [terms_eq, (map_spelled_lower_iff source).2 h, terms_eq, List.filterMap_map,
    List.filterMap_map, List.map_filterMap]
  refine List.filterMap_congr fun token _ => ?_
  obtain ⟨lexeme, position⟩ := token
  cases lexeme <;> rfl

theorem Config.fold_eq_lower (h : config.caseFold = true) : config.fold = Text.lower := by
  funext text
  rw [Config.fold, if_pos h]

/-- Where case matters, folding leaves a text as it is. -/
theorem Config.fold_eq_self (h : config.caseFold = false) (text : Text) :
    config.fold text = text := by
  rw [Config.fold, h]
  rfl

theorem Config.map_fold_eq_self (h : config.caseFold = false) (names : List Text) :
    names.map config.fold = names := by
  rw [List.map_congr_left fun name _ => Config.fold_eq_self h name, List.map_id']

/-- **Folding and tokenising.**  The tokens of a folded source are its folded tokens exactly
if the source folds alone.  Then the operands of a parse are what the terms of the source,
folded one by one, stand for, in order.  A term that is spelled like a name, or like the
target of an assignment whose name is among the names, stands for the variable of that name,
unless it is a numeral or a constant, and the variable has a slot. -/
theorem parse_folding (source : Text) :
    ((tokens (Text.lower source)).map Token.spelled = (tokens source).map Token.folded ↔
      FoldsAlone source) ∧
    (FoldsAlone source → ∀ (names : List Text) (config : Config), config.caseFold = true →
      (∀ expression, parse source names config = .ok expression →
        expression.elements.filterMap Element.operand? =
            (terms source).filterMap
              (fun term => (config.vocabulary names).operand? (Text.lower term)) ∧
          expression.slots = Expression.slotsOf (names.map Text.lower)) ∧
      ∀ (term : Text), ∀ name ∈ names,
        (name = term ∨ ∃ assignment position remainder,
          (Cursor.mk assignment 0).read.1 = some ⟨.term term, position⟩ ∧
            splitAssignment assignment config = .ok ⟨name, remainder⟩) →
        Number.numeral? (Text.lower term) = none → Symbol.constant? (Text.lower term) = none →
        (config.vocabulary names).operand? (Text.lower term) =
            some (.variable (Text.lower term)) ∧
          ∃ slot ∈ Expression.slotsOf (names.map Text.lower), slot.name = Text.lower term) := by
  refine ⟨map_spelled_lower_iff source, fun halone names config hcase => ?_⟩
  have hfolds : config.fold = Text.lower := Config.fold_eq_lower hcase
  refine ⟨fun expression hparse => ⟨?_, ?_⟩, fun term name hname hspelled hnumeral hconstant => ?_⟩
  · rw [operands_of_parse hparse, hfolds, terms_lower halone, List.filterMap_map]
    rfl
  · rw [slots_of_parse hparse, hfolds]
  · have hfold : config.fold name = config.fold term := by
      rcases hspelled with rfl | ⟨assignment, position, remainder, hread, hsplit⟩
      · rfl
      · obtain ⟨target, _, htarget, rfl⟩ := exists_target_of_splitAssignment hsplit
        rw [hread] at htarget
        cases htarget
        -- The name of an assignment is folded when it is split off, and again by the parse.
        exact fold_fold config term
    rw [← hfolds] at hnumeral hconstant ⊢
    exact operand?_of_name hname hfold hnumeral hconstant

/-- A capital sigma that is a name by itself is found where nothing with case stands in front
of it. -/
theorem parse_folding_sigma :
    FoldsAlone "Σ + X".toList ∧
      ∃ expression, parse "Σ + X".toList [['Σ'], ['X']] {} = .ok expression ∧
        expression.elements.filterMap Element.operand? =
          [.variable ['σ'], .variable ['x']] := by
  obtain ⟨halone, hparse⟩ := parse_folding "Σ + X".toList
  have hfolds : FoldsAlone "Σ + X".toList := halone.1 (by decide +kernel)
  have hparsed : parse "Σ + X".toList [['Σ'], ['X']] {} = .ok
      { Expression.ofNames [['σ'], ['x']] with
        elements := [.operand (.variable ['σ']), .operand (.variable ['x']),
          .operation (.binary .add)] } := rfl
  refine ⟨hfolds, _, hparsed, ?_⟩
  rw [((hparse hfolds [['Σ'], ['X']] {} rfl).1 _ hparsed).1]
  rfl

/-- The circumflex is no part of a term, but it does not end a word either.  So the sigma
behind it is a final one in the source, and another one by itself. -/
theorem fold_sigma_behind_circumflex :
    (tokens (Text.lower "a^Σ".toList)).map Token.spelled ≠
        (tokens "a^Σ".toList).map Token.folded ∧
      Text.lower ['Σ'] = ['σ'] ∧
      parse "a^Σ".toList [['a'], ['Σ']] {} =
        .error (.parse (.unrecognized ['ς']) 2 "a^ς".toList) := by
  refine ⟨by decide +kernel, by decide +kernel, rfl⟩

end Formula
