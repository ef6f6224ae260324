import Formula.Proofs.Expression.Forest
import Formula.Proofs.Grammar.Lexemes
import Formula.Proofs.Parse.Folding
import Formula.Proofs.Scan.Frame
import Formula.Proofs.Token.Respacing

/-!
# Texts put together with parentheses

Any texts that are accepted can be put in parentheses and joined by an operation of the
language, and the elements of the whole are those of the texts, one after the other, with
the operation behind them.  The texts need not make sense: nothing of what one of them
leaves waiting gets out of its parentheses, and nothing from outside gets in
(`Formula.Proofs.Scan.Frame`).

On the stack of an evaluation the same happens.  A row that has a value by itself puts just
this value on any stack, since it lists a tree; so the operation finds the values of the
texts, in their order.

## Main results

* `complete_of_composed`: the elements of a composed text, from those of its groups.
* `evaluateElements_applied`: rows that have values, with an operation behind them.
* `parse_composed`: a composed text is accepted, and has the value of its operation applied
  to the values of its groups.
-/

namespace Formula

open Outcome

/-- `Composed names text op groups` says that the text applies an operation to groups, each
in parentheses of its own, or all in those of a call.  A name that is a variable calls
nothing. -/
inductive Composed (names : List Text) : Text → Operation → List Text → Prop where
  | binary {c : Char} {op : BinaryOperator} (left right : Text) :
    Symbol.binary? c = some op →
    Composed names ('(' :: left ++ ')' :: c :: '(' :: right ++ [')'])
      (.binary op.operation) [left, right]
  | unary {c : Char} {op : UnaryOperation} (group : Text) :
    Symbol.unary? c = some op →
    Composed names (c :: '(' :: group ++ [')']) (.unary op) [group]
  | call {name : Text} {op : Operation} (first : Text) (later : List Text) :
    Symbol.function? name = some op → name ∉ names →
    Composed names (name ++ '(' :: [','].intercalate (first :: later) ++ [')']) op
      (first :: later)

/-! ## Lexemes of a composed text -/

theorem lexemes_append {c : Char} (h : Symbol.isKnown c = true) (front behind : Text) :
    lexemes (front ++ c :: behind) = lexemes front ++ .symbol c :: lexemes behind := by
  have hproper : (Lexeme.symbol c).Proper := Symbol.not_isTermChar_of_isKnown h
  have hbegins : Begins (c :: behind) [] (.symbol c) behind :=
    ⟨rfl, List.forall_mem_nil _, hproper, nofun⟩
  rw [(divides_cons hproper.1 front behind).lexemes_append, hbegins.lexemes_eq]

theorem lexemes_cons {c : Char} (h : Symbol.isKnown c = true) (behind : Text) :
    lexemes (c :: behind) = .symbol c :: lexemes behind :=
  lexemes_append h [] behind

theorem lexemes_nil : lexemes [] = [] := rfl

theorem lexemes_group (group behind : Text) :
    lexemes ('(' :: (group ++ ')' :: behind)) =
      .symbol '(' :: (lexemes group ++ [.symbol ')']) ++ lexemes behind := by
  rw [lexemes_cons rfl, lexemes_append rfl, List.cons_append, List.append_assoc]
  rfl

theorem lexemes_name {name : Text} (h : (Lexeme.term name).Proper) :
    lexemes name = [.term name] := by
  have hone : tokensFrom 0 (name ++ []) = [⟨.term name, 0⟩] := tokensFrom_term h 0 (by simp)
  rw [List.append_nil] at hone
  rw [lexemes, tokens, hone]
  rfl

/-- The name of a function is neither a numeral nor a constant. -/
theorem Vocabulary.meaning?_of_function? {vocabulary : Vocabulary} {name : Text}
    {op : Operation} (h : Symbol.function? name = some op) (hname : name ∉ vocabulary.names) :
    vocabulary.meaning? name = some (.function op) := by
  have hall : (Symbol.functions.all fun entry =>
      (Number.numeral? entry.1).isNone && (Symbol.constant? entry.1).isNone) = true := rfl
  obtain ⟨before, after, hfunctions, _⟩ := List.lookup_eq_some_iff.1 h
  have hmem : (name, op) ∈ Symbol.functions := by
    rw [hfunctions]
    simp
  have hentry := List.all_eq_true.1 hall (name, op) hmem
  rw [Bool.and_eq_true, Option.isNone_iff_eq_none, Option.isNone_iff_eq_none] at hentry
  rw [Vocabulary.meaning?, hentry.1, hentry.2]
  simp [hname, h]

/-! ## Elements of a composed text -/

section

variable {vocabulary : Vocabulary} {source : List Token} {length : Nat}

/-- The texts of a call are enclosed together. -/
theorem enclosed_intercalate {first : Text} {later : List Text} {parts : List (List Element)}
    (h : List.Forall₂ (fun group elements => Enclosed vocabulary (lexemes group) elements)
      (first :: later) parts) :
    Enclosed vocabulary (lexemes ([','].intercalate (first :: later))) parts.flatten := by
  induction later generalizing first parts with
  | nil =>
      obtain _ | ⟨hfirst, hnone⟩ := h
      cases hnone
      simpa using hfirst
  | cons second later ih =>
      obtain _ | ⟨hfirst, hlater⟩ := h
      have hjoin : [','].intercalate (first :: second :: later) =
          first ++ ',' :: [','].intercalate (second :: later) := by
        simp [List.intercalate_cons_cons]
      rw [hjoin, lexemes_append rfl, List.flatten_cons]
      exact hfirst.comma (ih hlater)

/-- The lexemes of a text that applies a binary operator to two groups lead to the operator
waiting alone. -/
theorem complete_of_binary {c : Char} {op : BinaryOperator} {left right : Text}
    {leftElements rightElements : List Element} (hop : Symbol.binary? c = some op)
    (hleft : Enclosed vocabulary (lexemes left) leftElements)
    (hright : Enclosed vocabulary (lexemes right) rightElements)
    (hsource : source.map Token.lexeme =
      lexemes ('(' :: left ++ ')' :: c :: '(' :: right ++ [')'])) :
    Scan.complete vocabulary source length =
      .ok (leftElements ++ rightElements ++ [.operation (.binary op.operation)]) := by
  have hrow : source.map Token.lexeme =
      (.symbol '(' :: (lexemes left ++ [.symbol ')'])) ++
        .symbol c :: (.symbol '(' :: (lexemes right ++ [.symbol ')'])) := by
    have hknown : Symbol.isKnown c = true := Symbol.isKnown_of_binary hop
    have htext : '(' :: left ++ ')' :: c :: '(' :: right ++ [')'] =
        '(' :: (left ++ ')' :: c :: '(' :: (right ++ ')' :: [])) := by simp
    rw [hsource, htext, lexemes_group, lexemes_cons hknown, lexemes_group, lexemes_nil,
      List.append_nil]
  have hfirst := hleft.leads_group .operand [] [] [] (by simp) (by simp)
  have hsecond := hright.leads_group .operand [] [.binary op] leftElements (by simp)
    (by simp [Waiting.isApplied])
  have hjoin : Leads vocabulary (source.map Token.lexeme) ⟨.operand, [], []⟩
      ⟨.operator, [.binary op], leftElements ++ rightElements⟩ := by
    rw [hrow]
    apply Leads.append (by simpa using hfirst)
    apply Leads.cons (.binary hop) (carries_binary op)
    simpa using hsecond
  exact complete_of_leads hjoin rfl (by simp [Waiting.isInside]) length

/-- A lexeme that lets an operation wait, with a group behind it: a unary operator, or the
name of a function. -/
theorem complete_of_applied {lexeme : Lexeme} {m : Move} {expectation : Expectation}
    {op : Operation} {inside : Text} {elements : List Element}
    (hread : Reads vocabulary .operand lexeme m)
    (hmove : Carries m ⟨.operand, [], []⟩ ⟨expectation, [.applied op], []⟩)
    (hinside : Enclosed vocabulary (lexemes inside) elements)
    (hsource : source.map Token.lexeme =
      lexeme :: (.symbol '(' :: (lexemes inside ++ [.symbol ')']))) :
    Scan.complete vocabulary source length = .ok (elements ++ [.operation op]) := by
  have hgroup := hinside.leads_group expectation [.applied op] [] []
    (by simp [Waiting.isApplied]) (by simp)
  have hall : Leads vocabulary (source.map Token.lexeme) ⟨.operand, [], []⟩
      ⟨.operator, [], elements ++ [.operation op]⟩ := by
    rw [hsource]
    apply Leads.cons hread hmove
    simpa using hgroup
  have hcomplete := complete_of_leads hall rfl (by simp) length
  simpa using hcomplete

/-- The elements of a composed text are those of its groups, with the operation behind
them. -/
theorem complete_of_composed {text : Text} {op : Operation} {groups : List Text}
    {parts : List (List Element)} (hcomposed : Composed vocabulary.names text op groups)
    (hparts : List.Forall₂ (fun group elements => Enclosed vocabulary (lexemes group) elements)
      groups parts)
    (hsource : source.map Token.lexeme = lexemes text) :
    Scan.complete vocabulary source length = .ok (parts.flatten ++ [.operation op]) := by
  cases hcomposed with
  | binary left right hop =>
      obtain _ | ⟨hleft, hrest⟩ := hparts
      obtain _ | ⟨hright, hnone⟩ := hrest
      cases hnone
      rw [complete_of_binary hop hleft hright hsource]
      simp
  | @unary c op group hop =>
      obtain _ | ⟨hgroup, hnone⟩ := hparts
      cases hnone
      have hknown : Symbol.isKnown c = true := Symbol.isKnown_of_unary hop
      have hrow : lexemes (c :: '(' :: group ++ [')']) =
          .symbol c :: (.symbol '(' :: (lexemes group ++ [.symbol ')'])) := by
        show lexemes (c :: '(' :: (group ++ ')' :: [])) = _
        rw [lexemes_cons hknown, lexemes_group, lexemes_nil, List.append_nil]
      rw [complete_of_applied (.unary hop) (carries_unary op) hgroup (hsource.trans hrow)]
      simp
  | @call name op first later hop hname =>
      have hrow : lexemes (name ++ '(' :: [','].intercalate (first :: later) ++ [')']) =
          .term name :: (.symbol '(' ::
            (lexemes ([','].intercalate (first :: later)) ++ [.symbol ')'])) := by
        rw [List.append_assoc]
        show lexemes (name ++ '(' :: ([','].intercalate (first :: later) ++ [')'])) = _
        rw [lexemes_append rfl, lexemes_append rfl,
          lexemes_name (Symbol.proper_of_function? hop)]
        rfl
      exact complete_of_applied (.function rfl (Vocabulary.meaning?_of_function? hop hname))
        (carries_function name op) (enclosed_intercalate hparts) (hsource.trans hrow)

end

/-! ## Values of groups -/

section

variable {values : Values}

/-- A row that has a value by itself puts it on any stack. -/
theorem foldlM_run_of_evaluates {elements : List Element} {x : Value}
    (h : evaluateElements values elements = .ok x) (stack : List Value) :
    elements.foldlM (Element.run values) stack = .ok (x :: stack) := by
  obtain ⟨tree, rfl⟩ := exists_postorder_of_evaluates h
  rw [Tree.evaluateElements_postorder] at h
  rw [Tree.foldlM_postorder, h]
  rfl

theorem foldlM_run_flatten {parts : List (List Element)} {xs : List Value}
    (h : List.Forall₂ (fun elements x => evaluateElements values elements = .ok x) parts xs)
    (stack : List Value) :
    parts.flatten.foldlM (Element.run values) stack = .ok (xs.reverse ++ stack) := by
  induction h generalizing stack with
  | nil => rfl
  | @cons elements x parts xs hx _ ih =>
      rw [List.flatten_cons, List.foldlM_append, foldlM_run_of_evaluates hx, ok_bind, ih,
        List.reverse_cons, List.append_assoc]
      rfl

/-- An operation behind rows that have values is applied to these, the leftmost first. -/
theorem evaluateElements_applied {parts : List (List Element)} {xs : List Value}
    {op : Operation}
    (h : List.Forall₂ (fun elements x => evaluateElements values elements = .ok x) parts xs)
    (hlength : xs.length = op.arity) :
    evaluateElements values (parts.flatten ++ [.operation op]) = op.value xs := by
  have hcount : xs.reverse.length = op.arity := by rw [List.length_reverse, hlength]
  have henough : ¬ xs.reverse.length < op.arity := by omega
  have hall : xs.reverse.take op.arity = xs.reverse := List.take_of_length_le (by omega)
  have hnone : xs.reverse.drop op.arity = [] := List.drop_of_length_le (by omega)
  have hrun : Element.run values xs.reverse (.operation op) = (do return [← op.value xs]) := by
    rw [Element.run, if_neg henough, hall, hnone, List.reverse_reverse]
  rw [evaluateElements, List.foldlM_append, foldlM_run_flatten h, ok_bind, List.append_nil,
    List.foldlM_cons, hrun]
  cases op.value xs <;> rfl

end

/-! ## Composed texts -/

variable {text : Text} {op : Operation} {groups : List Text} {names : List Text}
  {config : Config} {parts : List Expression}

/-- Expressions with the same slots have the same values under some bindings. -/
theorem values_congr {expression other : Expression} (h : other.slots = expression.slots)
    (bindings : List (Text × Value)) : other.values bindings = expression.values bindings := by
  rw [Expression.values, Expression.values, h]

/-- An expression whose elements are those of others, and then an operation, has the value of
the operation applied to the values of the others. -/
theorem evaluate_of_parts {expression : Expression} {bindings : List (Text × Value)}
    {xs : List Value} (hslots : ∀ part ∈ parts, part.slots = expression.slots)
    (helements : expression.elements = (parts.map Expression.elements).flatten ++ [.operation op])
    (hxs : List.Forall₂ (fun part x => part.evaluate bindings = .ok x) parts xs)
    (hlength : xs.length = op.arity) : expression.evaluate bindings = op.value xs := by
  rw [Expression.evaluate]
  cases hvalues : expression.values bindings with
  | error fault =>
      -- There is an operation, so there is a part, and it has failed in the same way.
      have hpositive : 0 < op.arity := by cases op <;> exact Nat.succ_pos _
      cases hxs with
      | nil =>
          rw [List.length_nil] at hlength
          omega
      | @cons part x parts xs hx _ =>
          have hsame := values_congr (hslots part List.mem_cons_self) bindings
          rw [Expression.evaluate, hsame, hvalues] at hx
          cases hx
  | ok values =>
      rw [ok_bind, helements]
      apply evaluateElements_applied _ hlength
      rw [List.forall₂_map_left_iff]
      refine ((List.forall₂_and_left _ _).2 ⟨hslots, hxs⟩).imp ?_
      rintro part x ⟨hsame, hx⟩
      rw [Expression.evaluate, values_congr hsame, hvalues] at hx
      exact hx

/-- **Composition.**  Let some texts be accepted with the same names, whether they make sense
or not.  Put together, they are accepted within the limits; the elements are those of the
texts in their order, and then the operation.  Under bindings for which all texts have
values, and with as many texts as the operation has arguments, the whole gives what the
operation gives for these values, a fault as well as a value. -/
theorem parse_composed (hfold : config.caseFold = false)
    (hcomposed : Composed names text op groups)
    (hparts : List.Forall₂ (fun group part => parse group names config = .ok part) groups parts)
    (hwithin : ∀ bound, sourceDemand names text bound ≤ (config.limits.cap bound).val) :
    ∃ composed, parse text names config = .ok composed ∧
      composed = { Expression.ofNames names with
        elements := parts.flatMap Expression.elements ++ [.operation op] } ∧
      ∀ (bindings : List (Text × Value)) (xs : List Value),
        List.Forall₂ (fun part x => part.evaluate bindings = .ok x) parts xs →
        xs.length = op.arity → composed.evaluate bindings = op.value xs := by
  have hid : ∀ text : Text, config.fold text = text := Config.fold_eq_self hfold
  have hmap : names.map config.fold = names := Config.map_fold_eq_self hfold names
  have hcomplete : Scan.complete (config.vocabulary names) (tokens text) text.length =
      .ok ((parts.map Expression.elements).flatten ++ [.operation op]) := by
    have hknown : (config.vocabulary names).names = names := hmap
    apply complete_of_composed (by rwa [hknown]) _ rfl
    rw [List.forall₂_map_right_iff]
    refine hparts.imp ?_
    intro group part hparse
    have hgroup := enclosed_of_complete (complete_of_parse hparse)
    rwa [hid] at hgroup
  refine ⟨_, ?_, rfl, ?_⟩
  · have hfree : parse text names config = parseFreely text names config := by
      apply parse_eq_parseFreely
      intro bound
      rw [hid]
      exact hwithin bound
    rw [hfree, parseFreely, hid, hcomplete, hmap, List.flatMap_def]
    rfl
  · intro bindings xs hxs hlength
    have hslots : ∀ part ∈ parts, part.slots = Expression.slotsOf names := by
      have hboth : List.Forall₂ (fun part group => part.slots = Expression.slotsOf names ∧
          parse group names config = .ok part) parts groups := by
        apply List.Forall₂.flip
        refine hparts.imp ?_
        intro group part hparse
        have hsame := slots_of_parse hparse
        rw [hmap] at hsame
        exact ⟨hsame, hparse⟩
      exact ((List.forall₂_and_left parts groups).1 hboth).1
    apply evaluate_of_parts hslots _ hxs hlength
    rw [List.flatMap_def]

/-- Two numerals side by side and nothing at all, neither of which has a value, and a quotient
that fails as the division does. -/
theorem parse_composed_malformed :
    let config : Config := ⟨false, none⟩
    (∃ composed, parse "(2 3)*( )".toList [['x']] config = .ok composed ∧
      composed.elements = [.operand (.literal ['2'] (Float.ofScientific 2 true 0)),
        .operand (.literal ['3'] (Float.ofScientific 3 true 0)),
        .operation (.binary .mul)]) ∧
    ∃ composed, parse "(x)/(0)".toList [['x']] config = .ok composed ∧
      composed.evaluate [(['x'], 2.5)] = .error (.operation (.binary .div) .divisionByZero) := by
  intro config
  let numerals : Expression := { Expression.ofNames [['x']] with
    elements := [.operand (.literal ['2'] (Float.ofScientific 2 true 0)),
      .operand (.literal ['3'] (Float.ofScientific 3 true 0))] }
  let mention : Expression := { Expression.ofNames [['x']] with
    elements := [.operand (.variable ['x'])] }
  let zero : Expression := { Expression.ofNames [['x']] with
    elements := [.operand (.literal ['0'] (Float.ofScientific 0 true 0))] }
  constructor
  · have hcomposed : Composed [['x']] "(2 3)*( )".toList _ _ :=
      .binary "2 3".toList " ".toList (show Symbol.binary? '*' = some ⟨.mul, 3⟩ from rfl)
    have hparts : List.Forall₂ (fun group part => parse group [['x']] config = .ok part)
        ["2 3".toList, " ".toList] [numerals, Expression.ofNames [['x']]] :=
      .cons rfl (.cons rfl .nil)
    obtain ⟨composed, hparse, rfl, _⟩ := parse_composed rfl hcomposed hparts
      (by intro bound; cases bound <;> decide +kernel)
    exact ⟨_, hparse, rfl⟩
  · have hcomposed : Composed [['x']] "(x)/(0)".toList _ _ :=
      .binary ['x'] ['0'] (show Symbol.binary? '/' = some ⟨.div, 3⟩ from rfl)
    have hparts : List.Forall₂ (fun group part => parse group [['x']] config = .ok part)
        [['x'], ['0']] [mention, zero] := .cons rfl (.cons rfl .nil)
    obtain ⟨composed, hparse, _, hvalue⟩ := parse_composed rfl hcomposed hparts
      (by intro bound; cases bound <;> decide +kernel)
    refine ⟨_, hparse, ?_⟩
    rw [hvalue [(['x'], 2.5)] [2.5, 0.0] (.cons rfl (.cons rfl .nil)) rfl]
    rfl

end Formula
