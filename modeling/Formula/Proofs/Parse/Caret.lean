import Formula.Proofs.Scan.Refusal
import Formula.Proofs.Token.Cut

/-!
# The caret below a fault

A fault in a source is shown in two lines: the source, and a caret below the character where
the token begins that the source is refused at.  That character is always in the first line
of the source, for a line feed is a symbol without a meaning: it would have been refused
before.  But the source is shown as it is.  When there is a line feed behind the fault, the
line above the caret is the last line of the source, which begins further left than the
first; and what stands above the caret, if anything does, has nothing to do with the fault.

## Main results

* `caretBelow_context_iff`: what the caret of a fault points at.
* `lineFeed_not_mem_of_refused`: a fault is in the first line of the source.
* `parse_caret`: the caret of a parse points at the fault if the source is one line, and
  otherwise only by coincidence.
-/

namespace Formula

/-! ## Lines -/

/-- `CaretBelow shown c` says that the last line of a text is a caret behind spaces, and that
`c` stands above the caret. -/
def CaretBelow (shown : Text) (c : Char) : Prop :=
  ∃ above row column,
    shown.splitOn '\n' = above ++ [row, List.replicate column ' ' ++ ['^']] ∧
      row[column]? = some c

/-- A text in which one line feed is the last ends in the line behind it. -/
theorem splitOn_lineFeed {last : Text} (hlast : '\n' ∉ last) (front : Text) :
    (front ++ '\n' :: last).splitOn '\n' = front.splitOn '\n' ++ [last] := by
  rw [List.splitOn_append_cons_self, List.splitOn_eq_singleton hlast]

/-- What is behind the last line feed of a text, if it has one. -/
theorem exists_last_line {text : Text} (h : '\n' ∈ text) :
    ∃ front last, text = front ++ '\n' :: last ∧ '\n' ∉ last := by
  induction text with
  | nil => cases h
  | cons c text ih =>
      by_cases hlater : '\n' ∈ text
      · obtain ⟨front, last, rfl, hlast⟩ := ih hlater
        exact ⟨c :: front, last, rfl, hlast⟩
      · rcases List.mem_cons.1 h with rfl | hmem
        · exact ⟨[], text, rfl, hlater⟩
        · exact absurd hmem hlater

theorem lineFeed_not_mem_caret (column : Nat) :
    '\n' ∉ List.replicate column ' ' ++ ['^'] := by
  simp [List.mem_replicate]

/-- There is one caret, in one column. -/
theorem caretBelow_iff {shown row : Text} {above : List Text} {column : Nat} {c : Char}
    (h : shown.splitOn '\n' = above ++ [row, List.replicate column ' ' ++ ['^']]) :
    CaretBelow shown c ↔ row[column]? = some c := by
  constructor
  · rintro ⟨above', row', column', h', hc⟩
    rw [h] at h'
    have hsame : [row, List.replicate column ' ' ++ ['^']] =
        [row', List.replicate column' ' ' ++ ['^']] := (List.append_inj' h' rfl).2
    simp only [List.cons.injEq, and_true] at hsame
    obtain ⟨hline, hcaret⟩ := hsame
    have hcolumn : column = column' := by
      have hlength := congrArg List.length hcaret
      simpa using hlength
    rw [hline, hcolumn]
    exact hc
  · intro hc
    exact ⟨above, row, column, h, hc⟩

/-! ## How a fault is shown -/

section Context

variable {cause : ParseFault} {position : Nat} {scanned : Text}

/-- The source and the caret are both moved in by two spaces. -/
theorem toList_context : (ExpressionError.parse cause position scanned).context.toList =
    (cause.message.toList ++ '\n' :: ([' ', ' '] ++ scanned)) ++
      '\n' :: (List.replicate (position + 2) ' ' ++ ['^']) := by
  have hspaces : List.replicate (position + 2) ' ' =
      [' ', ' '] ++ List.replicate position ' ' := by
    rw [Nat.add_comm, List.replicate_add]
    rfl
  rw [hspaces]
  show (cause.message ++ "\n  " ++ String.ofList scanned ++ "\n  " ++
    String.ofList (List.replicate position ' ') ++ "^").toList = _
  simp

/-- The last line of a fault with its context is the caret. -/
theorem exists_lines_context :
    ∃ above row, (ExpressionError.parse cause position scanned).context.toList.splitOn '\n' =
      above ++ [row, List.replicate (position + 2) ' ' ++ ['^']] := by
  rw [toList_context, splitOn_lineFeed (lineFeed_not_mem_caret _)]
  have hmem : '\n' ∈ cause.message.toList ++ '\n' :: ([' ', ' '] ++ scanned) := by simp
  obtain ⟨front, last, hlines, hlast⟩ := exists_last_line hmem
  rw [hlines, splitOn_lineFeed hlast]
  exact ⟨front.splitOn '\n', last, by simp⟩

/-- The caret points into the source if the source is one line, and else into its last line,
but two columns too far to the right. -/
theorem caretBelow_context_iff {c : Char} (hc : scanned[position]? = some c) :
    CaretBelow (ExpressionError.parse cause position scanned).context.toList c ↔
      ∀ front last, scanned = front ++ '\n' :: last → '\n' ∉ last →
        last[position + 2]? = some c := by
  by_cases hmem : '\n' ∈ scanned
  · obtain ⟨front, last, hscanned, hlast⟩ := exists_last_line hmem
    have hlines : (ExpressionError.parse cause position scanned).context.toList.splitOn '\n' =
        (cause.message.toList ++ '\n' :: ([' ', ' '] ++ front)).splitOn '\n' ++
          [last, List.replicate (position + 2) ' ' ++ ['^']] := by
      rw [toList_context, splitOn_lineFeed (lineFeed_not_mem_caret _), hscanned]
      have hsame : cause.message.toList ++ '\n' :: ([' ', ' '] ++ (front ++ '\n' :: last)) =
          (cause.message.toList ++ '\n' :: ([' ', ' '] ++ front)) ++ '\n' :: last := by simp
      rw [hsame, splitOn_lineFeed hlast, List.append_assoc]
      rfl
    rw [caretBelow_iff hlines]
    constructor
    · intro habove front' last' hscanned' hlast'
      rw [hscanned] at hscanned'
      have hsame := congrArg (fun text : Text => text.splitOn '\n') hscanned'
      simp only [splitOn_lineFeed hlast, splitOn_lineFeed hlast'] at hsame
      cases (List.append_inj' hsame rfl).2
      exact habove
    · intro hall
      exact hall front last hscanned hlast
  · have hlines : (ExpressionError.parse cause position scanned).context.toList.splitOn '\n' =
        cause.message.toList.splitOn '\n' ++
          [[' ', ' '] ++ scanned, List.replicate (position + 2) ' ' ++ ['^']] := by
      rw [toList_context, splitOn_lineFeed (lineFeed_not_mem_caret _),
        splitOn_lineFeed (by simpa using hmem), List.append_assoc]
      rfl
    rw [caretBelow_iff hlines]
    constructor
    · rintro _ front last rfl
      exact absurd (by simp) hmem
    · intro _
      exact hc

end Context

/-! ## Where a fault is -/

/-- A line feed is a token of its own. -/
theorem mem_tokens_of_lineFeed {source : Text} {place : Nat}
    (h : source[place]? = some '\n') : ⟨.symbol '\n', place⟩ ∈ tokens source := by
  obtain ⟨hlt, hc⟩ := List.getElem?_eq_some_iff.1 h
  have hsplit : source = source.take place ++
      ((Lexeme.symbol '\n').text ++ source.drop (place + 1)) := by
    show source = source.take place ++ '\n' :: source.drop (place + 1)
    rw [← hc, List.getElem_cons_drop hlt, List.take_append_drop]
  have hlength : (source.take place).length = place := List.length_take_of_le hlt.le
  rw [(isCut_tokens source).mem_iff]
  have hstands : Token.Stands
      (source.take place ++ ((Lexeme.symbol '\n').text ++ source.drop (place + 1)))
      ⟨.symbol '\n', (source.take place).length⟩ :=
    stands_of_split ⟨rfl, rfl⟩ nofun nofun
  rwa [← hsplit, hlength] at hstands

/-- What is refused at a token has no line feed in front of it. -/
theorem lineFeed_not_mem_of_refused {vocabulary : Vocabulary} {source : Text}
    {before after : List Token} {token : Token} (htokens : tokens source = before ++ token :: after)
    (hknows : ∀ earlier ∈ before, vocabulary.Knows earlier.lexeme) :
    '\n' ∉ source.take token.position := by
  intro hmem
  obtain ⟨place, hplace⟩ := List.mem_iff_getElem?.1 hmem
  obtain ⟨hlt, hsource⟩ : place < token.position ∧ source[place]? = some '\n' := by
    rw [List.getElem?_take] at hplace
    split at hplace
    · rename_i hlt
      exact ⟨hlt, hplace⟩
    · cases hplace
  have hincreasing := (isCut_tokens source).increasing
  have hlineFeed := mem_tokens_of_lineFeed hsource
  rw [htokens] at hincreasing hlineFeed
  rcases List.mem_append.1 hlineFeed with hbefore | hbehind
  · cases hknows _ hbefore
  · rcases List.mem_cons.1 hbehind with htoken | hafter
    · rw [← htoken] at hlt
      exact absurd hlt (Nat.lt_irrefl place)
    · have hlater : token.position < place :=
        (List.pairwise_cons.1 (List.pairwise_append.1 hincreasing).2.1).1 _ hafter
      omega

/-- A parse that finds a fault within the source has been refused at a token. -/
theorem exists_token_of_parse_error {source scanned : Text} {names : List Text}
    {config : Config} {cause : ParseFault} {position : Nat}
    (h : parse source names config = .error (.parse cause position scanned))
    (hposition : position < scanned.length) :
    scanned = config.fold source ∧ ∃ before token after,
      tokens scanned = before ++ token :: after ∧ token.position = position ∧
      ∀ earlier ∈ before, (config.vocabulary names).Knows earlier.lexeme := by
  rcases outlined_of_parse source names config with ⟨excess, hlimit, _⟩ | houtline
  · rw [h] at hlimit
    cases hlimit
  · cases hrun : Outline.run (config.vocabulary names).names (tokens (config.fold source))
      (config.fold source).length with
    | ok accepted =>
        rw [hrun] at houtline
        obtain ⟨elements, hok⟩ := houtline
        rw [h] at hok
        cases hok
    | error fault =>
        obtain ⟨cause', position', rfl⟩ := Outline.fault_of_run hrun
        rw [hrun] at houtline
        rw [show parse source names config = _ from houtline] at h
        cases h
        refine ⟨rfl, ?_⟩
        rcases Outline.refused_of_run hrun with rfl | hrefused
        · exact absurd hposition (Nat.lt_irrefl _)
        · exact hrefused

/-- **The caret.**  When a parse finds a fault within the source, the fault is at a token of
the folded source, and in its first line.  What is shown ends in a caret; and above the caret
stands the character of the source that the token begins with exactly if the source is one
line, or if the last of its lines has that character two columns further to the right by
coincidence. -/
theorem parse_caret {source scanned : Text} {names : List Text} {config : Config}
    {cause : ParseFault} {position : Nat}
    (h : parse source names config = .error (.parse cause position scanned))
    (hposition : position < scanned.length) :
    scanned = config.fold source ∧
    ∃ token ∈ tokens scanned, token.position = position ∧
    ∃ c, token.text.head? = some c ∧ scanned[position]? = some c ∧
      '\n' ∉ scanned.take position ∧
      (∃ above row, (ExpressionError.parse cause position scanned).context.toList.splitOn '\n' =
        above ++ [row, List.replicate (position + 2) ' ' ++ ['^']]) ∧
      (CaretBelow (ExpressionError.parse cause position scanned).context.toList c ↔
        ∀ front last, scanned = front ++ '\n' :: last → '\n' ∉ last →
          last[position + 2]? = some c) := by
  obtain ⟨hfolded, before, token, after, htokens, rfl, hknows⟩ :=
    exists_token_of_parse_error h hposition
  have hmem : token ∈ tokens scanned := by simp [htokens]
  have hstands := (isCut_tokens scanned).stands token hmem
  have hfirst : scanned[token.position]? = token.text.head? := by
    rw [hstands.getElem?_of_covers hstands.covers_position, Nat.sub_self,
      List.head?_eq_getElem?]
  obtain ⟨c, hc⟩ : ∃ c, scanned[token.position]? = some c :=
    ⟨_, List.getElem?_eq_getElem hposition⟩
  exact ⟨hfolded, token, hmem, rfl, c, hfirst.symm.trans hc, hc,
    lineFeed_not_mem_of_refused htokens hknows, exists_lines_context,
    caretBelow_context_iff hc⟩

/-- The caret below a fault in one line. -/
theorem parse_caret_one_line :
    parse "x $ y".toList [['x'], ['y']] {} =
      .error (.parse (.unrecognized ['$']) 2 "x $ y".toList) ∧
    CaretBelow (ExpressionError.parse (.unrecognized ['$']) 2 "x $ y".toList).context.toList
      '$' := by
  have hparse : parse "x $ y".toList [['x'], ['y']] {} =
      .error (.parse (.unrecognized ['$']) 2 "x $ y".toList) := rfl
  obtain ⟨_, _, _, _, c, _, hc, _, _, hcaret⟩ := parse_caret hparse (by decide)
  cases hc
  refine ⟨hparse, hcaret.2 fun front last hsource => ?_⟩
  have hmem : '\n' ∈ "x $ y".toList := by
    rw [hsource]
    exact List.mem_append_right _ List.mem_cons_self
  exact absurd hmem (by decide)

/-- The caret below a fault with a line feed behind it. -/
theorem not_caretBelow_of_lineFeed_behind :
    parse "x $\ny".toList [['x'], ['y']] {} =
      .error (.parse (.unrecognized ['$']) 2 "x $\ny".toList) ∧
    "x $\ny".toList[2]? = some '$' ∧
    ¬ CaretBelow (ExpressionError.parse (.unrecognized ['$']) 2 "x $\ny".toList).context.toList
      '$' := by
  refine ⟨rfl, rfl, fun hcaret => ?_⟩
  have habove := (caretBelow_context_iff rfl).1 hcaret "x $".toList "y".toList rfl (by decide)
  cases habove

end Formula
