import Formula.Proofs.Token.Reading
import Mathlib.Data.List.Perm.Basic

/-!
# The cut of a source

A source has one cut into tokens.  What a cut is can be said without a word on how it is
found: its tokens stand in the source at their positions, one behind the other and apart,
nothing but blanks is between them, a symbol is one character that is no part of a term, and
a term is a run of the characters of terms that cannot be made longer on either side.

That there is no second cut does not depend on the first one either.  Two tokens that take a
common place of the source in are the same token, because neither of two runs ends inside
the other.  So the tokens of a cut are all the tokens that stand in the source, and their
positions put them in order.

## Main results

* `Token.Stands.eq_of_covers`: two tokens of a source do not overlap.
* `IsCut.mem_iff`: the tokens of a cut are the tokens of the source.
* `IsCut.unique`: a source has one cut at most.
* `isCut_tokens`: its tokens are one.
* `tokens_unique_cut`: the tokens of a source are its only cut, and reading gives them.
-/

namespace Formula

/-! ## What a cut is -/

/-- The places of the source that a token takes in. -/
def Token.Covers (token : Token) (place : Nat) : Prop :=
  token.position ≤ place ∧ place < token.position + token.text.length

/-- A token of a source, judged by itself: its characters are in the source at its position,
and neither the character before a term nor the one behind it can be part of the term. -/
structure Token.Stands (source : Text) (token : Token) : Prop where
  text_eq : (source.drop token.position).take token.text.length = token.text
  proper : token.lexeme.Proper
  before : token.lexeme.isTerm = true → ∀ place c, place + 1 = token.position →
    source[place]? = some c → isTermChar c = false
  behind : token.lexeme.isTerm = true → ∀ c,
    source[token.position + token.text.length]? = some c → isTermChar c = false

/-- `IsCut source cut` says that the tokens cut the source up. -/
structure IsCut (source : Text) (cut : List Token) : Prop where
  increasing : cut.Pairwise fun first second => first.position < second.position
  apart : cut.Pairwise fun first second =>
    first.position + first.text.length ≤ second.position
  stands : ∀ token ∈ cut, token.Stands source
  outside : ∀ place c, source[place]? = some c →
    (∀ token ∈ cut, ¬ token.Covers place) → isBlank c = true

/-! ## There is one cut at most -/

namespace Token.Stands

variable {source : Text} {first second : Token} {place : Nat}

theorem covers_position (h : first.Stands source) : first.Covers first.position := by
  have hpositive : 0 < first.text.length := h.proper.length_pos
  exact ⟨Nat.le_refl _, by omega⟩

/-- The characters of the source at the places of a token are those of the token. -/
theorem getElem?_of_covers (h : first.Stands source) (hcovers : first.Covers place) :
    source[place]? = first.text[place - first.position]? := by
  obtain ⟨hle, hlt⟩ := hcovers
  have hinside : place - first.position < first.text.length := by omega
  have hplace : first.position + (place - first.position) = place := by omega
  have hsame := congrArg (fun text : Text => text[place - first.position]?) h.text_eq
  simp only [List.getElem?_take, if_pos hinside, List.getElem?_drop, hplace] at hsame
  exact hsame

theorem exists_mem_of_covers (h : first.Stands source) (hcovers : first.Covers place) :
    ∃ c, source[place]? = some c ∧ c ∈ first.text := by
  have hinside : place - first.position < first.text.length := by
    have hlt := hcovers.2
    have hle := hcovers.1
    omega
  refine ⟨first.text[place - first.position], ?_, List.getElem_mem hinside⟩
  rw [h.getElem?_of_covers hcovers, List.getElem?_eq_getElem hinside]

/-- Every character of a token has the kind of the token. -/
theorem isTermChar_of_covers (h : first.Stands source) (hcovers : first.Covers place) {c : Char}
    (hc : source[place]? = some c) : isTermChar c = first.lexeme.isTerm := by
  obtain ⟨d, hd, hmem⟩ := h.exists_mem_of_covers hcovers
  rw [hc] at hd
  cases hd
  exact h.proper.isTermChar_eq hmem

/-- A symbol takes one place in. -/
theorem length_of_symbol (hsymbol : first.lexeme.isTerm = false) : first.text.length = 1 := by
  rw [Token.text]
  cases hlexeme : first.lexeme with
  | symbol c => rfl
  | term text =>
      rw [hlexeme] at hsymbol
      cases hsymbol

/-- Of two terms with a common place, neither begins inside the other. -/
theorem position_le_of_covers (h : first.Stands source) (h' : second.Stands source)
    (hterm : first.lexeme.isTerm = true) (hterm' : second.lexeme.isTerm = true)
    (hcovers : first.Covers place) (hcovers' : second.Covers place) :
    second.position ≤ first.position := by
  by_cases hlt : first.position < second.position
  · -- The character before the second term would be one of the first.
    have hle := hcovers'.1
    have hend := hcovers.2
    have hinside : first.Covers (second.position - 1) := by
      constructor
      · omega
      · omega
    obtain ⟨c, hc, _⟩ := h.exists_mem_of_covers hinside
    have hkind := h.isTermChar_of_covers hinside hc
    rw [h'.before hterm' (second.position - 1) c (by omega) hc, hterm] at hkind
    cases hkind
  · omega

/-- Of two terms that begin at one place, neither ends inside the other. -/
theorem length_le_of_position_eq (h : first.Stands source) (h' : second.Stands source)
    (hterm : first.lexeme.isTerm = true) (hterm' : second.lexeme.isTerm = true)
    (hposition : first.position = second.position) :
    second.text.length ≤ first.text.length := by
  by_cases hlt : first.text.length < second.text.length
  · -- The character behind the first term would be one of the second.
    have hinside : second.Covers (first.position + first.text.length) := by
      constructor
      · omega
      · omega
    obtain ⟨c, hc, _⟩ := h'.exists_mem_of_covers hinside
    have hkind := h'.isTermChar_of_covers hinside hc
    rw [h.behind hterm c hc, hterm'] at hkind
    cases hkind
  · omega

/-- Tokens of one kind, at one position and of one length, are the same. -/
theorem eq_of_shape (h : first.Stands source) (h' : second.Stands source)
    (hkind : first.lexeme.isTerm = second.lexeme.isTerm)
    (hposition : first.position = second.position)
    (hlength : first.text.length = second.text.length) : first = second := by
  have htext : first.text = second.text := by
    calc first.text
        = (source.drop first.position).take first.text.length := h.text_eq.symm
      _ = (source.drop second.position).take second.text.length := by rw [hposition, hlength]
      _ = second.text := h'.text_eq
  obtain ⟨lexeme, position⟩ := first
  obtain ⟨lexeme', position'⟩ := second
  cases hposition
  cases lexeme with
  | symbol c =>
      cases lexeme' with
      | symbol d =>
          cases htext
          rfl
      | term text => cases hkind
  | term text =>
      cases lexeme' with
      | symbol d => cases hkind
      | term text' =>
          cases htext
          rfl

/-- Two tokens of a source that take a common place in are the same. -/
theorem eq_of_covers (h : first.Stands source) (h' : second.Stands source)
    (hcovers : first.Covers place) (hcovers' : second.Covers place) : first = second := by
  obtain ⟨c, hc, _⟩ := h.exists_mem_of_covers hcovers
  have hkind : first.lexeme.isTerm = second.lexeme.isTerm :=
    (h.isTermChar_of_covers hcovers hc).symm.trans (h'.isTermChar_of_covers hcovers' hc)
  cases hterm : first.lexeme.isTerm with
  | false =>
      have hone := length_of_symbol hterm
      have hone' := length_of_symbol (hkind.symm.trans hterm)
      have hposition : first.position = second.position := by
        obtain ⟨hle, hlt⟩ := hcovers
        obtain ⟨hle', hlt'⟩ := hcovers'
        omega
      exact h.eq_of_shape h' hkind hposition (hone.trans hone'.symm)
  | true =>
      have hterm' : second.lexeme.isTerm = true := hkind.symm.trans hterm
      have hposition : first.position = second.position :=
        Nat.le_antisymm (h'.position_le_of_covers h hterm' hterm hcovers' hcovers)
          (h.position_le_of_covers h' hterm hterm' hcovers hcovers')
      have hlength : first.text.length = second.text.length :=
        Nat.le_antisymm (h'.length_le_of_position_eq h hterm' hterm hposition.symm)
          (h.length_le_of_position_eq h' hterm hterm' hposition)
      exact h.eq_of_shape h' hkind hposition hlength

end Token.Stands

namespace IsCut

variable {source : Text} {cut cut' : List Token} {token : Token}

/-- The tokens of a cut are all the tokens of the source. -/
theorem mem_iff (h : IsCut source cut) : token ∈ cut ↔ token.Stands source := by
  constructor
  · exact h.stands token
  · intro hstands
    have hcovers := hstands.covers_position
    obtain ⟨c, hc, hmem⟩ := hstands.exists_mem_of_covers hcovers
    have hvisible : isBlank c = false := hstands.proper.isBlank_eq_false hmem
    by_cases hcovered : ∃ other ∈ cut, other.Covers token.position
    · obtain ⟨other, hother, hcovers'⟩ := hcovered
      rw [hstands.eq_of_covers (h.stands other hother) hcovers hcovers']
      exact hother
    · have hblank : isBlank c = true := by
        apply h.outside token.position c hc
        intro other hother hcovers'
        exact hcovered ⟨other, hother, hcovers'⟩
      rw [hvisible] at hblank
      cases hblank

theorem nodup (h : IsCut source cut) : cut.Nodup := by
  apply h.increasing.imp
  intro first second hlt heq
  rw [heq] at hlt
  exact Nat.lt_irrefl _ hlt

/-- A source has one cut at most. -/
theorem unique (h : IsCut source cut) (h' : IsCut source cut') : cut = cut' := by
  have hsame : cut.Perm cut' := by
    rw [List.perm_ext_iff_of_nodup h.nodup h'.nodup]
    intro token
    rw [h.mem_iff, h'.mem_iff]
  refine hsame.eq_of_pairwise ?_ h.increasing h'.increasing
  intro first second _ _ hlt hlt'
  omega

end IsCut

/-! ## The tokens of a source are a cut -/

/-- What a cut says of the tokens from a position of the source on. -/
structure CutFrom (source : Text) (position : Nat) (cut : List Token) : Prop where
  begins : ∀ token ∈ cut, position ≤ token.position
  apart : cut.Pairwise fun first second =>
    first.position + first.text.length ≤ second.position
  stands : ∀ token ∈ cut, token.Stands source
  outside : ∀ place c, position ≤ place → source[place]? = some c →
    (∀ token ∈ cut, ¬ token.Covers place) → isBlank c = true

/-- No term goes on from what is in front of a text into the text. -/
def Divides (front text : Text) : Prop :=
  ∀ c ∈ front.getLast?, ∀ d ∈ text.head?, isTermChar d = true → isTermChar c = false

/-- Behind the lexeme that it begins with, a text is divided. -/
theorem Begins.divides {text before after : Text} {lexeme : Lexeme}
    (h : Begins text before lexeme after) (front : Text) :
    Divides (front ++ before ++ lexeme.text) after := by
  intro c hc d hd hterm
  cases lexeme with
  | symbol e =>
      have hce : c = e := by simpa [Lexeme.text, eq_comm] using hc
      rw [hce]
      exact h.proper.1
  | term term =>
      rw [h.ends rfl d hd] at hterm
      cases hterm

/-- Blanks divide as well. -/
theorem Begins.not_isTermChar_of_getLast? {front text before after : Text} {lexeme : Lexeme}
    (h : Begins text before lexeme after) (hdivides : Divides front text)
    (hterm : lexeme.isTerm = true) :
    ∀ c ∈ (front ++ before).getLast?, isTermChar c = false := by
  intro c hc
  rw [List.getLast?_append] at hc
  cases hlast : before.getLast? with
  | some d =>
      rw [hlast] at hc
      cases hc
      exact isTermChar_of_isBlank (h.blank c (List.mem_of_getLast? hlast))
  | none =>
      rw [hlast] at hc
      obtain ⟨d, rest, hrest, _, hread⟩ := h.exists_head
      have hhead : text.head? = some d := by
        rw [h.text_eq, List.getLast?_eq_none_iff.1 hlast, hrest]
        rfl
      have hd : isTermChar d = true := by
        by_cases hd : isTermChar d = true
        · exact hd
        · rw [Cursor.lexemeAt_eq, if_neg hd] at hread
          rw [← hread] at hterm
          cases hterm
      exact hdivides c hc d hhead hd

/-- A lexeme in the middle of a source stands there, if it does not go on to either side. -/
theorem stands_of_split {left right : Text} {lexeme : Lexeme} (hproper : lexeme.Proper)
    (hleft : lexeme.isTerm = true → ∀ c ∈ left.getLast?, isTermChar c = false)
    (hright : lexeme.isTerm = true → ∀ c ∈ right.head?, isTermChar c = false) :
    Token.Stands (left ++ (lexeme.text ++ right)) ⟨lexeme, left.length⟩ := by
  constructor
  · show ((left ++ (lexeme.text ++ right)).drop left.length).take lexeme.text.length =
      lexeme.text
    rw [List.drop_left, List.take_left]
  · exact hproper
  · intro hterm place c hplace hc
    have hlength : place + 1 = left.length := hplace
    rw [List.getElem?_append_left (by omega)] at hc
    apply hleft hterm c
    rw [List.getLast?_eq_getElem?, ← hlength]
    exact hc
  · intro hterm c hc
    have hbehind : (left ++ (lexeme.text ++ right))[left.length + lexeme.text.length]? =
        some c := hc
    rw [← List.append_assoc, ← List.length_append, List.getElem?_append_right (Nat.le_refl _),
      Nat.sub_self, ← List.head?_eq_getElem?] at hbehind
    exact hright hterm c hbehind

/-- The tokens of a text that ends a source, and is divided from what is in front of it, cut
that end of the source. -/
theorem cutFrom_tokensFrom (position : Nat) (text : Text) :
    ∀ front : Text, front.length = position → Divides front text →
      CutFrom (front ++ text) position (tokensFrom position text) := by
  refine tokensFrom_induction (motive := fun position text cut =>
    ∀ front : Text, front.length = position → Divides front text →
      CutFrom (front ++ text) position cut) ?_ ?_ position text
  · intro position text hblank front hfront _
    refine ⟨by simp, .nil, by simp, ?_⟩
    intro place c hplace hc _
    rw [List.getElem?_append_right (by omega)] at hc
    exact hblank c (List.mem_of_getElem? hc)
  · intro position text before after lexeme later hbegins ih front hfront hdivides
    have hsource : front ++ text = (front ++ before) ++ (lexeme.text ++ after) := by
      rw [hbegins.text_eq, List.append_assoc]
    have hsource' : front ++ text = (front ++ before ++ lexeme.text) ++ after := by
      rw [hsource, List.append_assoc (front ++ before)]
    have hlength : (front ++ before).length = position + before.length := by
      rw [List.length_append, hfront]
    have hcut : CutFrom (front ++ text) (position + before.length + lexeme.text.length) later := by
      rw [hsource']
      apply ih
      · rw [List.length_append, hlength]
      · exact hbegins.divides front
    have hstands : Token.Stands (front ++ text) ⟨lexeme, position + before.length⟩ := by
      rw [hsource, ← hlength]
      exact stands_of_split hbegins.proper
        (hbegins.not_isTermChar_of_getLast? hdivides) hbegins.ends
    constructor
    · intro token htoken
      rcases List.mem_cons.1 htoken with rfl | hlater
      · exact Nat.le_add_right _ _
      · have hbehind := hcut.begins token hlater
        omega
    · exact .cons hcut.begins hcut.apart
    · intro token htoken
      rcases List.mem_cons.1 htoken with rfl | hlater
      · exact hstands
      · exact hcut.stands token hlater
    · intro place c hplace hc houtside
      by_cases hbehind : position + before.length + lexeme.text.length ≤ place
      · apply hcut.outside place c hbehind hc
        intro token htoken
        exact houtside token (List.mem_cons_of_mem _ htoken)
      · -- The place is among the blanks in front of the first token.
        have hfirst : ¬ Token.Covers ⟨lexeme, position + before.length⟩ place :=
          houtside _ List.mem_cons_self
        have hbefore : place < position + before.length := by
          by_cases hlt : place < position + before.length
          · exact hlt
          · refine absurd ⟨?_, ?_⟩ hfirst
            · show position + before.length ≤ place
              omega
            · show place < position + before.length + lexeme.text.length
              omega
        rw [hbegins.text_eq, List.getElem?_append_right (by omega),
          List.getElem?_append_left (by omega)] at hc
        exact hbegins.blank c (List.mem_of_getElem? hc)

/-- The tokens of a source are a cut of it. -/
theorem isCut_tokens (source : Text) : IsCut source (tokens source) := by
  have hdivides : Divides [] source := by
    intro c hc
    cases hc
  have hcut : CutFrom source 0 (tokens source) := cutFrom_tokensFrom 0 source [] rfl hdivides
  refine ⟨?_, hcut.apart, hcut.stands, ?_⟩
  · refine hcut.apart.imp_of_mem ?_
    intro first second hfirst _ hle
    have hpositive : 0 < first.text.length := (hcut.stands first hfirst).proper.length_pos
    omega
  · intro place c hc
    exact hcut.outside place c (Nat.zero_le _) hc

/-! ## Characters and lexemes of a cut -/

/-- Nothing but blanks is lost in a cut. -/
theorem flatMap_text_tokensFrom (position : Nat) (text : Text) :
    (tokensFrom position text).flatMap Token.text = text.filter fun c => !isBlank c := by
  refine tokensFrom_induction (motive := fun _ text cut =>
    cut.flatMap Token.text = text.filter fun c => !isBlank c) ?_ ?_ position text
  · intro _ text hblank
    symm
    rw [List.flatMap_nil, List.filter_eq_nil_iff]
    intro c hc
    simp [hblank c hc]
  · intro position text before after lexeme later hbegins ih
    have hbefore : before.filter (fun c => !isBlank c) = [] := by
      rw [List.filter_eq_nil_iff]
      intro c hc
      simp [hbegins.blank c hc]
    have hlexeme : lexeme.text.filter (fun c => !isBlank c) = lexeme.text := by
      rw [List.filter_eq_self]
      intro c hc
      simp [hbegins.proper.isBlank_eq_false hc]
    rw [List.flatMap_cons, ih, hbegins.text_eq, List.filter_append, List.filter_append, hbefore,
      hlexeme]
    rfl

/-- Lexemes with one blank between any two. -/
def spaced (row : List Lexeme) : Text := [' '].intercalate (row.map Lexeme.text)

/-- A row of lexemes with blanks between them is cut into these lexemes again. -/
theorem map_lexeme_tokensFrom_spaced {row : List Lexeme}
    (hproper : ∀ lexeme ∈ row, lexeme.Proper) (position : Nat) :
    (tokensFrom position (spaced row)).map Token.lexeme = row := by
  induction row generalizing position with
  | nil => rfl
  | cons lexeme row ih =>
      have hlexeme : lexeme.Proper := hproper lexeme (by simp)
      have hrow : ∀ other ∈ row, other.Proper := by
        intro other hother
        exact hproper other (by simp [hother])
      cases row with
      | nil =>
          have hbegins : Begins (spaced [lexeme]) [] lexeme [] :=
            ⟨by simp [spaced], by simp, hlexeme, by simp⟩
          rw [hbegins.tokensFrom_eq]
          rfl
      | cons second row =>
          have hbegins : Begins (spaced (lexeme :: second :: row)) [] lexeme
              (' ' :: spaced (second :: row)) := by
            refine ⟨?_, by simp, hlexeme, ?_⟩
            · simp [spaced, List.intercalate_cons_cons]
            · intro _ c hc
              cases hc
              rfl
          rw [hbegins.tokensFrom_eq, List.map_cons]
          have hblank : isBlank ' ' = true := rfl
          rw [tokensFrom, prepend_blank hblank, ih hrow]

/-- **The cut of a source.**  The tokens of a source are a cut of it, and it has no other.
Reading the source from its beginning comes to an end and gives them.  Their characters are
those of the source without the blanks; and with one blank between any two, their texts are
cut into the same lexemes again. -/
theorem tokens_unique_cut (source : Text) :
    (∀ cut, IsCut source cut ↔ cut = tokens source) ∧
      (∀ given, (Cursor.mk source 0).Gives given ↔ given = tokens source) ∧
      (tokens source).flatMap Token.text = source.filter (fun c => !isBlank c) ∧
      (tokens ([' '].intercalate ((tokens source).map Token.text))).map Token.lexeme =
        (tokens source).map Token.lexeme := by
  refine ⟨?_, ?_, flatMap_text_tokensFrom 0 source, ?_⟩
  · intro cut
    constructor
    · intro h
      exact h.unique (isCut_tokens source)
    · rintro rfl
      exact isCut_tokens source
  · intro given
    exact Cursor.gives_iff ⟨source, 0⟩ given
  · have hproper : ∀ lexeme ∈ (tokens source).map Token.lexeme, lexeme.Proper := by
      intro lexeme hlexeme
      obtain ⟨token, htoken, rfl⟩ := List.mem_map.1 hlexeme
      exact ((isCut_tokens source).stands token htoken).proper
    have hspaced := map_lexeme_tokensFrom_spaced hproper 0
    rw [spaced, List.map_map] at hspaced
    exact hspaced

end Formula
