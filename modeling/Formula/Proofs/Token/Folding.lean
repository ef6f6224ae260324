import Formula.Proofs.Text.Lowercase
import Formula.Proofs.Token.Spelling

/-!
# Tokens of a folded source

A source is folded as a whole, a name by itself.  The two agree if the tokens of the folded
source are the folded tokens of the source.  Folding keeps the kind of a character, so it
moves no end of a token, unless it makes two characters of one; and it looks beyond a token
for a capital sigma only.  So there are two things that can go wrong, and they are what does.

## Main results

* `map_spelled_tokens`: characters of the same kinds are cut into tokens at the same places.
* `foldsAlone_of_forall`: two letters only can make a difference.
* `map_spelled_lower_iff`: when the tokens of a folded source are its folded tokens.
-/

namespace Formula

/-! ## Where a token stands -/

/-- A character that is not blank is in a token. -/
theorem exists_token_of_mem {text : Text} {c : Char} (hc : c ∈ text)
    (hblank : isBlank c = false) (position : Nat) :
    ∃ token ∈ tokensFrom position text, c ∈ token.text := by
  induction text generalizing position with
  | nil => cases hc
  | cons d text ih =>
      rw [tokensFrom]
      rcases prepend_split d position (tokensFrom (position + 1) text) with
        ⟨hd, hskip⟩ | ⟨term, kept, _, hlater, hjoin⟩ | ⟨lexeme, _, htext, halone⟩
      · rw [hskip]
        rcases List.mem_cons.1 hc with rfl | hrest
        · rw [hblank] at hd
          cases hd
        · exact ih hrest _
      · rw [hjoin]
        rcases List.mem_cons.1 hc with rfl | hrest
        · exact ⟨_, List.mem_cons_self, List.mem_cons_self⟩
        · obtain ⟨token, htoken, hmem⟩ := ih hrest (position + 1)
          rw [hlater] at htoken
          rcases List.mem_cons.1 htoken with rfl | hkept
          · exact ⟨_, List.mem_cons_self, List.mem_cons_of_mem _ hmem⟩
          · exact ⟨token, List.mem_cons_of_mem _ hkept, hmem⟩
      · rw [halone]
        rcases List.mem_cons.1 hc with rfl | hrest
        · exact ⟨_, List.mem_cons_self, by rw [Token.text, htext]; exact List.mem_cons_self⟩
        · obtain ⟨token, htoken, hmem⟩ := ih hrest (position + 1)
          exact ⟨token, List.mem_cons_of_mem _ htoken, hmem⟩

/-! ## Characters of the same kinds -/

/-- Two tokens of the same shape: at the same place, of the same kind and as long. -/
structure SameShape (first second : Token) : Prop where
  position : second.position = first.position
  isTerm : second.lexeme.isTerm = first.lexeme.isTerm
  length : second.text.length = first.text.length

theorem sameShape_symbol (c d : Char) (position : Nat) :
    SameShape ⟨.symbol c, position⟩ ⟨.symbol d, position⟩ := ⟨rfl, rfl, rfl⟩

theorem sameShape_term {term term' : Text} (position : Nat) (h : term'.length = term.length) :
    SameShape ⟨.term term, position⟩ ⟨.term term', position⟩ := ⟨rfl, rfl, h⟩

/-- Tokens of the same shape are both symbols or both terms. -/
theorem SameShape.cases {first second : Token} (h : SameShape first second) :
    (∃ c d position, first = ⟨.symbol c, position⟩ ∧ second = ⟨.symbol d, position⟩) ∨
    ∃ term term' position, first = ⟨.term term, position⟩ ∧ second = ⟨.term term', position⟩ ∧
      term'.length = term.length := by
  obtain ⟨lexeme, place⟩ := first
  obtain ⟨lexeme', place'⟩ := second
  obtain ⟨hposition, hisTerm, hlength⟩ := h
  cases hposition
  cases lexeme with
  | symbol c =>
      cases lexeme' with
      | symbol d => exact .inl ⟨c, d, place, rfl, rfl⟩
      | term term' => cases hisTerm
  | term term =>
      cases lexeme' with
      | symbol d => cases hisTerm
      | term term' => exact .inr ⟨term, term', place, rfl, rfl, hlength⟩

theorem sameShapes_prepend {c d : Char} (hkind : Text.SameKind c d) (position : Nat)
    {later later' : List Token} (hlater : List.Forall₂ SameShape later later') :
    List.Forall₂ SameShape (Token.prepend c position later)
      (Token.prepend d position later') := by
  obtain ⟨hterm, hblank⟩ := hkind
  -- Every test of the two characters has the same answer, so both take the same branch.
  unfold Token.prepend
  rw [hblank, hterm]
  split
  · exact hlater
  · split
    · cases hlater with
      | nil => exact .cons (sameShape_term position rfl) .nil
      | @cons first second rest rest' hfirst hrest =>
          rcases hfirst.cases with ⟨e, f, place, rfl, rfl⟩ | ⟨term, term', place, rfl, rfl, hlength⟩
          · exact .cons (sameShape_term position rfl) (.cons hfirst hrest)
          · simp only
            split
            · exact .cons (sameShape_term position (by simp [hlength])) hrest
            · exact .cons (sameShape_term position rfl) (.cons hfirst hrest)
    · exact .cons (sameShape_symbol c d position) hlater

theorem sameShapes_tokensFrom {text text' : Text} (h : List.Forall₂ Text.SameKind text text')
    (position : Nat) :
    List.Forall₂ SameShape (tokensFrom position text) (tokensFrom position text') := by
  induction h generalizing position with
  | nil => exact .nil
  | cons hkind _ ih => exact sameShapes_prepend hkind position (ih (position + 1))

/-- The characters of a token, and whether it is a term. -/
def Token.spelled (token : Token) : Text × Bool := (token.text, token.lexeme.isTerm)

/-- The characters of a text where a token stands, and whether it is a term. -/
def Token.cutFrom (text : Text) (token : Token) : Text × Bool :=
  ((text.drop token.position).take token.text.length, token.lexeme.isTerm)

theorem spelled_eq_cutFrom {text : Text} {token : Token} (h : token ∈ tokens text) :
    token.spelled = token.cutFrom text := by
  obtain ⟨_, before, after, htext, hposition⟩ := exists_split_of_mem h
  have hbefore : token.position = before.length := by omega
  rw [Token.spelled, Token.cutFrom, htext, hbefore, List.append_assoc, List.drop_left,
    List.take_left]

/-- Characters of the same kinds are cut into tokens at the same places. -/
theorem map_spelled_tokens {text text' : Text} (h : List.Forall₂ Text.SameKind text text') :
    (tokens text').map Token.spelled = (tokens text).map (Token.cutFrom text') := by
  have hcut : (tokens text').map Token.spelled = (tokens text').map (Token.cutFrom text') :=
    List.map_congr_left fun token htoken => spelled_eq_cutFrom htoken
  have hshapes : List.Forall₂ SameShape (tokens text) (tokens text') :=
    sameShapes_tokensFrom h 0
  rw [hcut]
  -- A cut depends on the shape of a token only.
  generalize tokens text = first at hshapes ⊢
  generalize tokens text' = second at hshapes ⊢
  induction hshapes with
  | nil => rfl
  | cons hshape _ ih =>
      rw [List.map_cons, List.map_cons, ih, Token.cutFrom, Token.cutFrom, hshape.position,
        hshape.isTerm, hshape.length]

/-! ## Folding -/

/-- The folded characters of a token, and whether it is a term. -/
def Token.folded (token : Token) : Text × Bool :=
  (Text.lower token.text, token.lexeme.isTerm)

/-- `FoldsAlone source` says that folding a source does to each token what folding the token
would do: there is no dotted capital I, and a capital sigma ends a word of the source exactly
if it ends one of its token. -/
structure FoldsAlone (source : Text) : Prop where
  undotted : ∀ c ∈ source, c.toNat ≠ 0x130
  sigma : ∀ token ∈ tokens source, ∀ place c, token.text[place]? = some c → c.toNat = 0x3A3 →
    Text.endsWord source (token.position + place) = Text.endsWord token.text place

/-- A source without the two letters folds alone. -/
theorem foldsAlone_of_forall {source : Text}
    (h : ∀ c ∈ source, c.toNat ≠ 0x130 ∧ c.toNat ≠ 0x3A3) : FoldsAlone source := by
  refine ⟨fun c hc => (h c hc).1, fun token htoken place c hplace hsigma => ?_⟩
  obtain ⟨_, before, after, htext, _⟩ := exists_split_of_mem htoken
  have hmem : c ∈ source := by
    rw [htext]
    simp [List.mem_of_getElem? hplace]
  exact absurd hsigma (h c hmem).2

theorem lowerSingle_eq_iff {first second : Bool} {c : Char} :
    Text.lowerSingle first c = Text.lowerSingle second c ↔ (c.toNat = 0x3A3 → first = second) := by
  rw [Text.lowerSingle, Text.lowerSingle]
  split
  · cases first <;> cases second <;> simp [*]
  · simp [*]

/-- A token is folded with its source as alone if its capital sigmas are. -/
theorem cutFrom_lower_eq_iff {source : Text} (hundotted : ∀ c ∈ source, c.toNat ≠ 0x130)
    {token : Token} (htoken : token ∈ tokens source) :
    token.cutFrom (Text.lower source) = token.folded ↔
      ∀ place c, token.text[place]? = some c → c.toNat = 0x3A3 →
        Text.endsWord source (token.position + place) = Text.endsWord token.text place := by
  obtain ⟨_, before, after, htext, hposition⟩ := exists_split_of_mem htoken
  have hbefore : token.position = before.length := by omega
  have hpart : ∀ c ∈ token.text, c.toNat ≠ 0x130 := fun c hc =>
    hundotted c (by rw [htext]; simp [hc])
  have hcut (place : Nat) :
      ((Text.lower source).drop token.position |>.take token.text.length)[place]? =
        token.text[place]?.map
          (Text.lowerSingle (Text.endsWord source (token.position + place))) := by
    rw [List.getElem?_take]
    split
    · rename_i hplace
      rw [List.getElem?_drop, Text.getElem?_lower hundotted]
      congr 1
      rw [htext, hbefore, List.append_assoc, List.getElem?_append_right (by omega),
        Nat.add_sub_cancel_left, List.getElem?_append_left hplace]
    · rename_i hplace
      rw [List.getElem?_eq_none (Nat.le_of_not_lt hplace)]
      rfl
  rw [Token.cutFrom, Token.folded, Prod.mk.injEq, and_iff_left rfl, List.ext_getElem?_iff]
  refine forall_congr' fun place => ?_
  rw [hcut, Text.getElem?_lower hpart]
  cases token.text[place]? with
  | none => simp
  | some c => simp [lowerSingle_eq_iff]

/-- A dotted capital I makes a symbol of what was a part of a term. -/
theorem undotted_of_map_spelled {source : Text}
    (h : (tokens (Text.lower source)).map Token.spelled = (tokens source).map Token.folded) :
    ∀ c ∈ source, c.toNat ≠ 0x130 := by
  intro c hc hdotted
  have hblank : isBlank c = false := Text.isBlank_of_le (by omega)
  obtain ⟨token, htoken, hmem⟩ := exists_token_of_mem hc hblank 0
  have hfolded : token.folded ∈ (tokens (Text.lower source)).map Token.spelled := by
    rw [h]
    exact List.mem_map_of_mem htoken
  obtain ⟨⟨lexeme, position⟩, htoken', hspelled⟩ := List.mem_map.1 hfolded
  obtain ⟨hproper, _⟩ := exists_split_of_mem htoken'
  have htext : lexeme.text = Text.lower token.text := congrArg Prod.fst hspelled
  obtain ⟨hi, hdot⟩ := Text.mem_lowerAfter_of_dotted hmem hdotted false
  rw [← Text.lower, ← htext] at hi hdot
  cases lexeme with
  | symbol d =>
      have hsame := (List.mem_singleton.1 hi).trans (List.mem_singleton.1 hdot).symm
      exact absurd hsame (by decide +kernel)
  | term term => exact absurd (hproper.2 _ hdot) (by decide +kernel)

/-- The tokens of a folded source are its folded tokens exactly if it folds alone. -/
theorem map_spelled_lower_iff (source : Text) :
    (tokens (Text.lower source)).map Token.spelled = (tokens source).map Token.folded ↔
      FoldsAlone source := by
  have hcut (hundotted : ∀ c ∈ source, c.toNat ≠ 0x130) :
      (tokens (Text.lower source)).map Token.spelled =
        (tokens source).map (Token.cutFrom (Text.lower source)) :=
    map_spelled_tokens (Text.sameKinds_lowerAfter hundotted false)
  constructor
  · intro h
    have hundotted := undotted_of_map_spelled h
    rw [hcut hundotted, List.map_inj_left] at h
    refine ⟨hundotted, fun token htoken => ?_⟩
    exact (cutFrom_lower_eq_iff hundotted htoken).1 (h token htoken)
  · rintro ⟨hundotted, hsigma⟩
    rw [hcut hundotted, List.map_inj_left]
    exact fun token htoken => (cutFrom_lower_eq_iff hundotted htoken).2 (hsigma token htoken)

end Formula
