import Formula.Text
import Mathlib.Data.List.Perm.Basic

/-!
# Alphabetical order

Texts are ordered by the code points of their first different characters, and a text stands
before the longer ones that begin with it.  This is a linear order, so there is one
alphabetical list of some texts, and sorting gives it.

## Main results

* `Text.mergeSort_eq`: sorting gives the one alphabetical list of some texts.
-/

namespace Formula

namespace Text

theorem precedes_total (s t : Text) : (precedes s t || precedes t s) = true := by
  induction s generalizing t with
  | nil => simp [precedes]
  | cons c s ih =>
      cases t with
      | nil => simp [precedes]
      | cons d t =>
          have hrest := ih t
          simp only [precedes, Bool.or_eq_true, Bool.and_eq_true, decide_eq_true_eq,
            beq_iff_eq] at hrest ⊢
          rcases Nat.lt_trichotomy c.toNat d.toNat with hlt | heq | hgt
          · exact .inl (.inl hlt)
          · have hsame : c = d := Char.toNat_inj.1 heq
            rcases hrest with h | h
            · exact .inl (.inr ⟨hsame, h⟩)
            · exact .inr (.inr ⟨hsame.symm, h⟩)
          · exact .inr (.inl hgt)

theorem precedes_trans {r s t : Text} (hrs : precedes r s = true) (hst : precedes s t = true) :
    precedes r t = true := by
  induction r generalizing s t with
  | nil => rfl
  | cons b r ih =>
      cases s with
      | nil => cases hrs
      | cons c s =>
          cases t with
          | nil => cases hst
          | cons d t =>
              simp only [precedes, Bool.or_eq_true, Bool.and_eq_true, decide_eq_true_eq,
                beq_iff_eq] at hrs hst ⊢
              rcases hrs with hbc | ⟨rfl, hrs⟩
              · rcases hst with hcd | ⟨rfl, _⟩
                · exact .inl (Nat.lt_trans hbc hcd)
                · exact .inl hbc
              · rcases hst with hcd | ⟨rfl, hst⟩
                · exact .inl hcd
                · exact .inr ⟨rfl, ih hrs hst⟩

theorem precedes_antisymm {s t : Text} (hst : precedes s t = true) (hts : precedes t s = true) :
    s = t := by
  induction s generalizing t with
  | nil =>
      cases t with
      | nil => rfl
      | cons d t => cases hts
  | cons c s ih =>
      cases t with
      | nil => cases hst
      | cons d t =>
          simp only [precedes, Bool.or_eq_true, Bool.and_eq_true, decide_eq_true_eq,
            beq_iff_eq] at hst hts
          rcases hst with hcd | ⟨rfl, hst⟩
          · rcases hts with hdc | ⟨rfl, _⟩
            · omega
            · omega
          · rcases hts with hcc | ⟨_, hts⟩
            · omega
            · rw [ih hst hts]

theorem pairwise_mergeSort (texts : List Text) :
    (texts.mergeSort precedes).Pairwise fun name later => precedes name later = true :=
  @List.pairwise_mergeSort Text precedes (fun _ _ _ => precedes_trans) precedes_total texts

/-- Sorting gives the one alphabetical list of some texts. -/
theorem mergeSort_eq {names texts : List Text} (hperm : texts.Perm names)
    (hsorted : names.Pairwise fun name later => precedes name later = true) :
    texts.mergeSort precedes = names := by
  exact List.Perm.eq_of_pairwise (fun s t _ _ => precedes_antisymm) (pairwise_mergeSort texts)
    hsorted ((List.mergeSort_perm texts _).trans hperm)

end Text

end Formula
