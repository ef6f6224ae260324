import Formula.Proofs.Text.Casing
import Mathlib.Data.List.Forall2

/-!
# Texts in lower case

Lower-casing goes from character to character and looks at the neighbours of a capital sigma
only.  So, unless a text has a capital I with a dot above, its lower-case form has one
character for each of its own, and that is the character's lower-case form apart, or one of
two small sigmas.

## Main results

* `getElem?_lowerAfter`: the characters of a lower-case form, one by one.
* `sameKinds_lowerAfter`: they are of the same kinds.
* `lower_lower`: a lower-case form is its own lower-case form.
-/

namespace Formula.Text

/-- Whether the last character that is not case-ignorable is cased, for a text that stands
after other characters. -/
def casedAfter (afterCased : Bool) (text : Text) : Bool :=
  text.foldl (fun cased c => if isCaseIgnorable c then cased else isCased c) afterCased

/-- Whether a capital sigma at a place of a text would end a word there. -/
def endsWord (text : Text) (place : Nat) : Bool :=
  casedAfter false (text.take place) && !beginsCased (text.drop (place + 1))

/-- The lower-case form of a character that has one character as its lower-case form. -/
def lowerSingle (final : Bool) (c : Char) : Char :=
  if c.toNat = 0x3A3 then Char.ofNat (if final then 0x3C2 else 0x3C3)
  else (lowerChar c).headD c

/-! ## Characters of a lower-case form -/

/-- Two characters of the same kind: both part of a term or neither, both blank or
neither. -/
structure SameKind (c d : Char) : Prop where
  term : isTermChar d = isTermChar c
  blank : isBlank d = isBlank c

theorem sameKind_lowerSingle (final : Bool) {c : Char} (hc : c.toNat ≠ 0x130) :
    SameKind c (lowerSingle final c) := by
  rw [lowerSingle]
  split
  · rename_i hsigma
    rw [← Char.ofNat_toNat c, hsigma]
    cases final with
    | true => exact ⟨by decide +kernel, by decide +kernel⟩
    | false => exact ⟨by decide +kernel, by decide +kernel⟩
  · obtain ⟨d, hlower, hkind⟩ := exists_lowerChar hc
    rw [hlower]
    exact ⟨hkind.term, hkind.blank⟩

theorem lowerAfter_cons (afterCased : Bool) {c : Char} (hc : c.toNat ≠ 0x130) (rest : Text) :
    lowerAfter afterCased (c :: rest) =
      lowerSingle (afterCased && !beginsCased rest) c ::
        lowerAfter (if isCaseIgnorable c then afterCased else isCased c) rest := by
  rw [lowerAfter, lowerSingle]
  split
  · rfl
  · obtain ⟨d, hlower, _⟩ := exists_lowerChar hc
    rw [hlower]
    rfl

variable {text : Text}

/-- The characters of a lower-case form, one by one. -/
theorem getElem?_lowerAfter (hdotted : ∀ c ∈ text, c.toNat ≠ 0x130) (afterCased : Bool)
    (place : Nat) :
    (lowerAfter afterCased text)[place]? = text[place]?.map
      (lowerSingle (casedAfter afterCased (text.take place) &&
        !beginsCased (text.drop (place + 1)))) := by
  induction text generalizing afterCased place with
  | nil => rfl
  | cons c rest ih =>
      obtain ⟨hc, hrest⟩ := List.forall_mem_cons.1 hdotted
      rw [lowerAfter_cons afterCased hc]
      cases place with
      | zero => rfl
      | succ place => exact ih hrest _ place

theorem getElem?_lower (hdotted : ∀ c ∈ text, c.toNat ≠ 0x130) (place : Nat) :
    (lower text)[place]? = text[place]?.map (lowerSingle (endsWord text place)) :=
  getElem?_lowerAfter hdotted false place

theorem sameKinds_lowerAfter (hdotted : ∀ c ∈ text, c.toNat ≠ 0x130) (afterCased : Bool) :
    List.Forall₂ SameKind text (lowerAfter afterCased text) := by
  induction text generalizing afterCased with
  | nil => exact .nil
  | cons c rest ih =>
      obtain ⟨hc, hrest⟩ := List.forall_mem_cons.1 hdotted
      rw [lowerAfter_cons afterCased hc]
      exact .cons (sameKind_lowerSingle _ hc) (ih hrest _)

/-- The dotted capital I is two characters in lower case, wherever it stands. -/
theorem mem_lowerAfter_of_dotted {c : Char} (hc : c ∈ text) (hdotted : c.toNat = 0x130)
    (afterCased : Bool) :
    'i' ∈ lowerAfter afterCased text ∧ Char.ofNat 0x307 ∈ lowerAfter afterCased text := by
  induction text generalizing afterCased with
  | nil => cases hc
  | cons d rest ih =>
      rw [lowerAfter]
      rcases List.mem_cons.1 hc with rfl | hrest
      · have hlower : lowerChar c = ['i', Char.ofNat 0x307] := by
          rw [lowerChar, hdotted]
          rfl
        rw [if_neg (by omega), hlower]
        simp
      · obtain ⟨hi, hdot⟩ := ih hrest _
        exact ⟨List.mem_append_right _ hi, List.mem_append_right _ hdot⟩

/-! ## Lower case twice -/

theorem settled_of_mem_lowerAfter {d : Char} {afterCased : Bool}
    (h : d ∈ lowerAfter afterCased text) : lowerChar d = [d] := by
  induction text generalizing afterCased with
  | nil => cases h
  | cons c rest ih =>
      rw [lowerAfter, List.mem_append] at h
      rcases h with hfirst | hrest
      · split at hfirst
        · rw [List.mem_singleton] at hfirst
          subst hfirst
          split <;> decide +kernel
        · by_cases hc : c.toNat = 0x130
          · have hlower : lowerChar c = ['i', Char.ofNat 0x307] := by
              rw [lowerChar, hc]
              rfl
            rw [hlower, List.mem_cons, List.mem_singleton] at hfirst
            rcases hfirst with rfl | rfl <;> decide +kernel
          · obtain ⟨e, hlower, hkind⟩ := exists_lowerChar hc
            rw [hlower, List.mem_singleton] at hfirst
            subst hfirst
            exact hkind.settled
      · exact ih hrest

/-- A text of characters in lower case is in lower case. -/
theorem lowerAfter_of_settled (h : ∀ c ∈ text, lowerChar c = [c]) (afterCased : Bool) :
    lowerAfter afterCased text = text := by
  induction text generalizing afterCased with
  | nil => rfl
  | cons c rest ih =>
      obtain ⟨hc, hrest⟩ := List.forall_mem_cons.1 h
      have hsigma : c.toNat ≠ 0x3A3 := by
        intro hsigma
        rw [← Char.ofNat_toNat c, hsigma] at hc
        exact absurd hc (by decide +kernel)
      rw [lowerAfter, if_neg hsigma, hc, ih hrest]
      rfl

theorem lower_lower (text : Text) : lower (lower text) = lower text :=
  lowerAfter_of_settled (fun _ hc => settled_of_mem_lowerAfter hc) false

end Formula.Text
