import Formula.Config.Library
import Mathlib.Data.List.Perm.Basic

/-!
# What is relied on of a library of records

A library of records is known by what is documented of it.  A field has the value under the
spelling that counts, or its default.  A reader that comes first is run once on that value,
and what it gives is kept.  If it raises an error of the value this is one issue, with the
spelling as its place; anything else that it raises is not caught.  All issues are reported
together, and a record without issues is accepted.

The order of the issues is not relied on, nor are the rules for truth values and for keys.

## Main results

* `RecordLibrary.Lawful.validate_cases`: a library that keeps the contract accepts a record,
  or reports exactly its issues.
* `RecordLibrary.ofRules_lawful`: with any rules there is a library that keeps it.
-/

namespace Formula

/-- `library.Lawful` says that a library validates records as is documented. -/
structure RecordLibrary.Lawful (library : RecordLibrary) : Prop where
  /-- What is raised and is no error of the value is not caught. -/
  raises : ∀ {declared : Declaration} {entries spelling},
    declared.expressionLimits.read declared.readLimits entries =
      .error (spelling, .typeError) →
    library.validate declared entries = .error .typeError
  /-- A record with nothing wrong has what is read of the fields. -/
  accepts : ∀ {declared : Declaration} {entries caseFold limits},
    declared.caseFold.read library.truth entries = .ok caseFold →
    declared.expressionLimits.read declared.readLimits entries = .ok limits →
    declared.unused entries = [] →
    library.validate declared entries = .ok ⟨caseFold, limits⟩
  /-- Otherwise all issues are reported, in some order. -/
  reports : ∀ {declared : Declaration} {entries},
    (∀ spelling, declared.expressionLimits.read declared.readLimits entries ≠
      .error (spelling, .typeError)) →
    library.issues declared entries ≠ [] →
    ∃ issues, library.validate declared entries = .error (.invalid issues) ∧
      issues.Perm (library.issues declared entries)

/-! ## Issues -/

theorem mem_caseFoldIssues {outcome : Except (String × String × String) Bool} {issue : Issue} :
    issue ∈ caseFoldIssues outcome ↔ ∃ spelling code message,
      outcome = .error (spelling, code, message) ∧
      issue = ⟨some (.name spelling.toList), code, message⟩ := by
  cases outcome with
  | ok fold => simp [caseFoldIssues]
  | error report => simp [caseFoldIssues, Prod.ext_iff]

theorem mem_limitsIssues {outcome : Except (String × Raised) (Option Limits)} {issue : Issue} :
    issue ∈ limitsIssues outcome ↔ ∃ spelling message,
      outcome = .error (spelling, .valueError message) ∧
      issue = ⟨some (.name spelling.toList), "value_error", "Value error, " ++ message⟩ := by
  rcases outcome with ⟨spelling, message | _⟩ | limits
  · simp [limitsIssues, Prod.ext_iff]
  · simp [limitsIssues]
  · simp [limitsIssues]

theorem exists_of_caseFoldIssues_eq_nil {outcome : Except (String × String × String) Bool}
    (h : caseFoldIssues outcome = []) : ∃ fold, outcome = .ok fold := by
  cases outcome with
  | ok fold => exact ⟨fold, rfl⟩
  | error report => cases h

/-- Limits without issues are read, or are not reported. -/
theorem exists_of_limitsIssues_eq_nil {outcome : Except (String × Raised) (Option Limits)}
    (hreported : ∀ spelling, outcome ≠ .error (spelling, .typeError))
    (h : limitsIssues outcome = []) : ∃ limits, outcome = .ok limits := by
  rcases outcome with ⟨spelling, message | _⟩ | limits
  · cases h
  · exact absurd rfl (hreported spelling)
  · exact ⟨limits, rfl⟩

namespace RecordLibrary

section Library

variable {library : RecordLibrary} {declared : Declaration}
  {entries : List (Scalar × Document)}

/-- The issues of a record are those of its fields and of the keys that no field has. -/
theorem mem_issues {issue : Issue} : issue ∈ library.issues declared entries ↔
    (∃ spelling code message,
      declared.caseFold.read library.truth entries = .error (spelling, code, message) ∧
      issue = ⟨some (.name spelling.toList), code, message⟩) ∨
    (∃ spelling message,
      declared.expressionLimits.read declared.readLimits entries =
        .error (spelling, .valueError message) ∧
      issue = ⟨some (.name spelling.toList), "value_error", "Value error, " ++ message⟩) ∨
    ∃ key ∈ declared.unused entries, issue = library.keyIssue key := by
  rw [issues, List.mem_append, List.mem_append, mem_caseFoldIssues, mem_limitsIssues,
    List.mem_map, or_assoc]
  simp only [eq_comm]

/-- Without issues, both fields are read and every key is that of a field. -/
theorem read_of_issues_eq_nil
    (hreported : ∀ spelling, declared.expressionLimits.read declared.readLimits entries ≠
      .error (spelling, .typeError))
    (h : library.issues declared entries = []) :
    ∃ fold limits, declared.caseFold.read library.truth entries = .ok fold ∧
      declared.expressionLimits.read declared.readLimits entries = .ok limits ∧
      declared.unused entries = [] := by
  obtain ⟨hfields, hkeys⟩ := List.append_eq_nil_iff.1 h
  obtain ⟨hfold, hlimits⟩ := List.append_eq_nil_iff.1 hfields
  obtain ⟨fold, hfold⟩ := exists_of_caseFoldIssues_eq_nil hfold
  obtain ⟨limits, hlimits⟩ := exists_of_limitsIssues_eq_nil hreported hlimits
  exact ⟨fold, limits, hfold, hlimits, List.map_eq_nil_iff.1 hkeys⟩

/-- A record is accepted with what is read of its fields, or refused with its issues. -/
theorem Lawful.validate_cases (hlawful : library.Lawful)
    (hreported : ∀ spelling, declared.expressionLimits.read declared.readLimits entries ≠
      .error (spelling, .typeError)) :
    (∃ config, library.validate declared entries = .ok config ∧
      library.issues declared entries = [] ∧
      declared.caseFold.read library.truth entries = .ok config.caseFold ∧
      declared.expressionLimits.read declared.readLimits entries =
        .ok config.expressionLimits ∧
      declared.unused entries = []) ∨
    ∃ issues, library.validate declared entries = .error (.invalid issues) ∧ issues ≠ [] ∧
      issues.Perm (library.issues declared entries) := by
  by_cases hnil : library.issues declared entries = []
  · obtain ⟨fold, limits, hfold, hlimits, hkeys⟩ := read_of_issues_eq_nil hreported hnil
    exact .inl ⟨⟨fold, limits⟩, hlawful.accepts hfold hlimits hkeys, hnil, hfold, hlimits, hkeys⟩
  · obtain ⟨issues, hissues, hperm⟩ := hlawful.reports hreported hnil
    refine .inr ⟨issues, hissues, ?_, hperm⟩
    rintro rfl
    exact hnil hperm.nil_eq.symm

end Library

/-! ## A library for every rule -/

/-- With any rules for truth values and keys, there is a library that keeps the contract. -/
theorem ofRules_lawful (truth : Document → Except (String × String) Bool)
    (keyIssue : Scalar → Issue) : (ofRules truth keyIssue).Lawful where
  raises h := by
    simp only [ofRules, h]
  accepts {declared entries fold limits} hfold hlimits hkeys := by
    have hfold' : declared.caseFold.read truth entries = .ok fold := hfold
    simp only [ofRules, hfold', hlimits, hkeys, List.map_nil]
  reports {declared entries} hreported hne := by
    refine ⟨_, ?_, .refl _⟩
    have hne' : caseFoldIssues (declared.caseFold.read truth entries) ++
        limitsIssues (declared.expressionLimits.read declared.readLimits entries) ++
        (declared.unused entries).map keyIssue ≠ [] := hne
    simp only [ofRules, issues]
    split
    · rename_i spelling hlimits
      exact absurd hlimits (hreported spelling)
    · rename_i hfold hlimits hkeys
      rw [hfold, hlimits, hkeys] at hne'
      exact absurd rfl hne'
    · rfl

theorem usual_lawful : usual.Lawful := ofRules_lawful _ _

end RecordLibrary

end Formula
