import Formula.Config.Loading
import Formula.Proofs.Config.Library
import Formula.Proofs.Config.Limits
import Formula.Proofs.Document.Keys

/-!
# What a text gives when it is loaded

A document gives a configuration, or is refused: as no mapping, or for its keys and values,
each of which is an issue of its own.  All issues are found together, so a document is refused
for its keys and values exactly if one of them cannot be.

There is one document beside these.  If limits are given with a key that is no text, the
unknown keys cannot be put in a message; no issue is reported then, neither this nor any
other, and the loading breaks off.

What reads the text is any function to documents in which no mapping has a key twice, and what
validates a mapping is any library that keeps the contract.

## Main results

* `Field.counts_iff`: which value of a field counts.
* `readLimits_of_textKeys`, `readLimits_of_hasOtherKey`: what is read of limits, by their keys.
* `Config.validate_outcome`: what the entries of a mapping give.
* `Config.load_outcome`: what a text gives that is a document.
-/

namespace Formula

open Outcome

/-! ## What a document says -/

/-- Whether a key is a text, or the code points of what is none. -/
def Scalar.IsText (key : Scalar) : Prop := (∃ t, key = .text t) ∨ ∃ ns, key = .codes ns

/-- A mapping with a key that is no text. -/
def Document.HasOtherKey (value : Document) : Prop :=
  ∃ entries key inner, value = .mapping entries ∧ (key, inner) ∈ entries ∧ ¬ key.IsText

/-- `field.Counts entries spelling value` says that the field has the value, under the
spelling.  The second spelling counts where the first is not there. -/
inductive Field.Counts {α : Type} (field : Field α) (entries : List (Scalar × Document)) :
    String → Document → Prop where
  | name {value : Document} : (.text field.name.toList, value) ∈ entries →
    Counts field entries field.name value
  | otherName {value : Document} : (∀ value, (.text field.name.toList, value) ∉ entries) →
    (.text field.otherName.toList, value) ∈ entries →
    Counts field entries field.otherName value

/-- The field that says whether case is folded. -/
abbrev caseFoldField : Field Bool := ⟨"caseFold", "case_fold", true⟩

/-- The field of the limits. -/
abbrev limitsField : Field (Option Limits) := ⟨"expressionLimits", "expression_limits", none⟩

/-- A key under which a field has its value. -/
def IsFieldKey (entries : List (Scalar × Document)) (key : Scalar) : Prop :=
  ∃ spelling value, key = .text spelling.toList ∧
    (caseFoldField.Counts entries spelling value ∨ limitsField.Counts entries spelling value)

/-- `GivesConfig library entries config` says that the entries give the configuration, and
nothing else. -/
structure GivesConfig (library : RecordLibrary) (entries : List (Scalar × Document))
    (config : Config) : Prop where
  keys : ∀ key value, (key, value) ∈ entries → IsFieldKey entries key
  caseFold : ∀ spelling value, caseFoldField.Counts entries spelling value →
    library.truth value = .ok config.caseFold
  caseFold_default : (∀ spelling value, ¬ caseFoldField.Counts entries spelling value) →
    config.caseFold = true
  limits : ∀ spelling value, limitsField.Counts entries spelling value →
    value.AdmitsLimits ∧ GivesLimits value (.ok config.expressionLimits)
  limits_default : (∀ spelling value, ¬ limitsField.Counts entries spelling value) →
    config.expressionLimits = none

/-- `IssueOf library entries issue` says what cannot be among the entries of a
configuration. -/
inductive IssueOf (library : RecordLibrary) (entries : List (Scalar × Document)) :
    Issue → Prop where
  | caseFold {spelling : String} {value : Document} {code message : String} :
    caseFoldField.Counts entries spelling value →
    library.truth value = .error (code, message) →
    IssueOf library entries ⟨some (.name spelling.toList), code, message⟩
  | limits {spelling : String} {value : Document} {fault : LimitsFault} {message : String} :
    limitsField.Counts entries spelling value → ¬ value.AdmitsLimits →
    readLimits value = .error fault → fault.raised = .valueError message →
    IssueOf library entries
      ⟨some (.name spelling.toList), "value_error", "Value error, " ++ message⟩
  | key {key : Scalar} {value : Document} : (key, value) ∈ entries →
    ¬ IsFieldKey entries key → IssueOf library entries (library.keyIssue key)

/-- Limits with a key that is no text are given. -/
def HasUnnamedLimit (entries : List (Scalar × Document)) : Prop :=
  ∃ spelling value, limitsField.Counts entries spelling value ∧ value.HasOtherKey

/-- `Loads library document outcome` lists what a document gives. -/
inductive Loads {ε : Type} (library : RecordLibrary) :
    Document → Except (LoadFault ε) Config → Prop where
  | null : Loads library (.scalar .null) (.ok {})
  | notMapping {value : Document} : value ≠ .scalar .null →
    (∀ entries, value ≠ .mapping entries) → Loads library value (.error .notMapping)
  | config {entries : List (Scalar × Document)} {config : Config} :
    GivesConfig library entries config → Loads library (.mapping entries) (.ok config)
  | invalid {entries : List (Scalar × Document)} {issues : List Issue} :
    ¬ HasUnnamedLimit entries → issues ≠ [] →
    (∀ issue, issue ∈ issues ↔ IssueOf library entries issue) →
    Loads library (.mapping entries) (.error (.config (.invalid issues)))
  | unnamed {entries : List (Scalar × Document)} : HasUnnamedLimit entries →
    Loads library (.mapping entries) (.error (.config .typeError))

/-! ## The field that counts -/

section Counts

variable {α : Type} {field : Field α} {entries : List (Scalar × Document)} {spelling : String}
  {value : Document}

theorem Field.Counts.mem (h : field.Counts entries spelling value) :
    (.text spelling.toList, value) ∈ entries := by
  cases h with
  | name hmem => exact hmem
  | otherName _ hmem => exact hmem

/-- The value of a field is what is found. -/
theorem Field.counts_iff (hnodup : (entries.map Prod.fst).Nodup) :
    field.Counts entries spelling value ↔ field.find? entries = some (spelling, value) := by
  rw [find?]
  constructor
  · intro h
    cases h with
    | name hmem => rw [(field?_eq_some_iff hnodup).2 hmem]
    | otherName hnone hmem =>
        rw [field?_eq_none_iff.2 hnone, (field?_eq_some_iff hnodup).2 hmem]
        rfl
  · intro h
    cases hname : Document.field? entries field.name with
    | some found =>
        rw [hname] at h
        cases h
        exact .name ((field?_eq_some_iff hnodup).1 hname)
    | none =>
        rw [hname] at h
        obtain ⟨found, hfound, hsame⟩ := Option.map_eq_some_iff.1 h
        cases hsame
        exact .otherName (field?_eq_none_iff.1 hname) ((field?_eq_some_iff hnodup).1 hfound)

theorem Field.find?_eq_none (hnodup : (entries.map Prod.fst).Nodup)
    (h : ∀ spelling value, ¬ field.Counts entries spelling value) :
    field.find? entries = none := by
  cases hfind : field.find? entries with
  | none => rfl
  | some found => exact absurd ((counts_iff hnodup).2 hfind) (h found.1 found.2)

end Counts

/-! ## Limits by their keys -/

section Limits

variable {value : Document}

theorem keyTexts?_cons_of_not_isText {key : Scalar} (h : ¬ key.IsText) (keys : List Scalar) :
    keyTexts? (key :: keys) = none := by
  cases key with
  | text t => exact absurd (.inl ⟨t, rfl⟩) h
  | codes ns => exact absurd (.inr ⟨ns, rfl⟩) h
  | _ => rfl

theorem keyTexts?_cons_of_none {keys : List Scalar} (h : keyTexts? keys = none)
    (key : Scalar) : keyTexts? (key :: keys) = none := by
  cases key with
  | text t => rw [keyTexts?, h]; rfl
  | codes ns => rw [keyTexts?, h]; rfl
  | _ => rfl

theorem keyTexts?_eq_none {keys : List Scalar} {key : Scalar} (hmem : key ∈ keys)
    (hkey : ¬ key.IsText) : keyTexts? keys = none := by
  induction keys with
  | nil => cases hmem
  | cons first keys ih =>
      rcases List.mem_cons.1 hmem with rfl | hlater
      · exact keyTexts?_cons_of_not_isText hkey keys
      · exact keyTexts?_cons_of_none (ih hlater) first

theorem exists_keyTexts? {keys : List Scalar} (h : ∀ key ∈ keys, key.IsText) :
    ∃ texts, keyTexts? keys = some texts ∧ texts.length = keys.length := by
  induction keys with
  | nil => exact ⟨[], rfl, rfl⟩
  | cons key keys ih =>
      obtain ⟨hkey, hlater⟩ := List.forall_mem_cons.1 h
      obtain ⟨texts, htexts, hlength⟩ := ih hlater
      rcases hkey with ⟨t, rfl⟩ | ⟨ns, rfl⟩
      · exact ⟨t :: texts, by rw [keyTexts?, htexts]; rfl, congrArg (· + 1) hlength⟩
      · exact ⟨Text.readable ns :: texts, by rw [keyTexts?, htexts]; rfl,
          congrArg (· + 1) hlength⟩

/-- The name of a bound is a text. -/
theorem isBoundName_eq_false {key : Scalar} (h : ∀ t, key ≠ .text t) :
    isBoundName key = false := by
  rw [isBoundName, List.any_eq_false]
  intro bound _ hsame
  exact h _ (Scalar.same_text_iff.1 hsame)

/-- With a key that is no text, the reading of limits breaks off. -/
theorem readLimits_of_hasOtherKey (h : value.HasOtherKey) :
    readLimits value = .error .unnamed := by
  obtain ⟨entries, key, inner, rfl, hmem, hkey⟩ := h
  have hunknown : isBoundName key = false :=
    isBoundName_eq_false fun t ht => hkey (.inl ⟨t, ht⟩)
  have hfiltered : key ∈ (entries.map (·.1)).filter (!isBoundName ·) :=
    List.mem_filter.2 ⟨List.mem_map_of_mem hmem, by rw [hunknown]; rfl⟩
  rw [readLimits, keyTexts?_eq_none hfiltered hkey]

/-- Code points that are no text are no bound, and are refused with the unknown keys. -/
theorem readLimits_of_codes {entries : List (Scalar × Document)} {ns : List Nat}
    {inner : Document} (hno : ¬ (Document.mapping entries).HasOtherKey)
    (hmem : (.codes ns, inner) ∈ entries) :
    ∃ fault, readLimits (.mapping entries) = .error fault ∧ fault ≠ .unnamed := by
  have htexts : ∀ key ∈ (entries.map (·.1)).filter (!isBoundName ·), key.IsText := by
    intro key hkey
    obtain ⟨entry, hentry, rfl⟩ := List.mem_map.1 (List.mem_filter.1 hkey).1
    by_contra hnot
    exact hno ⟨entries, entry.1, entry.2, rfl, hentry, hnot⟩
  have hunknown : isBoundName (.codes ns) = false := isBoundName_eq_false fun t h => by cases h
  have hcodes : Scalar.codes ns ∈ (entries.map (·.1)).filter (!isBoundName ·) :=
    List.mem_filter.2 ⟨List.mem_map_of_mem hmem, by rw [hunknown]; rfl⟩
  obtain ⟨texts, hsome, hlength⟩ := exists_keyTexts? htexts
  cases texts with
  | nil =>
      rw [List.eq_nil_of_length_eq_zero hlength.symm] at hcodes
      cases hcodes
  | cons text texts =>
      rw [readLimits, hsome]
      exact ⟨_, rfl, fun h => by cases h⟩

/-- Limits whose keys are texts are read to the end: to limits if they can be such, and else
to a fault. -/
theorem readLimits_of_textKeys (hkeyed : value.Keyed) (hno : ¬ value.HasOtherKey) :
    (∃ limits, readLimits value = .ok limits ∧ value.AdmitsLimits ∧
      GivesLimits value (.ok limits)) ∨
    ∃ fault, readLimits value = .error fault ∧ fault ≠ .unnamed ∧ ¬ value.AdmitsLimits := by
  by_cases hcodes : ∃ entries ns inner, value = .mapping entries ∧ (.codes ns, inner) ∈ entries
  · obtain ⟨entries, ns, inner, rfl, hmem⟩ := hcodes
    obtain ⟨fault, hfault, hnamed⟩ := readLimits_of_codes hno hmem
    refine .inr ⟨fault, hfault, hnamed, ?_⟩
    rintro (hvalue | ⟨_, hvalue⟩ | ⟨_, ⟨⟩, hall⟩)
    · cases hvalue
    · cases hvalue
    · obtain ⟨bound, hkey, _⟩ := hall _ inner hmem
      cases hkey
  · have htext : value.TextKeyed := by
      rintro entries rfl
      obtain _ | _ | ⟨hdistinct, _⟩ := hkeyed
      refine ⟨?_, hdistinct.nodup⟩
      intro key hkey
      obtain ⟨entry, hentry, rfl⟩ := List.mem_map.1 hkey
      by_cases hkey : entry.1.IsText
      · rcases hkey with htext | ⟨ns, hns⟩
        · exact htext
        · exact absurd ⟨entries, ns, entry.2, rfl, hns ▸ hentry⟩ hcodes
      · exact absurd ⟨entries, entry.1, entry.2, rfl, hentry, hkey⟩ hno
    obtain ⟨outcome, hgives⟩ := exists_givesLimits value htext
    have hread := readLimits_of_givesLimits hgives htext
    have hiff := hgives.isOk_iff htext
    cases outcome with
    | ok limits => exact .inl ⟨limits, hread, hiff.1 ⟨limits, rfl⟩, hgives⟩
    | error fault =>
        refine .inr ⟨fault, hread, fun h => hgives.ne_unnamed (congrArg _ h), fun hadmits => ?_⟩
        obtain ⟨limits, hlimits⟩ := hiff.2 hadmits
        cases hlimits

end Limits

/-! ## The fields together -/

section Fields

variable {α ε : Type} {field : Field α} {reader : Document → Except ε α}
  {entries : List (Scalar × Document)}

/-- A field cannot be read if its value cannot. -/
theorem Field.read_eq_error_iff (hnodup : (entries.map Prod.fst).Nodup) {spelling : String}
    {fault : ε} : field.read reader entries = .error (spelling, fault) ↔
      ∃ value, field.Counts entries spelling value ∧ reader value = .error fault := by
  simp only [counts_iff hnodup, read]
  cases hfind : field.find? entries with
  | none => simp
  | some found =>
      obtain ⟨name, value⟩ := found
      cases hvalue : reader value with
      | error other => simp [hvalue]
      | ok value' => simp [hvalue]

/-- What is read of a field is what is read of its value, or the default. -/
theorem Field.of_read_eq_ok (hnodup : (entries.map Prod.fst).Nodup) {found : α}
    (h : field.read reader entries = .ok found) :
    (∀ spelling value, field.Counts entries spelling value → reader value = .ok found) ∧
    ((∀ spelling value, ¬ field.Counts entries spelling value) → found = field.default) := by
  constructor
  · intro spelling value hcounts
    rw [read, (counts_iff hnodup).1 hcounts] at h
    exact eq_ok_of_mapError h
  · intro hnone
    rw [read, find?_eq_none hnodup hnone] at h
    exact (Except.ok.inj h).symm

end Fields

section Entries

variable {library : RecordLibrary} {entries : List (Scalar × Document)}

/-- The keys that are left are those under which no field has its value. -/
theorem mem_unused_iff (hnodup : (entries.map Prod.fst).Nodup) {key : Scalar} :
    key ∈ Config.declaration.unused entries ↔
      (∃ value, (key, value) ∈ entries) ∧ ¬ IsFieldKey entries key := by
  have hused : (Config.declaration.used entries).any
      (fun name => key.same (.text name.toList)) = true ↔ IsFieldKey entries key := by
    have hfield {α : Type} (field : Field α) (name : String) :
        name ∈ ((field.find? entries).map (·.1)).toList ↔
          ∃ value, field.Counts entries name value := by
      simp [Field.counts_iff hnodup]
    simp only [List.any_eq_true, Declaration.used, List.mem_append, hfield,
      Scalar.same_text_iff]
    constructor
    · rintro ⟨spelling, ⟨value, hcounts⟩ | ⟨value, hcounts⟩, hkey⟩
      · exact ⟨spelling, value, hkey, .inl hcounts⟩
      · exact ⟨spelling, value, hkey, .inr hcounts⟩
    · rintro ⟨spelling, value, hkey, hcounts | hcounts⟩
      · exact ⟨spelling, .inl ⟨value, hcounts⟩, hkey⟩
      · exact ⟨spelling, .inr ⟨value, hcounts⟩, hkey⟩
  rw [Declaration.unused, otherKeys, List.mem_filter, List.mem_map, ← hused]
  simp

/-- What reads the limits raises what is not reported if a key of theirs is no text, and only
then. -/
theorem read_limits_eq_typeError_iff (hkeyed : (Document.mapping entries).Keyed) :
    (∃ spelling, limitsField.read Config.declaration.readLimits entries =
      .error (spelling, .typeError)) ↔ HasUnnamedLimit entries := by
  simp only [Field.read_eq_error_iff hkeyed.nodup]
  constructor
  · rintro ⟨spelling, value, hcounts, hread⟩
    refine ⟨spelling, value, hcounts, ?_⟩
    by_contra hno
    rcases readLimits_of_textKeys (hkeyed.of_mem hcounts.mem) hno with
      ⟨limits, hlimits, _⟩ | ⟨fault, hfault, hnamed, _⟩
    · rw [Config.declaration_readLimits, hlimits] at hread
      cases hread
    · obtain ⟨message, hmessage⟩ := LimitsFault.exists_message hnamed
      rw [Config.declaration_readLimits, hfault, mapError_error, hmessage] at hread
      cases hread
  · rintro ⟨spelling, value, hcounts, hother⟩
    refine ⟨spelling, value, hcounts, ?_⟩
    rw [Config.declaration_readLimits, readLimits_of_hasOtherKey hother]
    rfl

/-- Limits that count are read to the end, if none are given with a key that is no text. -/
theorem readLimits_of_counts (hkeyed : (Document.mapping entries).Keyed)
    (hnamed : ¬ HasUnnamedLimit entries) {spelling : String} {value : Document}
    (hcounts : limitsField.Counts entries spelling value) :
    (∃ limits, readLimits value = .ok limits ∧ value.AdmitsLimits ∧
      GivesLimits value (.ok limits)) ∨
    ∃ fault, readLimits value = .error fault ∧ fault ≠ .unnamed ∧ ¬ value.AdmitsLimits :=
  readLimits_of_textKeys (hkeyed.of_mem hcounts.mem)
    fun hother => hnamed ⟨spelling, value, hcounts, hother⟩

/-- If both fields are read and no key is left, a configuration with what is read of the fields
is given. -/
theorem givesConfig_of_read (hkeyed : (Document.mapping entries).Keyed)
    (hnamed : ¬ HasUnnamedLimit entries) {config : Config}
    (hfold : caseFoldField.read library.truth entries = .ok config.caseFold)
    (hlimits : limitsField.read Config.declaration.readLimits entries =
      .ok config.expressionLimits)
    (hunused : Config.declaration.unused entries = []) :
    GivesConfig library entries config := by
  have hnodup := hkeyed.nodup
  obtain ⟨hfoldValue, hfoldDefault⟩ := Field.of_read_eq_ok hnodup hfold
  obtain ⟨hlimitsValue, hlimitsDefault⟩ := Field.of_read_eq_ok hnodup hlimits
  refine ⟨?_, hfoldValue, hfoldDefault, ?_, hlimitsDefault⟩
  · intro key value hmem
    by_contra hnot
    have hkey := (mem_unused_iff hnodup).2 ⟨⟨value, hmem⟩, hnot⟩
    rw [hunused] at hkey
    cases hkey
  · intro spelling value hcounts
    have hread : readLimits value = .ok config.expressionLimits :=
      eq_ok_of_mapError (hlimitsValue spelling value hcounts)
    rcases readLimits_of_counts hkeyed hnamed hcounts with
      ⟨limits, hok, hadmits, hgives⟩ | ⟨fault, herror, _⟩
    · rw [hok] at hread
      cases hread
      exact ⟨hadmits, hgives⟩
    · rw [herror] at hread
      cases hread

/-- What is to be reported of a record is what cannot be among its entries. -/
theorem mem_issues_iff_issueOf (hkeyed : (Document.mapping entries).Keyed)
    (hnamed : ¬ HasUnnamedLimit entries) {issue : Issue} :
    issue ∈ library.issues Config.declaration entries ↔ IssueOf library entries issue := by
  have hnodup := hkeyed.nodup
  rw [RecordLibrary.mem_issues]
  simp only [Field.read_eq_error_iff hnodup, mem_unused_iff hnodup]
  constructor
  · rintro (⟨spelling, code, message, ⟨value, hcounts, hvalue⟩, rfl⟩ |
      ⟨spelling, message, ⟨value, hcounts, hvalue⟩, rfl⟩ | ⟨key, ⟨⟨value, hmem⟩, hnot⟩, rfl⟩)
    · exact .caseFold hcounts hvalue
    · rcases readLimits_of_counts hkeyed hnamed hcounts with
        ⟨limits, hok, _⟩ | ⟨fault, herror, _, hnot⟩
      · rw [Config.declaration_readLimits, hok] at hvalue
        cases hvalue
      · rw [Config.declaration_readLimits, herror, mapError_error] at hvalue
        exact .limits hcounts hnot herror (Except.error.inj hvalue)
    · exact .key hmem hnot
  · intro h
    cases h with
    | caseFold hcounts hvalue => exact .inl ⟨_, _, _, ⟨_, hcounts, hvalue⟩, rfl⟩
    | limits hcounts _ hread hmessage =>
        refine .inr (.inl ⟨_, _, ⟨_, hcounts, ?_⟩, rfl⟩)
        rw [Config.declaration_readLimits, hread, mapError_error, hmessage]
    | key hmem hnot => exact .inr (.inr ⟨_, ⟨⟨_, hmem⟩, hnot⟩, rfl⟩)

/-- **The entries of a mapping.**  They give a configuration, or issues with all keys and
values that cannot be; or limits with a key that is no text are given, and the reading breaks
off. -/
theorem Config.validate_outcome {ε : Type} (hlawful : library.Lawful)
    (hkeyed : (Document.mapping entries).Keyed) :
    Loads library (.mapping entries)
      ((Config.validate library entries).mapError (.config : ConfigFault → LoadFault ε)) := by
  by_cases hnamed : HasUnnamedLimit entries
  · obtain ⟨spelling, hread⟩ := (read_limits_eq_typeError_iff hkeyed).2 hnamed
    have hraised : library.validate declaration entries = .error .typeError :=
      hlawful.raises hread
    rw [validate, hraised]
    exact .unnamed hnamed
  · have hreported : ∀ spelling,
        declaration.expressionLimits.read declaration.readLimits entries ≠
          .error (spelling, .typeError) :=
      not_exists.1 fun h => hnamed ((read_limits_eq_typeError_iff hkeyed).1 h)
    rcases hlawful.validate_cases hreported with
      ⟨config, hconfig, _, hfold, hlimits, hunused⟩ | ⟨issues, hissues, hne, hperm⟩
    · rw [validate, hconfig]
      exact .config (givesConfig_of_read hkeyed hnamed hfold hlimits hunused)
    · rw [validate, hissues]
      exact .invalid hnamed hne fun issue =>
        hperm.mem_iff.trans (mem_issues_iff_issueOf hkeyed hnamed)

end Entries

/-! ## Loading -/

section Loading

variable {ε : Type} {library : RecordLibrary}

/-- What gives a configuration has no limits with a key that is no text. -/
theorem GivesConfig.not_hasUnnamedLimit {entries : List (Scalar × Document)} {config : Config}
    (h : GivesConfig library entries config) : ¬ HasUnnamedLimit entries := by
  rintro ⟨spelling, value, hcounts, inner, key, cap, rfl, hmem, hkey⟩
  rcases (h.limits spelling _ hcounts).1 with hnull | ⟨_, hlimits⟩ | ⟨_, ⟨⟩, hall⟩
  · cases hnull
  · cases hlimits
  · obtain ⟨bound, rfl, _⟩ := hall key cap hmem
    exact hkey (.inl ⟨bound.key, rfl⟩)

/-- A record of nothing has the defaults. -/
theorem Config.validate_nil (hlawful : library.Lawful) :
    Config.validate library [] = .ok {} :=
  hlawful.accepts rfl rfl rfl

/-- **Loading.**  Let a text be read as a document in which no mapping has a key twice, and let
the library of records keep its contract.  The text gives a configuration, which is the
default one for the absent value; or it is refused, because the document is no mapping, or with
an issue for each key and value that cannot be.  Only if limits are given with a key that is no
text does the loading break off without any of these. -/
theorem Config.load_outcome {read : Text → Except ε Document} (hlawful : library.Lawful)
    {text : Text} {document : Document} (hread : read text = .ok document)
    (hkeyed : document.Keyed) :
    Loads library document (Config.load read library text) ∧
    (Config.load read library text = .error (.config .typeError) ↔
      ∃ entries, document = .mapping entries ∧ HasUnnamedLimit entries) := by
  have hloads : Loads library document (Config.load read library text) := by
    rw [load, hread]
    cases document with
    | scalar s =>
        cases s with
        | null =>
            simp only [mapError_ok, ok_bind, validate_nil hlawful]
            exact .null
        | _ => exact .notMapping nofun nofun
    | mapping entries => exact validate_outcome hlawful hkeyed
    | _ => exact .notMapping nofun nofun
  refine ⟨hloads, ?_⟩
  constructor
  · intro hload
    rw [hload] at hloads
    cases hloads with
    | unnamed hnamed => exact ⟨_, rfl, hnamed⟩
  · rintro ⟨entries, rfl, hnamed⟩
    generalize Config.load read library text = outcome at hloads
    cases hloads with
    | notMapping _ hnot => exact absurd rfl (hnot entries)
    | config hgives => exact absurd hnamed hgives.not_hasUnnamedLimit
    | invalid hnot => exact absurd hnamed hnot
    | unnamed _ => rfl

/-- Whether a loading broke off. -/
def isTypeError : Except (LoadFault ε) Config → Bool
  | .error (.config .typeError) => true
  | _ => false

theorem eq_of_isTypeError {outcome : Except (LoadFault ε) Config}
    (h : isTypeError outcome = true) : outcome = .error (.config .typeError) := by
  unfold isTypeError at h
  split at h
  · rfl
  · cases h

/-- What is refused for its entries is a document. -/
theorem exists_document_of_load {read : Text → Except ε Document} {text : Text}
    {fault : ConfigFault} (h : Config.load read library text = .error (.config fault)) :
    ∃ document, read text = .ok document := by
  rw [Config.load] at h
  cases hread : read text with
  | error unreadable =>
      rw [hread] at h
      cases h
  | ok document => exact ⟨document, rfl⟩

/-- Unknown limits under a text and under a number: the text is a document, and the loading
breaks off. -/
theorem Config.load_outcome_mixed_keys :
    ∃ entries, Yaml.load "expressionLimits: \x7bab: 1, 2: 3\x7d".toList =
        .ok (.mapping entries) ∧ (Document.mapping entries).Keyed ∧
      RecordLibrary.usual.Lawful ∧ HasUnnamedLimit entries ∧
      Config.load Yaml.load .usual "expressionLimits: \x7bab: 1, 2: 3\x7d".toList =
        .error (.config .typeError) := by
  have hload : Config.load Yaml.load .usual "expressionLimits: \x7bab: 1, 2: 3\x7d".toList =
      .error (.config .typeError) := eq_of_isTypeError (by decide +kernel)
  obtain ⟨document, hread⟩ := exists_document_of_load hload
  have hkeyed := Yaml.keyed_of_load hread
  obtain ⟨_, hunnamed⟩ := Config.load_outcome RecordLibrary.usual_lawful hread hkeyed
  obtain ⟨entries, rfl, hnamed⟩ := hunnamed.1 hload
  exact ⟨entries, hread, hkeyed, RecordLibrary.usual_lawful, hnamed, hload⟩

/-- A limit under the number 1 is refused with no issue. -/
theorem Config.load_numbered_limit :
    Config.load Yaml.load .usual "expressionLimits:\n  1: 2\n".toList =
      .error (.config .typeError) :=
  eq_of_isTypeError (by decide +kernel)

end Loading

end Formula
