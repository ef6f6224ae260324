import Formula.Token
import Formula.Text.Lowercase

/-!
# Characters in lower case

Apart from its neighbours, a character has one character as its lower-case form, of the same
kind and in lower case already.  There is one exception, the capital I with a dot above.

These are facts about two tables.  They are checked by runs and ranges, not by characters: a
run of capitals that lies within one range of letters, or misses them all, needs a look at
its two ends only.  The checks are Boolean functions on numbers, which the kernel evaluates
fast.

## Main results

* `inRanges_of_spanIn`: all numbers of an interval are in the ranges, or none is.
* `exists_lowerChar`: the lower-case form of a character.
-/

namespace Formula.Text

/-! ## Intervals and ranges -/

/-- Whether the interval from `low` to `high` is within one of the ranges; `none` if it is
partly. -/
def spanIn : List (Nat × Nat) → Nat → Nat → Option Bool
  | [], _, _ => some false
  | (first, last) :: later, low, high =>
    bif Nat.blt last low then spanIn later low high
    else bif Nat.ble first low && Nat.ble high last then some true
    else bif Nat.blt high first then some false
    else none

theorem inRanges_of_spanIn {ranges : List (Nat × Nat)}
    (hranges : ∀ range ∈ ranges, range.1 ≤ range.2) {low high n : Nat} {inside : Bool}
    (h : spanIn ranges low high = some inside) (hlow : low ≤ n) (hhigh : n ≤ high) :
    inRanges ranges n = inside := by
  induction ranges with
  | nil =>
      cases h
      rfl
  | cons range later ih =>
      obtain ⟨first, last⟩ := range
      have hfirst : first ≤ last := hranges (first, last) (by simp)
      simp only [spanIn, cond_eq_ite, Bool.and_eq_true, Nat.blt_eq, Nat.ble_eq] at h
      rw [inRanges]
      split at h
      · rw [if_neg (by omega), decide_eq_false (by omega), Bool.false_or]
        exact ih (fun range hrange => hranges range (by simp [hrange])) h
      · split at h
        · cases h
          rw [if_neg (by omega), decide_eq_true (by omega), Bool.true_or]
        · split at h
          · cases h
            rw [if_pos (by omega)]
          · cases h

/-! ## Runs of capitals -/

namespace CaseRun

/-- The capitals of a run. -/
def codes (run : CaseRun) : List Nat :=
  (List.range ((run.last - run.first) / run.stride + 1)).map (run.first + run.stride * ·)

theorem bounds_of_contains {run : CaseRun} {n : Nat} (h : run.contains n = true) :
    run.first ≤ n ∧ n ≤ run.last := by
  simp only [contains, Bool.and_eq_true, decide_eq_true_eq] at h
  exact h.1

theorem mem_codes {run : CaseRun} {n : Nat} (h : run.contains n = true) : n ∈ run.codes := by
  obtain ⟨hfirst, hlast⟩ := bounds_of_contains h
  simp only [contains, Bool.and_eq_true, beq_iff_eq] at h
  refine List.mem_map.2 ⟨(n - run.first) / run.stride, ?_, ?_⟩
  · rw [List.mem_range, Nat.lt_succ_iff]
    exact Nat.div_le_div_right (by omega)
  · have hsplit := Nat.div_add_mod (n - run.first) run.stride
    omega

/-- The small letters of a run lie in an interval. -/
theorem lower_bounds {run : CaseRun} {n : Nat} (h : run.contains n = true) :
    run.target ≤ run.lower n ∧ run.lower n ≤ run.lower run.last := by
  obtain ⟨hfirst, hlast⟩ := bounds_of_contains h
  unfold lower
  omega

/-- Whether a run is the sign of the kelvin, the one capital beyond the first 128 characters
whose small letter is among them. -/
def isKelvin (run : CaseRun) : Bool :=
  Nat.beq run.first 0x212A && Nat.beq run.last 0x212A && Nat.beq run.target 0x6B

/-- Whether the small letters of a run are characters beyond the first 128, and the capital
that is no single letter in lower case is not one of them. -/
def inBounds (run : CaseRun) : Bool :=
  Nat.ble 128 run.target &&
    (Nat.blt (run.lower run.last) 0x130 || Nat.blt 0x130 run.target) &&
    (Nat.blt (run.lower run.last) 0xD800 ||
      Nat.blt 0xDFFF run.target && Nat.blt (run.lower run.last) 0x110000)

/-- Whether the small letters of a run are letters exactly if its capitals are. -/
def keepsKind (run : CaseRun) : Bool :=
  (match spanIn alphanumericRanges run.first run.last,
      spanIn alphanumericRanges run.target (run.lower run.last) with
    | some capitals, some letters => capitals == letters
    | _, _ => false) ||
  run.codes.all fun n =>
    inRanges alphanumericRanges (run.lower n) == inRanges alphanumericRanges n

/-- Whether no small letter of a run is a capital of another one. -/
def misses (run other : CaseRun) : Bool :=
  Nat.blt (run.lower run.last) other.first || Nat.blt other.last run.target ||
    run.codes.all fun n => !other.contains (run.lower n)

theorem contains_of_misses {run other : CaseRun} {n : Nat} (h : run.misses other = true)
    (hn : run.contains n = true) : other.contains (run.lower n) = false := by
  obtain ⟨htarget, hlower⟩ := lower_bounds hn
  simp only [misses, Bool.or_eq_true, Nat.blt_eq, List.all_eq_true, Bool.not_eq_true'] at h
  rcases h with (h | h) | h
  · refine Bool.eq_false_iff.2 fun hother => ?_
    have := bounds_of_contains hother
    omega
  · refine Bool.eq_false_iff.2 fun hother => ?_
    have := bounds_of_contains hother
    omega
  · exact h n (mem_codes hn)

end CaseRun

/-! ## The tables -/

theorem le_of_mem_alphanumericRanges : ∀ range ∈ alphanumericRanges, range.1 ≤ range.2 := by
  decide +kernel

theorem lowercaseRuns_inBounds :
    (lowercaseRuns.all fun run => run.isKelvin || run.inBounds) = true := by
  decide +kernel

theorem lowercaseRuns_keepsKind :
    (lowercaseRuns.all fun run => run.isKelvin || run.keepsKind) = true := by
  decide +kernel

theorem lowercaseRuns_misses :
    (lowercaseRuns.all fun run => lowercaseRuns.all run.misses) = true := by
  decide +kernel

/-! ## Characters -/

/-- `LowersTo c d` says that `d` is of the kind of `c` and has itself as its lower-case
form. -/
structure LowersTo (c d : Char) : Prop where
  term : isTermChar d = isTermChar c
  blank : isBlank d = isBlank c
  settled : lowerChar d = [d]

theorem isTermChar_of_le {c : Char} (h : 128 ≤ c.toNat) :
    isTermChar c = inRanges alphanumericRanges c.toNat := by
  have hdot : (c == '.') = false := by
    rw [beq_eq_false_iff_ne]
    rintro rfl
    exact absurd h (by decide)
  rw [isTermChar, hdot, Bool.false_or, isAlphanumeric, if_neg (by omega)]

theorem isBlank_of_le {c : Char} (h : 128 ≤ c.toNat) : isBlank c = false := by
  rw [isBlank, Bool.or_eq_false_iff, beq_eq_false_iff_ne, beq_eq_false_iff_ne]
  constructor
  · rintro rfl
    exact absurd h (by decide)
  · rintro rfl
    exact absurd h (by decide)

theorem lowersTo_ascii : ∀ n < 128,
    isTermChar (Char.ofNat n).toLower = isTermChar (Char.ofNat n) ∧
    isBlank (Char.ofNat n).toLower = isBlank (Char.ofNat n) ∧
    lowerChar (Char.ofNat n).toLower = [(Char.ofNat n).toLower] := by
  decide +kernel

theorem toNat_ofNat {n : Nat} (h : n.isValidChar) : (Char.ofNat n).toNat = n := by
  rw [Char.ofNat, dif_pos h]
  rfl

theorem inRanges_of_keepsKind {run : CaseRun} {n : Nat} (h : run.keepsKind = true)
    (hn : run.contains n = true) :
    inRanges alphanumericRanges (run.lower n) = inRanges alphanumericRanges n := by
  obtain ⟨hfirst, hlast⟩ := CaseRun.bounds_of_contains hn
  obtain ⟨htarget, hlower⟩ := CaseRun.lower_bounds hn
  rcases Bool.or_eq_true_iff.1 h with hspans | hcodes
  · split at hspans
    · rename_i capitals letters hcapitals hletters
      rw [inRanges_of_spanIn le_of_mem_alphanumericRanges hletters htarget hlower,
        inRanges_of_spanIn le_of_mem_alphanumericRanges hcapitals hfirst hlast]
      exact (beq_iff_eq.1 hspans).symm
    · cases hspans
  · exact beq_iff_eq.1 (List.all_eq_true.1 hcodes n (CaseRun.mem_codes hn))

theorem lowersTo_of_isKelvin {run : CaseRun} (h : run.isKelvin = true) {c : Char}
    (hcontains : run.contains c.toNat = true) :
    LowersTo c (Char.ofNat (run.lower c.toNat)) := by
  obtain ⟨hfirst, hlast⟩ := CaseRun.bounds_of_contains hcontains
  simp only [CaseRun.isKelvin, Bool.and_eq_true, Nat.beq_eq] at h
  have hcode : c.toNat = 0x212A := by omega
  have hsmall : run.lower c.toNat = 0x6B := by
    rw [CaseRun.lower]
    omega
  rw [hsmall, ← Char.ofNat_toNat c, hcode]
  exact ⟨by decide +kernel, by decide +kernel, by decide +kernel⟩

/-- A capital of a run and its small letter. -/
theorem lowersTo_of_contains {run : CaseRun} (hrun : run ∈ lowercaseRuns) {c : Char}
    (hc : 128 ≤ c.toNat) (hcontains : run.contains c.toNat = true) :
    LowersTo c (Char.ofNat (run.lower c.toNat)) := by
  have hbounds := List.all_eq_true.1 lowercaseRuns_inBounds run hrun
  have hkind := List.all_eq_true.1 lowercaseRuns_keepsKind run hrun
  have hmisses := List.all_eq_true.1 (List.all_eq_true.1 lowercaseRuns_misses run hrun)
  by_cases hkelvin : run.isKelvin = true
  · exact lowersTo_of_isKelvin hkelvin hcontains
  · replace hbounds := (Bool.or_eq_true_iff.1 hbounds).resolve_left hkelvin
    replace hkind := (Bool.or_eq_true_iff.1 hkind).resolve_left hkelvin
    simp only [CaseRun.inBounds, Bool.and_eq_true, Bool.or_eq_true, Nat.ble_eq,
      Nat.blt_eq] at hbounds
    obtain ⟨htarget, hlower⟩ := CaseRun.lower_bounds hcontains
    -- The small letter is a character, and it is beyond the first 128.
    have hcode : (Char.ofNat (run.lower c.toNat)).toNat = run.lower c.toNat :=
      toNat_ofNat (by unfold Nat.isValidChar; omega)
    have hle : 128 ≤ (Char.ofNat (run.lower c.toNat)).toNat := by omega
    have hnone : lowercaseRuns.find? (·.contains (run.lower c.toNat)) = none := by
      refine List.find?_eq_none.2 fun other hother => ?_
      rw [CaseRun.contains_of_misses (hmisses other hother) hcontains]
      exact Bool.false_ne_true
    refine ⟨?_, ?_, ?_⟩
    · rw [isTermChar_of_le hle, isTermChar_of_le hc, hcode,
        inRanges_of_keepsKind hkind hcontains]
    · rw [isBlank_of_le hle, isBlank_of_le hc]
    · rw [lowerChar, hcode, if_neg (by omega), if_neg (by omega), hnone]

/-- The lower-case form of a character apart. -/
theorem exists_lowerChar {c : Char} (hc : c.toNat ≠ 0x130) :
    ∃ d, lowerChar c = [d] ∧ LowersTo c d := by
  by_cases hsmall : c.toNat < 128
  · obtain ⟨hterm, hblank, hsettled⟩ := lowersTo_ascii c.toNat hsmall
    rw [Char.ofNat_toNat] at hterm hblank hsettled
    refine ⟨c.toLower, ?_, hterm, hblank, hsettled⟩
    rw [lowerChar, if_pos hsmall]
  · cases hfind : lowercaseRuns.find? (·.contains c.toNat) with
    | none =>
        have hlower : lowerChar c = [c] := by
          rw [lowerChar, if_neg hsmall, if_neg hc, hfind]
        exact ⟨c, hlower, rfl, rfl, hlower⟩
    | some run =>
        have hcontains : run.contains c.toNat = true := by simpa using List.find?_some hfind
        refine ⟨Char.ofNat (run.lower c.toNat), ?_, ?_⟩
        · rw [lowerChar, if_neg hsmall, if_neg hc, hfind]
        · exact lowersTo_of_contains (List.mem_of_find?_eq_some hfind)
            (Nat.le_of_not_lt hsmall) hcontains

end Formula.Text
