import Mathlib
import Formula.Operation.Apply

/-!
# The sign of a difference

The difference of two doubles is rounded, so it is not the exact one.  Its sign is, unless
it is out of range: the least double is as small as an exact difference other than zero can
be, so nothing is rounded to zero, and rounding does not change a sign.

A double other than zero is a mantissa of 53 bits and an exponent, where the mantissa is
full unless the exponent is the least one.  Such pairs compare by their exponents first.  A
subtraction brings both mantissas to the smaller exponent instead, where they compare as
numbers; that these are the same comparison is what carries the result.

## Main results

* `canonical_of_unpack`: what mantissas and exponents doubles have.
* `signed_round`: a number that is rounded keeps its sign.
* `compare_sub`: a difference in range is to zero as the left side is to the right one.
* `abs_sub_le_zero`, `sub_gt_zero`, `sub_lt_zero`: the three tests of a difference.
-/

namespace Formula.Number

open Float.Model Float.Model.UnpackedFloat

/-! ## Mantissas and exponents -/

/-- The mantissas and exponents of doubles.  A mantissa has 53 bits, unless the exponent is
the least one. -/
structure Canonical (mantissa : Nat) (exponent : Int) : Prop where
  below : mantissa < 2 ^ 53
  least : -1074 ≤ exponent
  full : exponent = -1074 ∨ 2 ^ 52 ≤ mantissa

theorem canonical_of_unpack {bits : Float.Model} {sign : Sign} {mantissa : Nat}
    {exponent : Int} {hpos : 0 < mantissa}
    (h : bits.unpack = .finite sign mantissa exponent hpos) : Canonical mantissa exponent := by
  have hbias : (Format.binary64.exponentBias : Int) + 52 = 1075 := by decide
  have hfraction := (@unpackMantissa Format.binary64 bits.toBits.toBitVec).isLt
  -- The field of the exponent tells exceptions, small numbers and full mantissas apart.
  unfold Float.Model.unpack UnpackedFloat.unpack at h
  simp only at h
  split at h
  · split at h <;> cases h
  · split at h
    · rename_i hzero
      split at h
      · cases h
      · cases h
        rw [hzero]
        refine ⟨Nat.lt_of_lt_of_le hfraction (by decide), ?_, .inl ?_⟩
        · show -1074 ≤ ((0 : Nat) : Int) - _ + 1
          omega
        · show ((0 : Nat) : Int) - _ + 1 = _
          omega
    · rename_i hnonzero
      cases h
      have hexponent :
          (@unpackExponent Format.binary64 bits.toBits.toBitVec).toNat ≠ 0 :=
        fun hnat => hnonzero (BitVec.eq_of_toNat_eq hnat)
      refine ⟨BitVec.isLt _, ?_, .inr ?_⟩
      · show -1074 ≤ _ - _
        omega
      · rw [BitVec.toNat_append]
        exact Nat.left_le_or

/-! ## What is packed keeps its sign -/

/-- `Signed sign x` says that `x` is on one side of zero, perhaps infinitely far. -/
inductive Signed (sign : Sign) : UnpackedFloat → Prop where
  | infinity : Signed sign (.infinity sign)
  | finite (mantissa : Nat) (exponent : Int) (hpos : 0 < mantissa) :
    Signed sign (.finite sign mantissa exponent hpos)

theorem unpackSign_packComponents {spec : Format} (sign : Sign)
    (exponent : BitVec spec.exponentBits) (fraction : BitVec spec.mantissaBitsWithoutImplicit) :
    unpackSign (packComponents spec sign exponent fraction) = sign.toBitVec := by
  ext i hi
  obtain rfl : i = 0 := by omega
  have hfraction : ¬ spec.mantissaBitsWithoutImplicit + spec.exponentBits <
      spec.mantissaBitsWithoutImplicit := by omega
  simp [unpackSign, packComponents, BitVec.getLsbD_append, BitVec.getElem_append, hfraction]

theorem ofBitVec_toBitVec (sign : Sign) : Sign.ofBitVec sign.toBitVec = sign := by
  cases sign <;> rfl

/-- A pattern of neither zero nor an exception is a number of the given sign. -/
theorem signed_unpack {sign : Sign} {exponent : BitVec 11} {fraction : BitVec 52}
    (hexponent : exponent ≠ -1#11) (hzero : exponent = 0#11 → fraction ≠ 0#52) :
    Signed sign (UnpackedFloat.unpack Format.binary64
      (packComponents Format.binary64 sign exponent fraction)) := by
  unfold UnpackedFloat.unpack
  simp only [unpackExponent_packComponents, unpackMantissa_packComponents,
    unpackSign_packComponents, ofBitVec_toBitVec, if_neg hexponent]
  split
  · rename_i h
    rw [dif_neg (hzero h)]
    exact .finite _ _ _
  · exact .finite _ _ _

/-- A number of 53 bits keeps its sign when it is packed. -/
theorem signed_pack {sign : Sign} {mantissa : Nat} {exponent : Int} (hpos : 0 < mantissa)
    (hbelow : mantissa < 2 ^ 53) (hleast : -1074 ≤ exponent) :
    Signed sign (Float.Model.pack (.finite sign mantissa exponent hpos)).unpack := by
  show Signed sign (UnpackedFloat.unpack Format.binary64
    (if 2 ^ 11 ≤ (exponent + 1023 + 52).toNat + 1 then packedInfinity Format.binary64 sign
    else if mantissa.log2 + 1 = 53 then
      packComponents Format.binary64 sign (BitVec.ofNat 11 (exponent + 1023 + 52).toNat)
        (BitVec.ofNat 52 mantissa)
    else packComponents Format.binary64 sign 0#11 (BitVec.ofNat 52 mantissa)))
  -- Too large a number is packed as an infinity, a full mantissa loses its first bit, and a
  -- small one is kept as it is.
  split
  · cases sign <;> exact .infinity
  · rename_i hrange
    split
    · have hfield : (BitVec.ofNat 11 (exponent + 1023 + 52).toNat).toNat =
          (exponent + 1023 + 52).toNat := by
        rw [BitVec.toNat_ofNat, Nat.mod_eq_of_lt (by omega)]
      refine signed_unpack ?_ ?_
      · intro h
        rw [h] at hfield
        have hones : (-1#11).toNat = 2 ^ 11 - 1 := by decide
        omega
      · intro h
        rw [h] at hfield
        have hnone : (0#11).toNat = 0 := rfl
        omega
    · rename_i hlog
      have hsmall : mantissa < 2 ^ 52 := by
        have hlt : mantissa.log2 < 53 := (Nat.log2_lt (by omega)).2 hbelow
        exact (Nat.log2_lt (by omega)).1 (by omega)
      refine signed_unpack (by decide) fun _ h => ?_
      have hfraction : mantissa % 2 ^ 52 = 0 := by
        rw [← BitVec.toNat_ofNat, h]
        rfl
      omega

/-! ## What is rounded keeps its sign -/

theorem shiftRight_mantissa (extended : ExtendedMantissa) (count : Nat) :
    (extended >>> count).mantissa = extended.mantissa / 2 ^ count := by
  induction count with
  | zero => simp [HShiftRight.hShiftRight, Nat.repeat]
  | succ count ih =>
      show (extended >>> count).mantissa / 2 = _
      rw [ih, Nat.div_div_eq_div_mul, Nat.pow_succ]

theorem le_roundedMantissa (extended : ExtendedMantissa) :
    extended.mantissa ≤ extended.roundedMantissa := by
  obtain ⟨mantissa, roundBit, stickyBit⟩ := extended
  cases roundBit <;> cases stickyBit <;>
    simp [ExtendedMantissa.roundedMantissa, ExtendedMantissa.accuracy,
      Accuracy.roundToNearestEven]

theorem targetExponent_eq (total : Int) :
    Format.binary64.targetExponent total = max (total - 53) (-1074) := rfl

/-- The places by which a number is shifted so that 53 bits of it are left. -/
def surplus (mantissa : Nat) (exponent : Int) : Nat :=
  (Format.binary64.targetExponent (totalExponent mantissa exponent) - exponent).toNat

theorem shiftToTargetExponent_eq (mantissa : Nat) (exponent : Int) :
    shiftToTargetExponent Format.binary64 mantissa exponent .exact =
      (ExtendedMantissa.mk mantissa false false >>> surplus mantissa exponent,
        exponent + surplus mantissa exponent) := rfl

/-- Shifting a number that is no less than the least double leaves some of it. -/
theorem shifted_bounds {mantissa : Nat} {exponent : Int} (hpos : 0 < mantissa)
    (hleast : -1074 ≤ exponent) :
    0 < mantissa / 2 ^ surplus mantissa exponent ∧
      mantissa / 2 ^ surplus mantissa exponent < 2 ^ 53 := by
  have hlow : 2 ^ mantissa.log2 ≤ mantissa := Nat.log2_self_le (Nat.ne_of_gt hpos)
  have hhigh : mantissa < 2 ^ (mantissa.log2 + 1) := Nat.lt_log2_self
  have hsurplus : surplus mantissa exponent = mantissa.log2 - 52 := by
    rw [surplus, targetExponent_eq, totalExponent]
    omega
  rw [hsurplus]
  constructor
  · refine Nat.div_pos (Nat.le_trans ?_ hlow) (Nat.two_pow_pos _)
    exact Nat.pow_le_pow_right (by decide) (Nat.sub_le _ _)
  · rw [Nat.div_lt_iff_lt_mul (Nat.two_pow_pos _), ← Nat.pow_add]
    exact Nat.lt_of_lt_of_le hhigh (Nat.pow_le_pow_right (by decide) (by omega))

/-- A number that is rounded has 53 bits, and is not zero.  The second of the two shifts is
for the bit that rounding up may add. -/
theorem exists_of_roundWithAccuracy (sign : Sign) {mantissa : Nat} {exponent : Int}
    (hpos : 0 < mantissa) (hleast : -1074 ≤ exponent) :
    ∃ mantissa' exponent' hpos',
      roundWithAccuracy Format.binary64 sign mantissa exponent .exact =
        .finite sign mantissa' exponent' hpos' ∧ mantissa' < 2 ^ 53 ∧ -1074 ≤ exponent' := by
  generalize hshifted :
    ExtendedMantissa.mk mantissa false false >>> surplus mantissa exponent = shifted
  have hrounded : 0 < shifted.roundedMantissa := by
    refine Nat.lt_of_lt_of_le ?_ (le_roundedMantissa shifted)
    rw [← hshifted, shiftRight_mantissa]
    exact (shifted_bounds hpos hleast).1
  have hleast' : -1074 ≤ exponent + surplus mantissa exponent := by omega
  obtain ⟨hpos', hbelow⟩ := shifted_bounds hrounded hleast'
  unfold roundWithAccuracy
  simp only [shiftToTargetExponent_eq, hshifted, shiftRight_mantissa]
  rw [dif_neg (Nat.ne_of_gt hpos')]
  exact ⟨_, _, hpos', rfl, hbelow, by omega⟩

/-- A number that is no less than the least double keeps its sign when it is rounded. -/
theorem signed_round (sign : Sign) {mantissa : Nat} {exponent : Int} (hpos : 0 < mantissa)
    (hleast : -1074 ≤ exponent) :
    Signed sign (Float.Model.pack (round Format.binary64 sign mantissa exponent)).unpack := by
  generalize htarget :
    Format.binary64.targetExponent (totalExponent mantissa exponent) = target
  have hround : round Format.binary64 sign mantissa exponent =
      roundWithAccuracy Format.binary64 sign (mantissa <<< (exponent - target).toNat)
        (exponent - (exponent - target).toNat) .exact := by
    rw [← htarget]
    rfl
  have hpos' : 0 < mantissa <<< (exponent - target).toNat := by
    rw [Nat.shiftLeft_eq]
    exact Nat.mul_pos hpos (Nat.two_pow_pos _)
  have hleast' : -1074 ≤ exponent - (exponent - target).toNat := by
    rw [targetExponent_eq] at htarget
    omega
  obtain ⟨_, _, _, hrounded, hbelow, hleast''⟩ :=
    exists_of_roundWithAccuracy sign hpos' hleast'
  rw [hround, hrounded]
  exact signed_pack _ hbelow hleast''

/-! ## Comparisons -/

/-- The side of zero on which numbers of a sign are. -/
def side : Sign → Ordering
  | .negative => .lt
  | .positive => .gt

theorem Signed.compare_zero {sign : Sign} {x : UnpackedFloat} (h : Signed sign x) :
    x.compare (.zero .positive) = some (side sign) := by
  cases h with
  | infinity => cases sign <;> rfl
  | finite mantissa exponent hpos => cases sign <;> rfl

theorem unpack_pack_zero (sign : Sign) :
    (Float.Model.pack (.zero sign)).unpack = .zero sign := by
  cases sign <;> rfl

/-- A number that is normalized is to zero as its mantissa is. -/
theorem compare_normalize {exponent : Int} (hleast : -1074 ≤ exponent) (mantissa : Int) :
    (Float.Model.pack (UnpackedFloat.normalize Format.binary64 mantissa exponent
      .positive)).unpack.compare (.zero .positive) = some (compare mantissa 0) := by
  unfold UnpackedFloat.normalize
  cases hside : compare mantissa 0 with
  | lt =>
      have hpos : 0 < (-mantissa).toNat := by
        have := Int.compare_eq_lt.1 hside
        omega
      exact (signed_round .negative hpos hleast).compare_zero
  | eq => simp only [unpack_pack_zero]; rfl
  | gt =>
      have hpos : 0 < mantissa.toNat := by
        have := Int.compare_eq_gt.1 hside
        omega
      exact (signed_round .positive hpos hleast).compare_zero

/-- A number with the smaller exponent is the smaller one. -/
theorem lt_shiftLeft {m n : Nat} {e f : Int} (hm : Canonical m e) (hn : Canonical n f)
    (h : e < f) : m < n <<< (f - e).toNat := by
  have hfull : 2 ^ 52 ≤ n := by
    have := hn.full
    have := hm.least
    omega
  have htwo : 2 ^ 1 ≤ 2 ^ (f - e).toNat := Nat.pow_le_pow_right (by decide) (by omega)
  calc m < 2 ^ 52 * 2 ^ 1 := hm.below
    _ ≤ n * 2 ^ (f - e).toNat := Nat.mul_le_mul hfull htwo
    _ = n <<< (f - e).toNat := (Nat.shiftLeft_eq _ _).symm

/-- Numbers compare as their mantissas do at the smaller exponent. -/
theorem compare_shiftLeft {m n : Nat} {e f : Int} (hm : Canonical m e) (hn : Canonical n f) :
    compare (m <<< (e - min e f).toNat) (n <<< (f - min e f).toNat) =
      (compare e f).then (compare m n) := by
  rcases Int.lt_trichotomy e f with h | rfl | h
  · have hzero : (e - min e f).toNat = 0 := by omega
    have hmin : min e f = e := by omega
    rw [hzero, hmin, Int.compare_eq_lt.2 h]
    exact Nat.compare_eq_lt.2 (lt_shiftLeft hm hn h)
  · have hzero : (e - min e e).toNat = 0 := by omega
    rw [hzero, Int.compare_eq_eq.2 rfl]
    rfl
  · have hzero : (f - min e f).toNat = 0 := by omega
    have hmin : min e f = f := by omega
    rw [hzero, hmin, Int.compare_eq_gt.2 h]
    exact Nat.compare_eq_gt.2 (lt_shiftLeft hn hm h)

/-- What a double can be unpacked to. -/
def Representable : UnpackedFloat → Prop
  | .finite _ mantissa exponent _ => Canonical mantissa exponent
  | _ => True

theorem representable_unpack (bits : Float.Model) : Representable bits.unpack := by
  cases h : bits.unpack with
  | finite sign mantissa exponent hpos => exact canonical_of_unpack h
  | _ => trivial

/-! ## Differences -/

theorem compare_natCast_sub (m n : Nat) : compare ((m : Int) - n) 0 = compare m n := by
  cases h : compare m n with
  | lt =>
      have := Nat.compare_eq_lt.1 h
      exact Int.compare_eq_lt.2 (by omega)
  | eq =>
      have := Nat.compare_eq_eq.1 h
      exact Int.compare_eq_eq.2 (by omega)
  | gt =>
      have := Nat.compare_eq_gt.1 h
      exact Int.compare_eq_gt.2 (by omega)

/-- The exact difference of two numbers is to zero as the one number is to the other. -/
theorem compare_apply_sub {s t : Sign} {m n : Nat} {e f : Int} (hm : Canonical m e)
    (hn : Canonical n f) (hpos : 0 < m) (hpos' : 0 < n) :
    some (compare (s.apply (m <<< (e - min e f).toNat : Nat) -
      t.apply (n <<< (f - min e f).toNat : Nat)) 0) =
        (finite s m e hpos).compare (finite t n f hpos') := by
  have hcompare := compare_shiftLeft hm hn
  have hposm : 0 < m <<< (e - min e f).toNat := by
    rw [Nat.shiftLeft_eq]
    exact Nat.mul_pos hpos (Nat.two_pow_pos _)
  have hposn : 0 < n <<< (f - min e f).toNat := by
    rw [Nat.shiftLeft_eq]
    exact Nat.mul_pos hpos' (Nat.two_pow_pos _)
  generalize m <<< (e - min e f).toNat = a at hcompare hposm ⊢
  generalize n <<< (f - min e f).toNat = b at hcompare hposn ⊢
  cases s with
  | positive =>
      cases t with
      | positive => exact congrArg some ((compare_natCast_sub a b).trans hcompare)
      | negative => exact congrArg some (Int.compare_eq_gt.2 (by simp only [Sign.apply]; omega))
  | negative =>
      cases t with
      | positive => exact congrArg some (Int.compare_eq_lt.2 (by simp only [Sign.apply]; omega))
      | negative =>
          have hswap : -(a : Int) - -(b : Int) = (b : Int) - a := by omega
          show some (compare (-(a : Int) - -(b : Int)) 0) = some (Ordering.swap _)
          rw [hswap, compare_natCast_sub, ← Nat.compare_swap, hcompare]

/-- An exception is packed as one. -/
theorem isFinite_of_pack {x : UnpackedFloat} (h : (Float.Model.pack x).isFinite = true) :
    x.isFinite = true := by
  cases x with
  | notANumber => exact h
  | infinity s => cases s <;> exact h
  | _ => rfl

/-- The difference is an exception if either side is. -/
theorem isFinite_of_sub {a b : UnpackedFloat}
    (h : (UnpackedFloat.sub Format.binary64 a b).isFinite = true) :
    a.isFinite = true ∧ b.isFinite = true := by
  cases a with
  | notANumber => cases h
  | infinity s =>
      cases b with
      | infinity t => cases s <;> cases t <;> cases h
      | _ => cases h
  | _ =>
      cases b with
      | notANumber => cases h
      | infinity t => cases h
      | _ => exact ⟨rfl, rfl⟩

/-- A difference in range is to zero as its left side is to its right one. -/
theorem compare_sub {x y : Float.Model} (hfinite : (x - y).isFinite = true) :
    (x - y).unpack.compare (.zero .positive) = x.unpack.compare y.unpack := by
  have hx := representable_unpack x
  have hy := representable_unpack y
  have hsides : x.unpack.isFinite = true ∧ y.unpack.isFinite = true :=
    isFinite_of_sub (isFinite_of_pack hfinite)
  have hsub : x - y = Float.Model.pack (UnpackedFloat.sub Format.binary64 x.unpack y.unpack) :=
    rfl
  rw [hsub]
  -- No side is an exception, so each is a zero or has a mantissa.
  generalize x.unpack = a at hx hsides ⊢
  generalize y.unpack = b at hy hsides ⊢
  cases a with
  | notANumber => cases hsides.1
  | infinity s => cases hsides.1
  | zero s =>
      cases b with
      | notANumber => cases hsides.2
      | infinity t => cases hsides.2
      | zero t => cases s <;> cases t <;> rfl
      | finite t n f hpos =>
          have h : Signed (-t) _ := signed_pack hpos hy.below hy.least
          refine h.compare_zero.trans ?_
          cases t <;> rfl
  | finite s m e hpos =>
      cases b with
      | notANumber => cases hsides.2
      | infinity t => cases hsides.2
      | zero t =>
          have h : Signed s _ := signed_pack hpos hx.below hx.least
          refine h.compare_zero.trans ?_
          cases s <;> rfl
      | finite t n f hpos' =>
          have hleast : -1074 ≤ min e f := Int.le_min.2 ⟨hx.least, hy.least⟩
          exact (compare_normalize hleast _).trans (compare_apply_sub hx hy hpos hpos')

/-! ## Tests of a difference -/

theorem compare_swap (a b : UnpackedFloat) :
    a.compare b = (b.compare a).map Ordering.swap := by
  have hthen (m n : Nat) (e f : Int) : (compare e f).then (compare m n) =
      ((compare f e).then (compare n m)).swap := by
    rw [Ordering.swap_then, Int.compare_swap, Nat.compare_swap]
  cases a with
  | notANumber => cases b <;> rfl
  | infinity s =>
      cases b with
      | infinity t => cases s <;> cases t <;> rfl
      | _ => cases s <;> rfl
  | zero s =>
      cases b with
      | infinity t => cases t <;> rfl
      | finite t n f hpos => cases t <;> rfl
      | _ => rfl
  | finite s m e hpos =>
      cases b with
      | notANumber => cases s <;> rfl
      | infinity t => cases s <;> cases t <;> rfl
      | zero t => cases s <;> rfl
      | finite t n f hpos' =>
          cases s with
          | positive =>
              cases t with
              | positive => exact congrArg some (hthen m n e f)
              | negative => rfl
          | negative =>
              cases t with
              | positive => rfl
              | negative => exact congrArg (some ·.swap) (hthen m n e f)

theorem unpack_zero : (0.0 : Float).toModel.unpack = .zero .positive := rfl

theorem lt_eq (x y : Float) :
    decide (x < y) = (x.toModel.unpack.compare y.toModel.unpack == some .lt) := by
  show decide (decide (_ = true) = true) = _
  rw [Bool.decide_eq_true, Bool.decide_eq_true]
  rfl

theorem le_eq (x y : Float) :
    decide (x ≤ y) = (x.toModel.unpack.compare y.toModel.unpack).any Ordering.isLE := by
  show decide (decide (_ = true) = true) = _
  rw [Bool.decide_eq_true, Bool.decide_eq_true]
  rfl

theorem gt_eq (x y : Float) :
    decide (x > y) = (x.toModel.unpack.compare y.toModel.unpack == some .gt) := by
  show decide (y < x) = _
  rw [lt_eq, compare_swap]
  cases x.toModel.unpack.compare y.toModel.unpack with
  | none => rfl
  | some order => cases order <;> rfl

/-- A magnitude is at most zero if the number is zero. -/
theorem abs_le_zero (x : Float) :
    decide (x.abs ≤ 0.0) = (x.toModel.unpack.compare (.zero .positive) == some .eq) := by
  have hx := representable_unpack x.toModel
  have habs : x.abs.toModel.unpack = (Float.Model.pack x.toModel.unpack.abs).unpack := rfl
  rw [le_eq, unpack_zero, habs]
  generalize x.toModel.unpack = a at hx ⊢
  cases a with
  | notANumber => rfl
  | infinity s => cases s <;> rfl
  | zero s => cases s <;> rfl
  | finite s m e hpos =>
      have h : Signed .positive _ := signed_pack hpos hx.below hx.least
      rw [UnpackedFloat.abs, h.compare_zero]
      cases s <;> rfl

variable {x y : Float}

theorem abs_sub_le_zero (h : (x - y).isFinite = true) :
    decide ((x - y).abs ≤ 0.0) = (x == y) := by
  rw [abs_le_zero]
  exact congrArg (· == some Ordering.eq) (compare_sub h)

theorem sub_gt_zero (h : (x - y).isFinite = true) :
    decide (x - y > 0.0) = decide (x > y) := by
  rw [gt_eq, gt_eq, unpack_zero]
  exact congrArg (· == some Ordering.gt) (compare_sub h)

theorem sub_lt_zero (h : (x - y).isFinite = true) :
    decide (x - y < 0.0) = decide (x < y) := by
  rw [lt_eq, lt_eq, unpack_zero]
  exact congrArg (· == some Ordering.lt) (compare_sub h)

end Formula.Number
