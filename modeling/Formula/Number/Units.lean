/-!
# Doubles as whole numbers of units

Every finite double is a whole number of *units*, the least positive double
`2 ^ -1074`, up to a sign. Counting units turns exact questions about doubles into
arithmetic on natural numbers: a remainder of doubles is a remainder of unit
counts.

The bit pattern of a double, sign aside, is an exponent field above 52 bits of
fraction. With exponent field 0 or 1 the pattern *is* the number of units; each
further step of the exponent doubles it. So `ofUnits` is one shift and one sum,
and it is exact on every count that is a double's (`bitsOfUnits_unitsOfBits`).
-/

namespace Formula.Number

/-- Bits of the fraction of a double. -/
def fractionBits : Nat := 52

/-- The number of fractions, which is also the pattern of the exponent field 1. -/
def fractions : Nat := 1 <<< fractionBits

/-- The sign bit. -/
def signBit : Nat := 1 <<< 63

/-- The bit pattern of a double without its sign. -/
def magnitudeBits (x : Float) : Nat := x.toBits.toNat % signBit

/-- Whether the sign bit is set, as it is for a negative zero. -/
def isSigned (x : Float) : Bool := signBit ≤ x.toBits.toNat

/-- The number of units of a double with the bit pattern `bits`, sign aside. -/
def unitsOfBits (bits : Nat) : Nat :=
  let exponent := bits >>> fractionBits
  if exponent = 0 then bits
  else (fractions + bits % fractions) <<< (exponent - 1)

/-- The number of units of a finite double, sign aside. -/
def units (x : Float) : Nat := unitsOfBits (magnitudeBits x)

/-- The bit pattern of the double that is `n` units. A count of more than 53
significant bits loses the lowest. -/
def bitsOfUnits (n : Nat) : Nat :=
  let shift := n.log2 - fractionBits
  (shift <<< fractionBits) + n >>> shift

/-- The double that is `n` units, with the given sign. -/
def ofUnits (signed : Bool) (n : Nat) : Float :=
  Float.ofBits (UInt64.ofNat ((if signed then signBit else 0) + bitsOfUnits n))

/-- Counting the units of a double and going back gives the same double. -/
theorem bitsOfUnits_unitsOfBits (bits : Nat) : bitsOfUnits (unitsOfBits bits) = bits := by
  have hdiv : bits >>> fractionBits = bits / fractions := by
    simp [fractions, Nat.shiftRight_eq_div_pow, Nat.shiftLeft_eq]
  have hsplit : fractions * (bits / fractions) + bits % fractions = bits :=
    Nat.div_add_mod bits fractions
  have hf : fractions = 2 ^ 52 := by decide
  have hlt : bits % fractions < fractions := Nat.mod_lt _ (by decide)
  unfold unitsOfBits
  rw [hdiv]
  by_cases h : bits / fractions = 0
  · have hsmall : bits < 2 ^ 52 := by rw [h] at hsplit; omega
    have hlog : bits.log2 - fractionBits = 0 := by
      rcases Nat.eq_zero_or_pos bits with rfl | hpos
      · decide
      · have := (Nat.log2_lt (by omega)).2 hsmall
        simp only [fractionBits]; omega
    simp [h, bitsOfUnits, hlog]
  · obtain ⟨e, he⟩ : ∃ e, bits / fractions = e + 1 := ⟨_, (Nat.succ_pred h).symm⟩
    have hlog : ((fractions + bits % fractions) <<< e).log2 = 52 + e := by
      have hne : (fractions + bits % fractions) <<< e ≠ 0 := by
        rw [Nat.shiftLeft_eq]
        have := Nat.two_pow_pos e
        have : 0 < (fractions + bits % fractions) * 2 ^ e := Nat.mul_pos (by omega) this
        omega
      rw [Nat.log2_eq_iff hne, Nat.shiftLeft_eq, Nat.pow_add, Nat.add_right_comm, Nat.pow_add]
      constructor
      · exact Nat.mul_le_mul_right _ (by omega)
      · exact Nat.mul_lt_mul_of_pos_right (by omega) (Nat.two_pow_pos e)
    have hshift : (fractions + bits % fractions) <<< e >>> e = fractions + bits % fractions := by
      rw [Nat.shiftLeft_eq, Nat.shiftRight_eq_div_pow, Nat.mul_div_cancel _ (Nat.two_pow_pos e)]
    rw [he] at hsplit ⊢
    simp only [Nat.add_one_ne_zero, if_false, Nat.add_sub_cancel, bitsOfUnits, hlog, fractionBits,
      Nat.add_sub_cancel_left, hshift]
    rw [Nat.shiftLeft_eq, ← hf]
    rw [Nat.mul_add, Nat.mul_one, Nat.mul_comm fractions e] at hsplit
    omega

/-- The number of units in 1. -/
def unitsPerOne : Nat := 1 <<< 1074

/-- The units of a finite double, negative if it is. -/
def signedUnits (x : Float) : Int := if isSigned x then -(units x : Int) else units x

end Formula.Number
