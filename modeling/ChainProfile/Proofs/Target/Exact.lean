import ChainProfile.Proofs.Target.Compact
import Mathlib.Algebra.Order.Floor.Semifield
import Mathlib.Data.Rat.Floor

/-!
# Decoding is exact

A compact form states the number `m * 256 ^ (e - 3)`, a fraction if the exponent `e` is
below three.  It is rejected exactly if the mantissa `m` is not zero and the sign bit is set
or the number does not fit into 256 bits; otherwise it stands for the number rounded down.
A mantissa is moved up only where all of its bits stay inside the word.
-/

namespace ChainProfile.Target

/-- The number that a compact form states, before it is rounded down. -/
def stated (compact : UInt32) : ℚ :=
  (compact.toNat % 2 ^ 23 : ℕ) * 256 ^ ((compact.toNat / 2 ^ 24 : ℕ) - 3 : ℤ)

theorem stated_eq_div (compact : UInt32) :
    stated compact =
      ((mantissa compact).toNat * 256 ^ (exponent compact).toNat : ℕ) / (256 ^ 3 : ℕ) := by
  have nonzero : (256 : ℚ) ≠ 0 := by norm_num
  rw [stated, ← toNat_mantissa, ← toNat_exponent, zpow_sub₀ nonzero, zpow_natCast]
  push_cast
  rw [mul_div_assoc]

theorem floor_stated (compact : UInt32) :
    ⌊stated compact⌋₊ = magnitude (exponent compact).toNat (mantissa compact).toNat := by
  rw [stated_eq_div, Nat.floor_div_eq_div, magnitude]

theorem two_pow_le_stated_iff {compact : UInt32} :
    2 ^ 256 ≤ stated compact ↔
      2 ^ 256 ≤ magnitude (exponent compact).toNat (mantissa compact).toNat := by
  have positive : 0 ≤ stated compact := by
    rw [stated_eq_div]
    positivity
  rw [← floor_stated, Nat.le_floor_iff positive]
  push_cast
  rfl

theorem ofCompact?_eq_none_iff {compact : UInt32} :
    ofCompact? compact = none ↔
      mantissa compact ≠ 0 ∧
        (isNegative compact ∨
          2 ^ 256 ≤ magnitude (exponent compact).toNat (mantissa compact).toNat) := by
  rw [ofCompact?_eq_moved]
  simp only [ite_eq_left_iff, reduceCtorEq, imp_false, not_not]
  apply and_congr_right
  intro nonzero
  rw [overflows_iff nonzero (mantissa_lt compact)]

/-- Moving an accepted mantissa up and back down gives the mantissa. -/
theorem shiftRight_shiftLeft_mantissa {compact : UInt32} {target : Target}
    (decoded : ofCompact? compact = some target) (large : 3 < exponent compact) :
    let word := BitVec.ofNat 256 (mantissa compact).toNat
    let places := (8 * (exponent compact - 3)).toNat
    target = word <<< places ∧ (word <<< places) >>> places = word := by
  intro word places
  have least : 3 < (exponent compact).toNat := UInt32.lt_iff_toNat_lt.mp large
  have moving : target = word <<< places := by
    rw [ofCompact?_eq_moved] at decoded
    split at decoded
    · cases decoded
    · rw [← Option.some.inj decoded, moved, if_neg (UInt32.not_le.mpr large)]
  have amount : places = 8 * ((exponent compact).toNat - 3) :=
    toNat_eight_mul_sub (UInt32.le_of_lt large) (exponent_lt compact)
  have number : target.toNat = (mantissa compact).toNat * 2 ^ places := by
    rw [(ofCompact?_eq_some_iff.mp decoded).2, magnitude_of_ge (Nat.le_of_lt least), amount,
      Nat.pow_mul]
  refine ⟨moving, ?_⟩
  apply BitVec.eq_of_toNat_eq
  rw [← moving, BitVec.toNat_ushiftRight, number, Nat.shiftRight_eq_div_pow,
    Nat.mul_div_cancel _ (Nat.pow_pos (by decide)), BitVec.toNat_ofNat]
  exact (Nat.mod_eq_of_lt (Nat.lt_trans (mantissa compact).toNat_lt (by decide))).symm

/-- A compact form stands for no target exactly if its mantissa is not zero and it is negative or
states a number beyond 256 bits.  Otherwise it stands for the number it states, rounded down, and
moving its mantissa up into place pushes no set bit out of the word. -/
theorem ofCompact?_eq_none_iff_and_eq_floor (compact : UInt32) :
    (ofCompact? compact = none ↔
        compact.toNat % 2 ^ 23 ≠ 0 ∧ (compact.toNat.testBit 23 ∨ 2 ^ 256 ≤ stated compact)) ∧
      ∀ target, ofCompact? compact = some target →
        target.toNat = ⌊stated compact⌋₊ ∧
          (3 < exponent compact →
            let word := BitVec.ofNat 256 (mantissa compact).toNat
            let places := (8 * (exponent compact - 3)).toNat
            target = word <<< places ∧ (word <<< places) >>> places = word) := by
  have zero_iff : mantissa compact = 0 ↔ compact.toNat % 2 ^ 23 = 0 := by
    rw [← toNat_mantissa, ← UInt32.toNat_inj]
    rfl
  have signBit : isNegative compact ↔ compact.toNat.testBit 23 := by
    rw [isNegative_iff, Nat.testBit_eq_decide_div_mod_eq, decide_eq_true_iff]
  constructor
  · rw [ofCompact?_eq_none_iff, two_pow_le_stated_iff, ← signBit, ne_eq, ne_eq, zero_iff]
  · intro target decoded
    refine ⟨?_, shiftRight_shiftLeft_mantissa decoded⟩
    rw [floor_stated]
    exact (ofCompact?_eq_some_iff.mp decoded).2

/-- Neighbours on both sides of the 256-bit range: one byte of mantissa at the greatest exponent. -/
theorem ofCompact?_eq_none_iff_and_eq_floor_greatest_byte :
    ofCompact? 0x220000ff = some ((0xff : Target) <<< 248) ∧ ⌊stated 0x220000ff⌋₊ = 0xff * 2 ^ 248 ∧
      ((0xff : Target) <<< 248) >>> 248 = 0xff ∧ ofCompact? 0x22000100 = none := by
  have decoded : ofCompact? 0x220000ff = some ((0xff : Target) <<< 248) := by decide
  rcases (ofCompact?_eq_none_iff_and_eq_floor 0x220000ff).2 _ decoded with ⟨number, kept⟩
  refine ⟨decoded, number.symm.trans (by decide), (kept (by decide)).2, ?_⟩
  apply (ofCompact?_eq_none_iff_and_eq_floor 0x22000100).1.mpr
  exact ⟨by decide, .inr (two_pow_le_stated_iff.mpr (by decide))⟩

end ChainProfile.Target
