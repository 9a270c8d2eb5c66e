import ChainProfile.Proofs.Bytes
import ChainProfile.Target
import Mathlib.Data.Nat.Bitwise

/-!
# Compact forms as numbers

The fields of a compact form are quotients and remainders of it.  An exponent `e`
and a mantissa `m` stand for the number `m * 256 ^ e / 256 ^ 3`; the form stands for
a target exactly if that number fits into 256 bits and the sign bit does not matter.
Conversely the form of a target `t` has the mantissa `t * 256 ^ 3 / 256 ^ e`, for an
exponent `e` that leaves the sign bit clear and, unless the target is zero, no more
than seven bits of the mantissa unused.
-/

namespace ChainProfile.Target

theorem toNat_exponent (compact : UInt32) :
    (exponent compact).toNat = compact.toNat / 2 ^ 24 := by
  rw [exponent, UInt32.toNat_shiftRight, Nat.shiftRight_eq_div_pow]
  rfl

theorem exponent_lt (compact : UInt32) : (exponent compact).toNat < 256 := by
  have := compact.toNat_lt
  rw [toNat_exponent]
  omega

theorem toNat_mantissa (compact : UInt32) :
    (mantissa compact).toNat = compact.toNat % 2 ^ 23 := by
  rw [mantissa, UInt32.toNat_and]
  exact Nat.and_two_pow_sub_one_eq_mod compact.toNat 23

theorem mantissa_lt (compact : UInt32) : (mantissa compact).toNat < 2 ^ 23 := by
  rw [toNat_mantissa]
  exact Nat.mod_lt _ (by decide)

theorem and_signBit_ne_zero_iff (word : UInt32) :
    word &&& 0x00800000 ≠ 0 ↔ word.toNat / 2 ^ 23 % 2 = 1 := by
  have bit : word.toNat &&& 2 ^ 23 = (word.toNat.testBit 23).toNat * 2 ^ 23 :=
    Nat.and_two_pow word.toNat 23
  have test : word.toNat.testBit 23 ↔ word.toNat / 2 ^ 23 % 2 = 1 := by
    rw [Nat.testBit_eq_decide_div_mod_eq, decide_eq_true_iff]
  rw [ne_eq, ← UInt32.toNat_inj, UInt32.toNat_and, ← test]
  change ¬(word.toNat &&& 2 ^ 23) = 0 ↔ _
  rw [bit]
  cases word.toNat.testBit 23 <;> decide

theorem isNegative_iff (compact : UInt32) :
    isNegative compact ↔ compact.toNat / 2 ^ 23 % 2 = 1 := by
  rw [isNegative, decide_eq_true_iff]
  exact and_signBit_ne_zero_iff compact

theorem toNat_eight_mul {count : UInt32} (byte : count.toNat < 256) :
    (8 * count).toNat = 8 * count.toNat := by
  rw [UInt32.toNat_mul]
  change 8 * count.toNat % 2 ^ 32 = 8 * count.toNat
  exact Nat.mod_eq_of_lt (by omega)

theorem toNat_eight_mul_sub {less count : UInt32} (least : less ≤ count)
    (byte : count.toNat < 256) : (8 * (count - less)).toNat = 8 * (count.toNat - less.toNat) := by
  have difference := UInt32.toNat_sub_of_le count less least
  rw [toNat_eight_mul (by omega), difference]

theorem mul_pow_div_pow_of_le {up down : Nat} (lower : up ≤ down) (value : Nat) :
    value * 256 ^ up / 256 ^ down = value / 256 ^ (down - up) := by
  have split : 256 ^ down = 256 ^ (down - up) * 256 ^ up := by
    rw [← Nat.pow_add, Nat.sub_add_cancel lower]
  rw [split]
  exact Nat.mul_div_mul_right _ _ (Nat.pow_pos (by decide))

theorem mul_pow_div_pow_of_ge {up down : Nat} (higher : down ≤ up) (value : Nat) :
    value * 256 ^ up / 256 ^ down = value * 256 ^ (up - down) := by
  have split : 256 ^ up = 256 ^ (up - down) * 256 ^ down := by
    rw [← Nat.pow_add, Nat.sub_add_cancel higher]
  rw [split, ← Nat.mul_assoc]
  exact Nat.mul_div_cancel _ (Nat.pow_pos (by decide))

/-! ## Decoding -/

/-- The number that an exponent and a mantissa stand for. -/
def magnitude (exponent mantissa : Nat) : Nat := mantissa * 256 ^ exponent / 256 ^ 3

theorem magnitude_of_le {exponent : Nat} (small : exponent ≤ 3) (mantissa : Nat) :
    magnitude exponent mantissa = mantissa / 256 ^ (3 - exponent) :=
  mul_pow_div_pow_of_le small mantissa

theorem magnitude_of_ge {exponent : Nat} (large : 3 ≤ exponent) (mantissa : Nat) :
    magnitude exponent mantissa = mantissa * 256 ^ (exponent - 3) :=
  mul_pow_div_pow_of_ge large mantissa

/-- A mantissa of `length + 1` bytes leaves the 256-bit range exactly from one exponent on. -/
theorem le_magnitude_iff {exponent mantissa : Nat} (length : Nat)
    (lower : 256 ^ length ≤ mantissa) (upper : mantissa < 256 ^ (length + 1)) :
    2 ^ 256 ≤ magnitude exponent mantissa ↔ 35 ≤ length + exponent := by
  have range : 2 ^ 256 * 256 ^ 3 = 256 ^ 35 := by decide
  rw [magnitude, Nat.le_div_iff_mul_le (by decide), range]
  constructor
  · intro large
    by_contra few
    have bound : mantissa * 256 ^ exponent < 256 ^ (length + 1 + exponent) := by
      rw [Nat.pow_add]
      exact Nat.mul_lt_mul_of_pos_right upper (Nat.pow_pos (by decide))
    have room : 256 ^ (length + 1 + exponent) ≤ 256 ^ 35 :=
      Nat.pow_le_pow_right (by decide) (by omega)
    omega
  · intro many
    calc 256 ^ 35 ≤ 256 ^ (length + exponent) := Nat.pow_le_pow_right (by decide) many
      _ = 256 ^ length * 256 ^ exponent := Nat.pow_add _ _ _
      _ ≤ mantissa * 256 ^ exponent := Nat.mul_le_mul_right _ lower

/-- The check for overflow is exact. -/
theorem overflows_iff {exponent mantissa : UInt32} (nonzero : mantissa ≠ 0)
    (bounded : mantissa.toNat < 2 ^ 23) :
    overflows exponent mantissa ↔ 2 ^ 256 ≤ magnitude exponent.toNat mantissa.toNat := by
  have positive : 0 < mantissa.toNat := by
    apply Nat.pos_of_ne_zero
    intro zero
    exact nonzero (UInt32.toNat_inj.mp zero)
  have check : overflows exponent mantissa ↔ 34 < exponent.toNat ∨
      0xff < mantissa.toNat ∧ 33 < exponent.toNat ∨
      0xffff < mantissa.toNat ∧ 32 < exponent.toNat := by
    simp [overflows, UInt32.lt_iff_toNat_lt, or_assoc]
  rw [check]
  -- The exponent from which on the range is left depends on the number of bytes of the mantissa.
  by_cases oneByte : mantissa.toNat < 256
  · rw [le_magnitude_iff 0 positive oneByte]
    omega
  · by_cases twoBytes : mantissa.toNat < 256 ^ 2
    · rw [le_magnitude_iff 1 (by omega) twoBytes]
      omega
    · rw [le_magnitude_iff 2 (by omega) (by omega)]
      omega

/-- The target that a mantissa makes when it is moved by an exponent, cut to 256 bits. -/
def moved (exponent mantissa : UInt32) : Target :=
  if exponent ≤ 3 then BitVec.ofNat 256 (mantissa >>> (8 * (3 - exponent))).toNat
  else BitVec.ofNat 256 mantissa.toNat <<< (8 * (exponent - 3)).toNat

theorem ofCompact?_eq_moved (compact : UInt32) :
    ofCompact? compact =
      if mantissa compact ≠ 0 ∧
          (isNegative compact ∨ overflows (exponent compact) (mantissa compact)) then none
      else some (moved (exponent compact) (mantissa compact)) := by
  rw [ofCompact?, moved, apply_ite some]

theorem toNat_moved {exponent : UInt32} (byte : exponent.toNat < 256) (mantissa : UInt32) :
    (moved exponent mantissa).toNat = magnitude exponent.toNat mantissa.toNat % 2 ^ 256 := by
  rw [moved]
  split
  · next small =>
      have few : exponent.toNat ≤ 3 := UInt32.le_iff_toNat_le.mp small
      have shift : (8 * (3 - exponent)).toNat = 8 * (3 - exponent.toNat) :=
        toNat_eight_mul_sub small (by decide)
      have narrow : 8 * (3 - exponent.toNat) % 32 = 8 * (3 - exponent.toNat) :=
        Nat.mod_eq_of_lt (by omega)
      rw [BitVec.toNat_ofNat, UInt32.toNat_shiftRight, shift, narrow, Nat.shiftRight_eq_div_pow,
        magnitude_of_le few, Nat.pow_mul]
  · next large =>
      have least : 3 ≤ exponent := Std.le_of_not_ge large
      have many : 3 ≤ exponent.toNat := UInt32.le_iff_toNat_le.mp least
      have shift : (8 * (exponent - 3)).toNat = 8 * (exponent.toNat - 3) :=
        toNat_eight_mul_sub least byte
      have fits : mantissa.toNat % 2 ^ 256 = mantissa.toNat :=
        Nat.mod_eq_of_lt (Nat.lt_trans mantissa.toNat_lt (by decide))
      rw [BitVec.toNat_shiftLeft, BitVec.toNat_ofNat, shift, fits, Nat.shiftLeft_eq,
        magnitude_of_ge many, Nat.pow_mul]

/-- A compact form stands for a target exactly if its number fits into 256 bits and is not made
negative by the sign bit. -/
theorem ofCompact?_eq_some_iff {compact : UInt32} {target : Target} :
    ofCompact? compact = some target ↔
      (isNegative compact → mantissa compact = 0) ∧
        target.toNat = magnitude (exponent compact).toNat (mantissa compact).toNat := by
  have bounded := mantissa_lt compact
  have number := toNat_moved (exponent_lt compact) (mantissa compact)
  rw [ofCompact?_eq_moved]
  by_cases zero : mantissa compact = 0
  · have nothing : magnitude (exponent compact).toNat (mantissa compact).toNat = 0 := by
      simp [zero, magnitude]
    rw [nothing] at number ⊢
    simp only [zero, ne_eq, not_true_eq_false, false_and, if_false, Option.some.injEq,
      implies_true, true_and] at number ⊢
    rw [← BitVec.toNat_inj, number, Nat.zero_mod]
    exact eq_comm
  · by_cases negative : isNegative compact
    · simp [zero, negative]
    · simp only [zero, negative, ne_eq, not_false_eq_true, true_and, false_or,
        overflows_iff zero bounded, Bool.false_eq_true, false_implies]
      split
      · next large =>
          have := target.isLt
          simp only [reduceCtorEq, false_iff]
          omega
      · next small =>
          rw [Nat.mod_eq_of_lt (Nat.lt_of_not_le small)] at number
          rw [Option.some.injEq, ← BitVec.toNat_inj, number]
          exact eq_comm

/-! ## Encoding -/

/-- What is left of a number in a mantissa with an exponent. -/
def kept (exponent value : Nat) : Nat := value * 256 ^ 3 / 256 ^ exponent

theorem kept_of_le {exponent : Nat} (small : exponent ≤ 3) (value : Nat) :
    kept exponent value = value * 256 ^ (3 - exponent) :=
  mul_pow_div_pow_of_ge small value

theorem kept_of_ge {exponent : Nat} (large : 3 ≤ exponent) (value : Nat) :
    kept exponent value = value / 256 ^ (exponent - 3) :=
  mul_pow_div_pow_of_le large value

theorem kept_succ (exponent value : Nat) : kept (exponent + 1) value = kept exponent value / 256 := by
  rw [kept, kept, Nat.div_div_eq_div_mul, Nat.pow_succ 256 exponent]

theorem kept_byteLength_lt (value : Nat) : kept (byteLength value) value < 2 ^ 24 := by
  have fits : value < 256 ^ byteLength value := byteLength_le_iff.mp (Nat.le_refl _)
  apply Nat.div_lt_of_lt_mul
  exact Nat.mul_lt_mul_of_pos_right fits (by decide)

theorem le_kept_byteLength {value : Nat} (nonzero : value ≠ 0) :
    2 ^ 16 ≤ kept (byteLength value) value := by
  have successor := byteLength_eq_succ nonzero
  have large : 256 ^ byteLength (value / 256) ≤ value := by
    apply Nat.le_of_not_lt
    intro small
    have := byteLength_le_iff.mpr small
    omega
  rw [kept, Nat.le_div_iff_mul_le (Nat.pow_pos (by decide)), successor, Nat.pow_succ]
  omega

/-- The top three bytes of a target of the given length, with zero bytes behind if it has fewer. -/
def topBytes (size : UInt32) (target : Target) : UInt32 :=
  if size ≤ 3 then UInt32.ofNat target.toNat <<< (8 * (3 - size))
  else UInt32.ofNat (target >>> (8 * (size - 3)).toNat).toNat

theorem toCompact_eq_topBytes (target : Target) :
    toCompact target =
      let size := UInt32.ofNat (byteLength target.toNat)
      let word := topBytes size target
      if word &&& 0x00800000 ≠ 0 then (word >>> 8) ||| ((size + 1) <<< 24)
      else word ||| (size <<< 24) := rfl

theorem toNat_topBytes {size : UInt32} {target : Target}
    (length : size.toNat = byteLength target.toNat) (byte : size.toNat < 256) :
    (topBytes size target).toNat = kept size.toNat target.toNat := by
  have bounded := kept_byteLength_lt target.toNat
  rw [← length] at bounded
  rw [topBytes]
  split
  · next small =>
      have few : size.toNat ≤ 3 := UInt32.le_iff_toNat_le.mp small
      have shift : (8 * (3 - size)).toNat = 8 * (3 - size.toNat) :=
        toNat_eight_mul_sub small (by decide)
      have narrow : 8 * (3 - size.toNat) % 32 = 8 * (3 - size.toNat) := Nat.mod_eq_of_lt (by omega)
      have fits : target.toNat < 2 ^ 32 := by
        have inside : target.toNat < 256 ^ 3 := byteLength_le_iff.mp (length ▸ few)
        omega
      rw [kept_of_le few] at bounded ⊢
      rw [UInt32.toNat_shiftLeft, shift, narrow, UInt32.toNat_ofNat_of_lt' fits, Nat.shiftLeft_eq,
        Nat.pow_mul]
      exact Nat.mod_eq_of_lt (Nat.lt_trans bounded (by decide))
  · next large =>
      have least : 3 ≤ size := Std.le_of_not_ge large
      have many : 3 ≤ size.toNat := UInt32.le_iff_toNat_le.mp least
      have shift : (8 * (size - 3)).toNat = 8 * (size.toNat - 3) :=
        toNat_eight_mul_sub least byte
      rw [kept_of_ge many] at bounded ⊢
      rw [shift, BitVec.toNat_ushiftRight, Nat.shiftRight_eq_div_pow, Nat.pow_mul]
      exact UInt32.toNat_ofNat_of_lt' (Nat.lt_trans bounded (by decide))

/-- A compact form that is put together from an exponent and a mantissa below the sign bit has
these as its fields. -/
theorem fields_or_shiftLeft (size word : UInt32) (byte : size.toNat < 256)
    (bounded : word.toNat < 2 ^ 23) :
    exponent (word ||| size <<< 24) = size ∧ mantissa (word ||| size <<< 24) = word ∧
      ¬isNegative (word ||| size <<< 24) := by
  have place : (size <<< 24).toNat = size.toNat <<< 24 := by
    rw [UInt32.toNat_shiftLeft]
    change size.toNat <<< 24 % 2 ^ 32 = size.toNat <<< 24
    rw [Nat.shiftLeft_eq]
    exact Nat.mod_eq_of_lt (by omega)
  have joined : (word ||| size <<< 24).toNat = size.toNat * 2 ^ 24 + word.toNat := by
    have room : word.toNat < 2 ^ 24 := by omega
    rw [UInt32.toNat_or, place, Nat.lor_comm, ← Nat.shiftLeft_add_eq_or_of_lt room,
      Nat.shiftLeft_eq]
  refine ⟨?_, ?_, ?_⟩
  · apply UInt32.toNat_inj.mp
    rw [toNat_exponent, joined]
    omega
  · apply UInt32.toNat_inj.mp
    rw [toNat_mantissa, joined]
    omega
  · rw [isNegative_iff, joined]
    omega

/-- The fields of the compact form of a target. -/
structure IsRounded (target : Target) (compact : UInt32) : Prop where
  positive : ¬isNegative compact
  mantissa : (mantissa compact).toNat = kept (exponent compact).toNat target.toNat
  normal : target ≠ 0 → 2 ^ 15 ≤ (Target.mantissa compact).toNat

theorem isRounded_toCompact (target : Target) : IsRounded target (toCompact target) := by
  have few : byteLength target.toNat ≤ 32 := byteLength_le_iff.mpr target.isLt
  have length : (UInt32.ofNat (byteLength target.toNat)).toNat = byteLength target.toNat :=
    UInt32.toNat_ofNat_of_lt' (Nat.lt_of_le_of_lt few (by decide))
  have top := toNat_topBytes length (by omega)
  have below := kept_byteLength_lt target.toNat
  have above : target ≠ 0 → 2 ^ 16 ≤ kept (byteLength target.toNat) target.toNat := by
    intro nonzero
    apply le_kept_byteLength
    intro zero
    exact nonzero (BitVec.eq_of_toNat_eq zero)
  rw [toCompact_eq_topBytes]
  generalize UInt32.ofNat (byteLength target.toNat) = size at length top ⊢
  rw [← length] at below above few
  rw [← top] at below above
  simp only [and_signBit_ne_zero_iff]
  split
  · -- The sign bit is in use, so one byte less is kept and the exponent is one greater.
    have next : (size + 1).toNat = size.toNat + 1 := by
      rw [UInt32.toNat_add]
      change (size.toNat + 1) % 2 ^ 32 = size.toNat + 1
      exact Nat.mod_eq_of_lt (by omega)
    have shorter : (topBytes size target >>> 8).toNat = (topBytes size target).toNat / 256 := by
      rw [UInt32.toNat_shiftRight, Nat.shiftRight_eq_div_pow]
      rfl
    rcases fields_or_shiftLeft (size + 1) (topBytes size target >>> 8)
      (by omega) (by omega) with ⟨exponentRead, mantissaRead, positive⟩
    refine ⟨positive, ?_, ?_⟩
    · rw [exponentRead, mantissaRead, next, shorter, kept_succ, top]
    · intro nonzero
      rw [mantissaRead, shorter]
      have := above nonzero
      omega
  · rcases fields_or_shiftLeft size (topBytes size target)
      (by omega) (by omega) with ⟨exponentRead, mantissaRead, positive⟩
    refine ⟨positive, ?_, ?_⟩
    · rw [exponentRead, mantissaRead, top]
    · intro nonzero
      rw [mantissaRead]
      have := above nonzero
      omega

end ChainProfile.Target
