import ChainProfile.Proofs.Target.Order

/-!
# The easiest compact form of a limit

A limit is given by the number of zero bits in front, so a limit with one bit more is at most half
as large.  Encoding a limit drops its low bytes but keeps more than half of it, wherever its top
bit lies within a byte, so what is left exceeds every tighter limit.  The easiest compact form
that meets a limit therefore meets exactly the limits that are no tighter.
-/

namespace ChainProfile.Target

/-! ## Limits by their leading zero bits -/

section Limit

variable {first second shift : UInt32}

theorem toNat_limit (shift : UInt32) : (limit shift).toNat = (2 ^ 256 - 1) / 2 ^ shift.toNat := by
  rw [limit, BitVec.toNat_ushiftRight, BitVec.toNat_allOnes, Nat.shiftRight_eq_div_pow]

theorem limit_eq_zero_iff : limit shift = 0 ↔ 256 ≤ shift := by
  have number : limit shift = 0 ↔ (2 ^ 256 - 1) / 2 ^ shift.toNat = 0 := by
    rw [← toNat_limit, ← BitVec.toNat_inj]
    rfl
  have wide : 2 ^ 256 - 1 < 2 ^ shift.toNat ↔ 256 ≤ shift.toNat := by
    rw [← Nat.pow_le_pow_iff_right (by decide : 1 < 2)]
    omega
  rw [number, Nat.div_eq_zero_iff_lt (Nat.two_pow_pos _), wide, UInt32.le_iff_toNat_le]
  rfl

theorem limit_ne_zero_iff : limit shift ≠ 0 ↔ shift < 256 := by
  rw [ne_eq, limit_eq_zero_iff, UInt32.not_le]

theorem limit_le_limit (looser : second ≤ first) : limit first ≤ limit second := by
  rw [BitVec.le_def, toNat_limit, toNat_limit]
  apply Nat.div_le_div_left
  · exact Nat.pow_le_pow_right (by decide) (UInt32.le_iff_toNat_le.mp looser)
  · exact Nat.two_pow_pos _

/-- Every zero bit more in front halves a limit. -/
theorem two_mul_limit_le (tighter : first < second) :
    2 * (limit second).toNat ≤ (limit first).toNat := by
  have next : first.toNat + 1 ≤ second.toNat := UInt32.lt_iff_toNat_lt.mp tighter
  have halved : (limit second).toNat ≤ (limit first).toNat / 2 := by
    rw [toNat_limit, toNat_limit, Nat.div_div_eq_div_mul, ← Nat.pow_succ]
    apply Nat.div_le_div_left
    · exact Nat.pow_le_pow_right (by decide) next
    · exact Nat.two_pow_pos _
  omega

theorem limit_le_limit_iff (narrow : first < 256) :
    limit first ≤ limit second ↔ second ≤ first := by
  constructor
  · intro looser
    by_contra beyond
    have halved := two_mul_limit_le (UInt32.not_le.mp beyond)
    have nonzero : limit first ≠ 0 := limit_ne_zero_iff.mpr narrow
    bv_omega
  · exact limit_le_limit

end Limit

/-! ## What is left of a limit -/

section Rounding

variable {target rounded bound : Target}

/-- More than half of a target is left in its compact form. -/
theorem lt_two_mul_of_ofCompact?_toCompact (nonzero : target ≠ 0)
    (decoded : ofCompact? (toCompact target) = some rounded) :
    target.toNat < 2 * rounded.toNat := by
  have rounds := isRounded_toCompact target
  have normal := rounds.normal nonzero
  rw [rounds.mantissa] at normal
  have lost := sub_magnitude_kept_lt normal
  rw [← toNat_of_ofCompact?_toCompact decoded] at lost
  have positive : target.toNat ≠ 0 := by
    intro zero
    exact nonzero (BitVec.eq_of_toNat_eq zero)
  omega

theorem isWithin_toCompact (nonzero : target ≠ 0) (within : target ≤ bound) :
    isWithin (toCompact target) bound := by
  rcases exists_ofCompact?_toCompact target with ⟨rounded, decoded⟩
  have below := le_of_ofCompact?_toCompact decoded
  have half := lt_two_mul_of_ofCompact?_toCompact nonzero decoded
  apply (isWithin_iff_of_ofCompact? decoded bound).mpr
  constructor
  · intro zero
    simp [zero] at half
  · exact BitVec.le_trans below within

theorem not_isWithin_toCompact (twice : 2 * bound.toNat ≤ target.toNat) :
    ¬isWithin (toCompact target) bound := by
  rcases exists_ofCompact?_toCompact target with ⟨rounded, decoded⟩
  rw [isWithin_iff_of_ofCompact? decoded]
  rintro ⟨positive, within⟩
  have below := le_of_ofCompact?_toCompact decoded
  have nonzero : target ≠ 0 := by bv_omega
  have half := lt_two_mul_of_ofCompact?_toCompact nonzero decoded
  rw [BitVec.le_def] at within
  omega

end Rounding

/-! ## The easiest compact form -/

/-- Whether a compact form stands for the easiest target that meets a limit and has a compact
form. -/
def IsEasiest (bound : Target) (compact : UInt32) : Prop :=
  ∃ target, ofCompact? compact = some target ∧
    IsGreatest {value | ∃ other, ofCompact? other = some value ∧ isWithin other bound} target

section IsEasiest

variable {bound : Target} {compact other : UInt32}

/-- A limit that any compact form meets is not zero. -/
theorem IsEasiest.ne_zero (easiest : IsEasiest bound compact) : bound ≠ 0 := by
  rcases easiest with ⟨target, _, ⟨form, decoded, within⟩, _⟩
  rcases (isWithin_iff_of_ofCompact? decoded bound).mp within with ⟨nonzero, below⟩
  bv_omega

/-- Forms that are the easiest for one limit differ only in how they are written. -/
theorem IsEasiest.isWithin_iff (easiest : IsEasiest bound compact) (alike : IsEasiest bound other)
    (limit : Target) : isWithin compact limit ↔ isWithin other limit := by
  rcases easiest with ⟨target, decoded, greatest⟩
  rcases alike with ⟨value, alsoDecoded, alsoGreatest⟩
  have same : target = value :=
    BitVec.le_antisymm (alsoGreatest.2 greatest.1) (greatest.2 alsoGreatest.1)
  rw [isWithin_iff_of_ofCompact? decoded, isWithin_iff_of_ofCompact? alsoDecoded, same]

theorem isEasiest_toCompact (nonzero : bound ≠ 0) : IsEasiest bound (toCompact bound) := by
  rcases exists_ofCompact?_toCompact bound with ⟨rounded, decoded⟩
  refine ⟨rounded, decoded, ⟨toCompact bound, decoded, ?_⟩, ?_⟩
  · exact isWithin_toCompact nonzero (BitVec.le_refl _)
  · rintro value ⟨form, stands, within⟩
    have below := ((isWithin_iff_of_ofCompact? stands bound).mp within).2
    exact IsRepresentable.le_of_le ⟨form, stands⟩ below decoded

end IsEasiest

/-! ## Limits nest -/

theorem isEasiest_toCompact_limit_iff {shift : UInt32} :
    IsEasiest (limit shift) (toCompact (limit shift)) ↔ shift < 256 := by
  constructor
  · intro easiest
    exact limit_ne_zero_iff.mp easiest.ne_zero
  · intro narrow
    exact isEasiest_toCompact (limit_ne_zero_iff.mpr narrow)

theorem isWithin_toCompact_limit_iff {first second : UInt32} :
    isWithin (toCompact (limit first)) (limit second) ↔ first < 256 ∧ second ≤ first := by
  constructor
  · intro within
    constructor
    · by_contra wide
      have nothing : limit first = 0 := limit_eq_zero_iff.mpr (UInt32.not_lt.mp wide)
      rw [nothing, toCompact_zero] at within
      simp [isWithin, ofCompact?_zero] at within
    · by_contra tighter
      have halved := two_mul_limit_le (UInt32.not_le.mp tighter)
      exact not_isWithin_toCompact halved within
  · rintro ⟨narrow, looser⟩
    exact isWithin_toCompact (limit_ne_zero_iff.mpr narrow) (limit_le_limit looser)

/-- The limit with `first` zero bits in front is the greatest 256-bit number divided by two to that
power, and zero exactly from 256 on.  Its compact form meets the limit with `second` zero bits
exactly if `first` is below 256 and `second` is no greater.  That form is the easiest that meets
its own limit, if any does, and whichever form is the easiest there meets exactly the limits that
are no tighter. -/
theorem toNat_limit_and_isWithin_toCompact_limit_iff (first second : UInt32) :
    (limit first).toNat = (2 ^ 256 - 1) / 2 ^ first.toNat ∧ (limit first = 0 ↔ 256 ≤ first) ∧
      (isWithin (toCompact (limit first)) (limit second) ↔ first < 256 ∧ second ≤ first) ∧
      (IsEasiest (limit first) (toCompact (limit first)) ↔ first < 256) ∧
      ∀ compact, IsEasiest (limit first) compact →
        (isWithin compact (limit second) ↔ limit first ≤ limit second) := by
  refine ⟨toNat_limit first, limit_eq_zero_iff, isWithin_toCompact_limit_iff,
    isEasiest_toCompact_limit_iff, ?_⟩
  intro compact easiest
  have own := isEasiest_toCompact easiest.ne_zero
  have narrow := limit_ne_zero_iff.mp easiest.ne_zero
  rw [easiest.isWithin_iff own, isWithin_toCompact_limit_iff, limit_le_limit_iff narrow]
  exact and_iff_right narrow

/-- Neighbours between which the top bit moves into the next byte, the tightest limit with a form
that encoding does not write, and a number of zero bits that is 32 modulo the width. -/
theorem toNat_limit_and_isWithin_toCompact_limit_iff_neighbours :
    toCompact (limit 8) = 0x2000ffff ∧ toCompact (limit 9) = 0x1f7fffff ∧
      ¬isWithin 0x2000ffff (limit 9) ∧ isWithin 0x1f7fffff (limit 8) ∧
      (limit 255).toNat = 1 ∧ IsEasiest (limit 255) 0x03000001 ∧
      toCompact (limit 255) ≠ 0x03000001 ∧
      isWithin 0x03000001 (limit 254) ∧ ¬isWithin 0x03000001 (limit 256) ∧
      limit 288 = 0 ∧ ¬isWithin (toCompact (limit 288)) (limit 0) := by
  have aligned : toCompact (limit 8) = 0x2000ffff := by decide
  have shifted : toCompact (limit 9) = 0x1f7fffff := by decide
  rcases toNat_limit_and_isWithin_toCompact_limit_iff 8 9 with ⟨_, _, tighter, _, _⟩
  rcases toNat_limit_and_isWithin_toCompact_limit_iff 9 8 with ⟨_, _, looser, _, _⟩
  rcases toNat_limit_and_isWithin_toCompact_limit_iff 255 254 with ⟨one, _, _, own, met⟩
  rcases toNat_limit_and_isWithin_toCompact_limit_iff 255 256 with ⟨_, _, _, _, missed⟩
  rcases toNat_limit_and_isWithin_toCompact_limit_iff 288 0 with ⟨_, zero, never, _, _⟩
  rw [aligned] at tighter
  rw [shifted] at looser
  have easiest : IsEasiest (limit 255) 0x03000001 := by
    have same : ofCompact? 0x03000001 = ofCompact? (toCompact (limit 255)) := by decide
    rw [IsEasiest, same]
    exact own.mpr (by decide)
  refine ⟨aligned, shifted, ?_, looser.mpr (by decide), one.trans (by decide), easiest, by decide,
    (met _ easiest).mpr (by decide), ?_, zero.mpr (by decide), ?_⟩
  · rw [tighter]
    decide
  · rw [missed _ easiest]
    decide
  · rw [never]
    decide

end ChainProfile.Target
