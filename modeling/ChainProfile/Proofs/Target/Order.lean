import ChainProfile.Proofs.Target.Rounding

/-!
# Compact forms are ordered like targets

Compact forms compare, as numbers, by their exponents first and their mantissas second.
The compact form of a target fills at least sixteen of the mantissa's twenty-three bits, so
the smaller of two targets cannot have the greater exponent: moving the exponent up by one
costs eight bits, and fewer than sixteen would be left.  A compact form that is its target's
own can therefore be checked against a limit without being decoded.
-/

namespace ChainProfile.Target

theorem kept_le_kept {less more : Nat} (ordered : less ≤ more) (exponent : Nat) :
    kept exponent less ≤ kept exponent more := by
  apply Nat.div_le_div_right
  exact Nat.mul_le_mul_right _ ordered

theorem kept_le_kept_div {lower higher : Nat} (greater : lower < higher) (value : Nat) :
    kept higher value ≤ kept lower value / 256 := by
  rw [← kept_succ]
  apply Nat.div_le_div_left
  · exact Nat.pow_le_pow_right (by decide) greater
  · exact Nat.pow_pos (by decide)

theorem toNat_eq_of_not_isNegative {compact : UInt32} (positive : ¬isNegative compact) :
    compact.toNat = (exponent compact).toNat * 2 ^ 24 + (mantissa compact).toNat := by
  rw [isNegative_iff] at positive
  rw [toNat_exponent, toNat_mantissa]
  omega

section IsRounded

variable {first second : Target} {firstForm secondForm : UInt32}

theorem IsRounded.exponent_le (firstRounds : IsRounded first firstForm)
    (secondRounds : IsRounded second secondForm) (nonzero : first ≠ 0) (ordered : first ≤ second) :
    (exponent firstForm).toNat ≤ (exponent secondForm).toNat := by
  by_contra higher
  have bounded := mantissa_lt secondForm
  have normal := firstRounds.normal nonzero
  have fewer := kept_le_kept_div (Nat.lt_of_not_le higher) second.toNat
  have less := kept_le_kept ordered (exponent firstForm).toNat
  rw [← secondRounds.mantissa] at fewer
  rw [← firstRounds.mantissa] at less
  omega

theorem IsRounded.le (firstRounds : IsRounded first firstForm)
    (secondRounds : IsRounded second secondForm) (nonzero : first ≠ 0) (ordered : first ≤ second) :
    firstForm ≤ secondForm := by
  rw [UInt32.le_iff_toNat_le, toNat_eq_of_not_isNegative firstRounds.positive,
    toNat_eq_of_not_isNegative secondRounds.positive]
  rcases Nat.lt_or_eq_of_le (firstRounds.exponent_le secondRounds nonzero ordered) with
    lower | same
  · have bounded := mantissa_lt firstForm
    omega
  · have less : (Target.mantissa firstForm).toNat ≤ (Target.mantissa secondForm).toNat := by
      rw [firstRounds.mantissa, secondRounds.mantissa, same]
      exact kept_le_kept ordered _
    omega

theorem IsRounded.unique (firstRounds : IsRounded first firstForm)
    (secondRounds : IsRounded first secondForm) (nonzero : first ≠ 0) : firstForm = secondForm := by
  apply UInt32.le_antisymm
  · exact firstRounds.le secondRounds nonzero (BitVec.le_refl _)
  · exact secondRounds.le firstRounds nonzero (BitVec.le_refl _)

end IsRounded

theorem ofCompact?_zero : ofCompact? 0 = some 0 := by decide

theorem toCompact_zero : toCompact 0 = 0 := by decide

theorem toCompact_le_toCompact {first second : Target} (ordered : first ≤ second) :
    toCompact first ≤ toCompact second := by
  by_cases zero : first = 0
  · rw [zero, toCompact_zero]
    exact UInt32.zero_le
  · exact (isRounded_toCompact first).le (isRounded_toCompact second) zero ordered

theorem isWithin_iff_of_ofCompact? {compact : UInt32} {target : Target}
    (decoded : ofCompact? compact = some target) (limit : Target) :
    isWithin compact limit ↔ target ≠ 0 ∧ target ≤ limit := by
  simp [isWithin, decoded]

theorem exists_ofCompact?_toCompact (target : Target) :
    ∃ rounded, ofCompact? (toCompact target) = some rounded := by
  rcases exists_ofCompact?_eq_some_of_isRounded (isRounded_toCompact target) with
    ⟨rounded, decoded, _⟩
  exact ⟨rounded, decoded⟩

section Rounded

variable {target rounded value : Target}

theorem toNat_of_ofCompact?_toCompact (decoded : ofCompact? (toCompact target) = some rounded) :
    rounded.toNat = magnitude (exponent (toCompact target)).toNat
      (kept (exponent (toCompact target)).toNat target.toNat) := by
  rcases exists_ofCompact?_eq_some_of_isRounded (isRounded_toCompact target) with
    ⟨value, read, number⟩
  have same : value = rounded := Option.some.inj (read.symm.trans decoded)
  rw [← same, number]

theorem le_of_ofCompact?_toCompact (decoded : ofCompact? (toCompact target) = some rounded) :
    rounded ≤ target := by
  rw [BitVec.le_def, toNat_of_ofCompact?_toCompact decoded]
  exact magnitude_kept_le _ _

/-- Nothing that has a compact form lies between a target and what is left of it. -/
theorem IsRepresentable.le_of_le (representable : IsRepresentable value) (below : value ≤ target)
    (decoded : ofCompact? (toCompact target) = some rounded) : value ≤ rounded := by
  by_cases zero : target = 0
  · rw [zero] at below
    bv_omega
  · have rounds := isRounded_toCompact target
    have normal := rounds.normal zero
    rw [rounds.mantissa] at normal
    rcases representable.exists_magnitude with ⟨other, mantissa, bounded, number⟩
    rw [BitVec.le_def, number] at below ⊢
    rw [toNat_of_ofCompact?_toCompact decoded]
    exact magnitude_le_magnitude_kept normal bounded below

end Rounded

/-- The compact form of the target that a compact form stands for. -/
def recode? (compact : UInt32) : Option UInt32 := (ofCompact? compact).map toCompact

theorem eq_zero_iff_of_own {compact : UInt32} {target : Target}
    (decoded : ofCompact? compact = some target) (own : toCompact target = compact) :
    target = 0 ↔ compact = 0 := by
  constructor
  · intro zero
    rw [← own, zero, toCompact_zero]
  · intro zero
    rw [zero, ofCompact?_zero] at decoded
    exact (Option.some.inj decoded).symm

theorem isWithin_iff_le_toCompact {compact : UInt32} (unchanged : recode? compact = some compact)
    (limit : Target) : isWithin compact limit ↔ 0 < compact ∧ compact ≤ toCompact limit := by
  rcases Option.map_eq_some_iff.mp unchanged with ⟨target, decoded, own⟩
  rw [isWithin_iff_of_ofCompact? decoded, UInt32.pos_iff_ne_zero, ne_eq, ne_eq,
    eq_zero_iff_of_own decoded own]
  apply and_congr_right
  intro _
  constructor
  · intro within
    rw [← own]
    exact toCompact_le_toCompact within
  · intro within
    by_contra beyond
    have less : toCompact limit ≤ compact := by
      rw [← own]
      exact toCompact_le_toCompact (by bv_omega)
    -- The limit has the same compact form, which then stands for no more than the limit.
    have same : toCompact limit = compact := UInt32.le_antisymm less within
    exact beyond (le_of_ofCompact?_toCompact (same ▸ decoded))

/-- Comparing compact forms as numbers agrees with comparing targets: a target that is no greater
has a compact form that is no greater, and a compact form that recoding leaves as it is meets a
limit exactly if it is positive and no greater than the limit's compact form. -/
theorem toCompact_le_toCompact_and_isWithin_iff :
    (∀ first second : Target, first ≤ second → toCompact first ≤ toCompact second) ∧
      ∀ (compact : UInt32) (limit : Target), recode? compact = some compact →
        (isWithin compact limit ↔ 0 < compact ∧ compact ≤ toCompact limit) := by
  constructor
  · intro first second ordered
    exact toCompact_le_toCompact ordered
  · intro compact limit unchanged
    exact isWithin_iff_le_toCompact unchanged limit

/-- Neighbours between which the sign bit moves into the exponent, and the compact forms next to
that of a limit. -/
theorem toCompact_le_toCompact_and_isWithin_iff_neighbours :
    toCompact 0x7fffff = 0x037fffff ∧ toCompact 0x800000 = 0x04008000 ∧
      toCompact 0x7fffff ≤ toCompact 0x800000 ∧
      toCompact (limit 32) = 0x1d00ffff ∧
      recode? 0x1d00ffff = some 0x1d00ffff ∧ isWithin 0x1d00ffff (limit 32) ∧
      recode? 0x1d010000 = some 0x1d010000 ∧ ¬isWithin 0x1d010000 (limit 32) := by
  rcases toCompact_le_toCompact_and_isWithin_iff with ⟨ordered, within⟩
  have easiest : toCompact (limit 32) = 0x1d00ffff := by decide
  have own : recode? 0x1d00ffff = some 0x1d00ffff := by decide
  have next : recode? 0x1d010000 = some 0x1d010000 := by decide
  refine ⟨by decide, by decide, ordered _ _ (by decide), easiest, own, ?_, next, ?_⟩
  · rw [within _ _ own, easiest]
    decide
  · rw [within _ _ next, easiest]
    decide

end ChainProfile.Target
