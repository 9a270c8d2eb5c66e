import ChainProfile.Proofs.Target.Order
import Mathlib.Logic.ExistsUnique

/-!
# One canonical compact form for each target

A target has many compact forms: zero bytes can be moved between the mantissa and the
exponent, bytes of the mantissa below the units are discarded, and zero takes any exponent and
either sign.  The canonical one fills the top byte of the mantissa and discards nothing.
It is the form that encoding writes, so recoding a compact form makes it canonical, keeps
its target, and changes nothing but forms that are not canonical.
-/

namespace ChainProfile.Target

theorem isCanonical_iff {compact : UInt32} :
    IsCanonical compact ↔ compact = 0 ∨
      ¬isNegative compact ∧ 1 ≤ (exponent compact).toNat ∧ 2 ^ 15 ≤ (mantissa compact).toNat ∧
        256 ^ (3 - (exponent compact).toNat) ∣ (mantissa compact).toNat := by
  have unit : 1 <<< (8 * (3 - (exponent compact).toNat)) =
      256 ^ (3 - (exponent compact).toNat) := by
    rw [Nat.one_shiftLeft, Nat.pow_mul]
  have fields := toNat_mantissa compact
  rw [IsCanonical, unit]
  apply or_congr_right
  by_cases negative : isNegative compact
  · have signBit := (isNegative_iff compact).mp negative
    simp only [negative, not_true_eq_false, false_and, iff_false]
    rintro ⟨_, _, bounded, _⟩
    omega
  · have signBit : ¬compact.toNat / 2 ^ 23 % 2 = 1 :=
      fun set => negative ((isNegative_iff compact).mpr set)
    have low : compact.toNat % 0x1000000 = (mantissa compact).toNat := by omega
    have bounded := mantissa_lt compact
    rw [low]
    constructor
    · rintro ⟨least, normal, _, exact⟩
      exact ⟨negative, least, normal, exact⟩
    · rintro ⟨_, least, normal, exact⟩
      exact ⟨least, normal, by omega, exact⟩

/-! ## Canonical forms are the forms that encoding writes -/

theorem kept_magnitude {exponent mantissa : Nat} (exact : 256 ^ (3 - exponent) ∣ mantissa) :
    kept exponent (magnitude exponent mantissa) = mantissa := by
  by_cases small : exponent ≤ 3
  · rw [magnitude_of_le small, kept_of_le small]
    exact Nat.div_mul_cancel exact
  · have large : 3 ≤ exponent := by omega
    rw [magnitude_of_ge large, kept_of_ge large]
    exact Nat.mul_div_cancel _ (Nat.pow_pos (by decide))

variable {target : Target} {compact : UInt32}

theorem IsRounded.isCanonical (rounds : IsRounded target compact) (nonzero : target ≠ 0) :
    IsCanonical compact := by
  have bounded := mantissa_lt compact
  have normal := rounds.normal nonzero
  have written := rounds.mantissa
  apply isCanonical_iff.mpr
  right
  refine ⟨rounds.positive, ?_, normal, ?_⟩
  · by_contra none
    have zero : (exponent compact).toNat = 0 := by omega
    rw [zero, kept_of_le (Nat.zero_le 3)] at written
    omega
  · by_cases small : (exponent compact).toNat ≤ 3
    · rw [written, kept_of_le small]
      exact Nat.dvd_mul_left _ _
    · have whole : 3 - (exponent compact).toNat = 0 := by omega
      rw [whole]
      exact Nat.one_dvd _

theorem isCanonical_toCompact (target : Target) : IsCanonical (toCompact target) := by
  by_cases zero : target = 0
  · left
    rw [zero, toCompact_zero]
  · exact (isRounded_toCompact target).isCanonical zero

theorem toCompact_eq_of_isCanonical (canonical : IsCanonical compact)
    (decoded : ofCompact? compact = some target) : toCompact target = compact := by
  rcases isCanonical_iff.mp canonical with rfl | ⟨positive, _, normal, exact⟩
  · rw [ofCompact?_zero] at decoded
    rw [← Option.some.inj decoded, toCompact_zero]
  · have written : (mantissa compact).toNat = kept (exponent compact).toNat target.toNat := by
      rw [(ofCompact?_eq_some_iff.mp decoded).2, kept_magnitude exact]
    have nonzero : target ≠ 0 := by
      intro zero
      rw [zero] at written
      simp [kept] at written
      omega
    have rounds : IsRounded target compact := ⟨positive, written, fun _ => normal⟩
    exact (isRounded_toCompact target).unique rounds nonzero

/-! ## Recoding -/

/-- A target that has a compact form is not rounded. -/
theorem IsRepresentable.ofCompact?_toCompact (representable : IsRepresentable target) :
    ofCompact? (toCompact target) = some target := by
  rcases exists_ofCompact?_toCompact target with ⟨rounded, decoded⟩
  have below := le_of_ofCompact?_toCompact decoded
  have above := representable.le_of_le (BitVec.le_refl _) decoded
  rw [decoded, BitVec.le_antisymm below above]

theorem existsUnique_isCanonical (representable : IsRepresentable target) :
    ∃! canonical, IsCanonical canonical ∧ ofCompact? canonical = some target := by
  refine ⟨toCompact target, ?_, ?_⟩
  · exact ⟨isCanonical_toCompact target, representable.ofCompact?_toCompact⟩
  · rintro other ⟨canonical, decoded⟩
    exact (toCompact_eq_of_isCanonical canonical decoded).symm

/-- Recoding a compact form that stands for a target keeps the target, changes nothing the second
time, and changes nothing the first time exactly if the form is canonical; a target that has a
compact form has exactly one that is canonical. -/
theorem toCompact_eq_iff_isCanonical (decoded : ofCompact? compact = some target) :
    ofCompact? (toCompact target) = some target ∧
      recode? (toCompact target) = some (toCompact target) ∧
      (toCompact target = compact ↔ IsCanonical compact) ∧
      ∃! canonical, IsCanonical canonical ∧ ofCompact? canonical = some target := by
  have representable : IsRepresentable target := ⟨compact, decoded⟩
  have kept := representable.ofCompact?_toCompact
  refine ⟨kept, ?_, ?_, existsUnique_isCanonical representable⟩
  · rw [recode?, kept, Option.map_some]
  · constructor
    · intro own
      rw [← own]
      exact isCanonical_toCompact target
    · intro canonical
      exact toCompact_eq_of_isCanonical canonical decoded

/-- A target with one byte that is not zero, written in the lowest place of the mantissa and in the
highest. -/
theorem toCompact_eq_iff_isCanonical_shifted :
    ofCompact? 0x22000001 = some (BitVec.twoPow 256 248) ∧ ¬IsCanonical 0x22000001 ∧
      toCompact (BitVec.twoPow 256 248) = 0x20010000 ∧ IsCanonical 0x20010000 ∧
      ofCompact? 0x20010000 = some (BitVec.twoPow 256 248) := by
  have decoded : ofCompact? 0x22000001 = some (BitVec.twoPow 256 248) := by decide
  have own : toCompact (BitVec.twoPow 256 248) = 0x20010000 := by decide
  rcases toCompact_eq_iff_isCanonical decoded with ⟨kept, _, unchanged_iff, _⟩
  rw [own] at kept unchanged_iff
  have canonical := ((toCompact_eq_iff_isCanonical kept).2.2.1).mp own
  exact ⟨decoded, fun other => absurd (unchanged_iff.mpr other) (by decide), own, canonical, kept⟩

end ChainProfile.Target
