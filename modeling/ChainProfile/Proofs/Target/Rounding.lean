import ChainProfile.Proofs.Target.Compact
import Mathlib.Order.Bounds.Defs

/-!
# Compact forms round down

The compact form of a target stands for the greatest target that has a compact form
and does not exceed it.  A target of at most three bytes is kept as it is, but for
the sign bit, which pushes the exponent up.  Of a longer one the low bytes are cleared,
and a number with a smaller exponent is too small to come between: its mantissa would
have to reach into the eight bits that a normal mantissa fills.
-/

namespace ChainProfile.Target

section Magnitude

variable {exponent value : Nat}

theorem magnitude_kept_of_le (small : exponent ≤ 3) (value : Nat) :
    magnitude exponent (kept exponent value) = value := by
  rw [magnitude_of_le small, kept_of_le small]
  exact Nat.mul_div_cancel _ (Nat.pow_pos (by decide))

theorem magnitude_kept_of_ge (large : 3 ≤ exponent) (value : Nat) :
    magnitude exponent (kept exponent value) =
      value / 256 ^ (exponent - 3) * 256 ^ (exponent - 3) := by
  rw [magnitude_of_ge large, kept_of_ge large]

theorem magnitude_kept_le (exponent value : Nat) :
    magnitude exponent (kept exponent value) ≤ value := by
  apply Nat.div_le_of_le_mul
  rw [kept, Nat.mul_comm (256 ^ 3) value]
  exact Nat.div_mul_le_self _ _

/-- No number with a mantissa below the sign bit lies between a number and what is kept of it in a
normal mantissa. -/
theorem magnitude_le_magnitude_kept (normal : 2 ^ 15 ≤ kept exponent value) {other mantissa : Nat}
    (bounded : mantissa < 2 ^ 23) (below : magnitude other mantissa ≤ value) :
    magnitude other mantissa ≤ magnitude exponent (kept exponent value) := by
  by_cases small : exponent ≤ 3
  · rw [magnitude_kept_of_le small]
    exact below
  · have large : 3 ≤ exponent := by omega
    by_cases coarser : exponent ≤ other
    · -- The other number is a multiple of the unit that is kept.
      have split : other - 3 = (other - exponent) + (exponent - 3) := by omega
      rw [magnitude_of_ge (Nat.le_trans large coarser), split, Nat.pow_add, ← Nat.mul_assoc]
        at below ⊢
      rw [magnitude_kept_of_ge large]
      apply Nat.mul_le_mul_right
      exact (Nat.le_div_iff_mul_le (Nat.pow_pos (by decide))).mpr below
    · have finer : 256 ^ other ≤ 256 ^ (exponent - 3 + 2) :=
        Nat.pow_le_pow_right (by decide) (by omega)
      have limit : mantissa * 256 ^ other ≤ 256 ^ 3 * (2 ^ 15 * 256 ^ (exponent - 3)) := by
        calc mantissa * 256 ^ other ≤ 2 ^ 23 * 256 ^ (exponent - 3 + 2) :=
              Nat.mul_le_mul (Nat.le_of_lt bounded) finer
          _ = 256 ^ 3 * (2 ^ 15 * 256 ^ (exponent - 3)) := by
              rw [Nat.pow_add]
              omega
      calc magnitude other mantissa ≤ 2 ^ 15 * 256 ^ (exponent - 3) := Nat.div_le_of_le_mul limit
        _ ≤ kept exponent value * 256 ^ (exponent - 3) := Nat.mul_le_mul_right _ normal
        _ = magnitude exponent (kept exponent value) := (magnitude_of_ge large _).symm

/-- What a normal mantissa loses is less than one part in 2 ^ 15. -/
theorem sub_magnitude_kept_lt (normal : 2 ^ 15 ≤ kept exponent value) :
    value - magnitude exponent (kept exponent value) < max 1 (value / 2 ^ 15) := by
  by_cases small : exponent ≤ 3
  · rw [magnitude_kept_of_le small, Nat.sub_self]
    omega
  · have large : 3 ≤ exponent := by omega
    have positive : 0 < 256 ^ (exponent - 3) := Nat.pow_pos (by decide)
    have lost : value - value / 256 ^ (exponent - 3) * 256 ^ (exponent - 3) =
        value % 256 ^ (exponent - 3) := by
      have := Nat.div_add_mod' value (256 ^ (exponent - 3))
      omega
    have unit : 256 ^ (exponent - 3) ≤ value / 2 ^ 15 := by
      rw [kept_of_ge large, Nat.le_div_iff_mul_le positive] at normal
      rw [Nat.le_div_iff_mul_le (by decide), Nat.mul_comm]
      exact normal
    have remainder := Nat.mod_lt value positive
    rw [magnitude_kept_of_ge large, lost]
    omega

end Magnitude

/-- Whether a target has a compact form. -/
def IsRepresentable (target : Target) : Prop := ∃ compact, ofCompact? compact = some target

theorem IsRepresentable.exists_magnitude {target : Target} (representable : IsRepresentable target) :
    ∃ exponent mantissa, mantissa < 2 ^ 23 ∧ target.toNat = magnitude exponent mantissa := by
  rcases representable with ⟨compact, decoded⟩
  exact ⟨_, _, mantissa_lt compact, (ofCompact?_eq_some_iff.mp decoded).2⟩

theorem exists_ofCompact?_eq_some_of_isRounded {target : Target} {compact : UInt32}
    (rounds : IsRounded target compact) :
    ∃ rounded, ofCompact? compact = some rounded ∧
      rounded.toNat =
        magnitude (exponent compact).toNat (kept (exponent compact).toNat target.toNat) := by
  have fits := magnitude_kept_le (exponent compact).toNat target.toNat
  have number : (BitVec.ofNat 256
      (magnitude (exponent compact).toNat (mantissa compact).toNat)).toNat =
        magnitude (exponent compact).toNat (mantissa compact).toNat := by
    rw [BitVec.toNat_ofNat, rounds.mantissa]
    exact Nat.mod_eq_of_lt (Nat.lt_of_le_of_lt fits target.isLt)
  refine ⟨_, ofCompact?_eq_some_iff.mpr ⟨fun negative => ?_, number⟩, ?_⟩
  · exact absurd negative rounds.positive
  · rw [number, rounds.mantissa]

/-- The compact form of a target always stands for a target: the greatest one that has a compact
form and is no easier.  It is not zero unless the target is, it is less than one part in 2 ^ 15
harder, and it is within every limit that the target is within. -/
theorem ofCompact?_toCompact_isGreatest (target : Target) :
    ∃ rounded, ofCompact? (toCompact target) = some rounded ∧
      IsGreatest {value | IsRepresentable value ∧ value ≤ target} rounded ∧
      (target ≠ 0 → rounded ≠ 0) ∧
      target.toNat - rounded.toNat < max 1 (target.toNat / 2 ^ 15) ∧
      ∀ limit, 0 < target → target ≤ limit → isWithin (toCompact target) limit := by
  have rounds := isRounded_toCompact target
  rcases exists_ofCompact?_eq_some_of_isRounded rounds with ⟨rounded, decoded, number⟩
  have below : rounded ≤ target := by
    rw [BitVec.le_def, number]
    exact magnitude_kept_le _ _
  have normal : target ≠ 0 → 2 ^ 15 ≤ kept (exponent (toCompact target)).toNat target.toNat := by
    intro nonzero
    rw [← rounds.mantissa]
    exact rounds.normal nonzero
  have greatest : ∀ value, IsRepresentable value → value ≤ target → value ≤ rounded := by
    intro value representable least
    rw [BitVec.le_def] at least ⊢
    by_cases zero : target = 0
    · rw [zero] at least
      exact Nat.le_trans least (Nat.zero_le _)
    · rcases representable.exists_magnitude with ⟨other, mantissa, bounded, valueNumber⟩
      rw [valueNumber] at least ⊢
      rw [number]
      exact magnitude_le_magnitude_kept (normal zero) bounded least
  have positive : target ≠ 0 → rounded ≠ 0 := by
    intro nonzero zero
    -- One is representable, so the greatest representable target below is no less.
    have one := greatest 1 ⟨0x01010000, by decide⟩ (by bv_omega)
    rw [zero] at one
    exact absurd one (by decide)
  refine ⟨rounded, decoded, ⟨⟨⟨_, decoded⟩, below⟩, fun value member => ?_⟩, positive, ?_, ?_⟩
  · exact greatest value member.1 member.2
  · by_cases zero : target = 0
    · simp [zero]
    · rw [number]
      exact sub_magnitude_kept_lt (normal zero)
  · intro limit nonzero within
    have easy : rounded ≤ limit := by
      rw [BitVec.le_def] at below within ⊢
      exact Nat.le_trans below within
    have hard : rounded ≠ 0 := positive (by bv_omega)
    simp only [isWithin, decoded, Bool.and_eq_true, decide_eq_true_iff]
    exact ⟨hard, easy⟩

/-- The easiest target of all needs the greatest exponent of a compact form. -/
theorem ofCompact?_toCompact_allOnes_isGreatest :
    toCompact (BitVec.allOnes 256) = 0x2100ffff ∧
      ∃ rounded, ofCompact? 0x2100ffff = some rounded ∧ rounded ≠ 0 ∧
        IsGreatest {value | IsRepresentable value ∧ value ≤ BitVec.allOnes 256} rounded ∧
        isWithin 0x2100ffff (BitVec.allOnes 256) := by
  have compact : toCompact (BitVec.allOnes 256) = 0x2100ffff := by decide
  have nonzero : BitVec.allOnes 256 ≠ 0 := by decide
  have positive : (0 : Target) < BitVec.allOnes 256 := by decide
  rcases ofCompact?_toCompact_isGreatest (BitVec.allOnes 256) with
    ⟨rounded, decoded, greatest, kept, _, within⟩
  rw [compact] at decoded within
  exact ⟨compact, rounded, decoded, kept nonzero, greatest, within _ positive (BitVec.le_refl _)⟩

end ChainProfile.Target
