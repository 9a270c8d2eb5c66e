/-!
# Positional notation

The digits of a number in a base, lowest first.  Zero has no digits, so the
highest digit is never zero and every number has exactly one such form.
-/

namespace ChainProfile.Radix

/-- The digits of a number, lowest first and without leading zeros.  A base below two has no
positional notation. -/
def digits (base value : Nat) : List Nat :=
  if 2 ≤ base ∧ value ≠ 0 then value % base :: digits base (value / base) else []
termination_by value
decreasing_by
  rename_i applicable
  exact Nat.div_lt_self (Nat.pos_of_ne_zero applicable.2) applicable.1

/-- The number that digits of a base, lowest first, stand for. -/
def ofDigits (base : Nat) : List Nat → Nat
  | [] => 0
  | digit :: rest => digit + base * ofDigits base rest

theorem ofDigits_digits {base : Nat} (usable : 2 ≤ base) (value : Nat) :
    ofDigits base (digits base value) = value := by
  fun_induction digits base value with
  | case1 value applicable ih =>
      rw [ofDigits, ih]
      exact Nat.mod_add_div value base
  | case2 value inapplicable =>
      have zero : value = 0 := by
        apply Decidable.byContradiction
        intro nonzero
        exact inapplicable ⟨usable, nonzero⟩
      rw [zero, ofDigits]

theorem lt_of_mem_digits {base value digit : Nat} (member : digit ∈ digits base value) :
    digit < base := by
  fun_induction digits base value with
  | case1 value applicable ih =>
      cases member with
      | head => exact Nat.mod_lt value (by omega)
      | tail _ later => exact ih later
  | case2 => cases member

end ChainProfile.Radix
