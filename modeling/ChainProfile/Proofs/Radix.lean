import ChainProfile.Radix
import Mathlib.Data.Nat.Digits.Lemmas

/-!
# Changing the base

Digits are converted from one base to another, highest first, by way of the number
they stand for.  A number does not tell how many zeros its digits begin with, so
that count is carried over as it is.  Converting back then restores the digits.
-/

namespace ChainProfile.Radix

theorem digits_eq_nat_digits {base : Nat} (usable : 2 ≤ base) (value : Nat) :
    digits base value = Nat.digits base value := by
  fun_induction digits base value with
  | case1 value applicable ih =>
      rw [ih, Nat.digits_def' usable (Nat.pos_of_ne_zero applicable.2)]
  | case2 value inapplicable =>
      have zero : value = 0 := by omega
      rw [zero, Nat.digits_zero]

theorem ofDigits_eq_nat_ofDigits (base : Nat) (digits : List Nat) :
    ofDigits base digits = Nat.ofDigits base digits := by
  induction digits with
  | nil => rfl
  | cons digit rest ih => rw [ofDigits, Nat.ofDigits_cons, ih]

/-- A number is written with the highest digit and the number of places that bound it. -/
theorem exists_digits_eq_append {base digit places value : Nat} (nonzero : digit ≠ 0)
    (bounded : digit < base) (least : digit * base ^ places ≤ value)
    (greatest : value < (digit + 1) * base ^ places) :
    ∃ lower, lower.length = places ∧ digits base value = lower ++ [digit] := by
  have usable : 2 ≤ base := by omega
  induction places generalizing value with
  | zero =>
      have same : value = digit := by
        simp only [Nat.pow_zero, Nat.mul_one] at least greatest
        omega
      refine ⟨[], rfl, ?_⟩
      rw [same, digits_eq_nat_digits usable, Nat.digits_of_lt base digit nonzero bounded]
      rfl
  | succ places ih =>
      have positive : 0 < digit * base ^ (places + 1) :=
        Nat.mul_pos (Nat.pos_of_ne_zero nonzero) (Nat.pow_pos (by omega))
      have filled : value ≠ 0 := by omega
      simp only [Nat.pow_succ, ← Nat.mul_assoc] at least greatest
      have quotientLeast : digit * base ^ places ≤ value / base :=
        (Nat.le_div_iff_mul_le (by omega)).mpr least
      have quotientGreatest : value / base < (digit + 1) * base ^ places :=
        (Nat.div_lt_iff_lt_mul (by omega)).mpr greatest
      rcases ih quotientLeast quotientGreatest with ⟨lower, counted, written⟩
      refine ⟨value % base :: lower, by simp [counted], ?_⟩
      rw [digits, if_pos ⟨usable, filled⟩, written, List.cons_append]

/-- How many digits, highest first, are zero before the first other one. -/
def leadingZeros (digits : List Nat) : Nat := (digits.takeWhile (· = 0)).length

/-- The digits, highest first, of the same number in another base behind as many zeros. -/
def convert (base other : Nat) (source : List Nat) : List Nat :=
  List.replicate (leadingZeros source) 0 ++ (digits other (ofDigits base source.reverse)).reverse

theorem leadingZeros_cons_zero (rest : List Nat) :
    leadingZeros (0 :: rest) = leadingZeros rest + 1 := by
  simp [leadingZeros]

theorem leadingZeros_cons_of_ne_zero {digit : Nat} (nonzero : digit ≠ 0) (rest : List Nat) :
    leadingZeros (digit :: rest) = 0 := by
  simp [leadingZeros, nonzero]

variable {base other : Nat}

/-- Digits are restored from the number they stand for and their leading zeros. -/
theorem replicate_append_digits_ofDigits (usable : 2 ≤ base) {source : List Nat}
    (bounded : ∀ digit ∈ source, digit < base) :
    List.replicate (leadingZeros source) 0 ++
      (digits base (ofDigits base source.reverse)).reverse = source := by
  induction source with
  | nil => simp [leadingZeros, ofDigits, digits]
  | cons digit rest ih =>
      by_cases zero : digit = 0
      · subst zero
        have unchanged : ofDigits base (0 :: rest).reverse = ofDigits base rest.reverse := by
          simp only [ofDigits_eq_nat_ofDigits, List.reverse_cons, Nat.ofDigits_append_zero]
        rw [unchanged, leadingZeros_cons_zero, List.replicate_succ, List.cons_append,
          ih fun digit member => bounded digit (List.mem_cons_of_mem 0 member)]
      · have restored : digits base (ofDigits base (digit :: rest).reverse) =
            (digit :: rest).reverse := by
          rw [digits_eq_nat_digits usable, ofDigits_eq_nat_ofDigits]
          apply Nat.digits_ofDigits base usable
          · intro each member
            exact bounded each (List.mem_reverse.mp member)
          · intro _
            simpa using zero
        rw [restored, leadingZeros_cons_of_ne_zero zero, List.reverse_reverse]
        rfl

/-- The highest digit of a number is not zero. -/
theorem leadingZeros_reverse_digits (usable : 2 ≤ base) (value : Nat) :
    leadingZeros (digits base value).reverse = 0 := by
  cases written : (digits base value).reverse with
  | nil => rfl
  | cons highest rest =>
      apply leadingZeros_cons_of_ne_zero
      rw [digits_eq_nat_digits usable, List.reverse_eq_cons_iff] at written
      have nonzero : value ≠ 0 := by
        intro zero
        simp [zero] at written
      have last := Nat.getLast_digit_ne_zero base nonzero
      simpa [written] using last

theorem leadingZeros_replicate_append (usable : 2 ≤ base) (zeros value : Nat) :
    leadingZeros (List.replicate zeros 0 ++ (digits base value).reverse) = zeros := by
  induction zeros with
  | zero => exact leadingZeros_reverse_digits usable value
  | succ zeros ih => rw [List.replicate_succ, List.cons_append, leadingZeros_cons_zero, ih]

theorem ofDigits_replicate_append (usable : 2 ≤ base) (zeros value : Nat) :
    ofDigits base (List.replicate zeros 0 ++ (digits base value).reverse).reverse = value := by
  rw [ofDigits_eq_nat_ofDigits, digits_eq_nat_digits usable, List.reverse_append,
    List.reverse_reverse, List.reverse_replicate, Nat.ofDigits_append_replicate_zero,
    Nat.ofDigits_digits]

/-- Converting to another base and back restores the digits. -/
theorem convert_convert (usable : 2 ≤ base) (otherUsable : 2 ≤ other) {source : List Nat}
    (bounded : ∀ digit ∈ source, digit < base) :
    convert other base (convert base other source) = source := by
  rw [convert]
  simp only [convert, leadingZeros_replicate_append otherUsable,
    ofDigits_replicate_append otherUsable]
  exact replicate_append_digits_ofDigits usable bounded

theorem lt_of_mem_convert (positive : 0 < other) {source : List Nat} {digit : Nat}
    (member : digit ∈ convert base other source) : digit < other := by
  rw [convert, List.mem_append] at member
  rcases member with zero | significant
  · rw [List.eq_of_mem_replicate zero]
    exact positive
  · exact lt_of_mem_digits (List.mem_reverse.mp significant)

end ChainProfile.Radix
