import ChainProfile.Peer
import Mathlib.Data.List.Infix

/-!
# Drawing from an endless source

A draw looks at the words of a source one after another until it accepts one.  What it returns is
told from the first words of the source: the accepted ones among them, each scaled down to a number
below the range, are the draws that the words give.  A draw adds one to the draws of the words
before it.  It ends exactly if some word behind its place is accepted, that is, if some first words
give more draws than the words before that place.
-/

namespace ChainProfile.RandomWords

/-- The draws that words give, in order. -/
def draws (range : Nat) (words : List UInt64) : List Nat :=
  (words.filter (accepts range)).map (scaled range)

/-- The first words of a source. -/
def firstWords (words : RandomWords) (length : Nat) : List UInt64 := (List.range length).map words

section Draws

variable {range : Nat}

theorem length_draws (words : List UInt64) :
    (draws range words).length = words.countP (accepts range) := by
  rw [draws, List.length_map, List.countP_eq_length_filter]

theorem draws_append (words more : List UInt64) :
    draws range (words ++ more) = draws range words ++ draws range more := by
  simp [draws]

theorem scaled_lt (positive : 0 < range) (word : UInt64) : scaled range word < range := by
  apply Nat.div_lt_of_lt_mul
  exact Nat.mul_lt_mul_of_pos_right word.toNat_lt_size positive

theorem lt_of_mem_draws (positive : 0 < range) {words : List UInt64} {number : Nat}
    (drawn : number ∈ draws range words) : number < range := by
  rcases List.mem_map.mp drawn with ⟨word, _, rfl⟩
  exact scaled_lt positive word

/-- The word zero is accepted whatever the range is. -/
theorem accepts_zero : accepts range 0 := by simp [accepts]

end Draws

section Source

variable {range : Nat} {words : RandomWords} {place length : Nat}

theorem firstWords_succ :
    firstWords words (place + 1) = firstWords words place ++ [words place] := by
  simp [firstWords, List.range_succ]

theorem firstWords_isPrefix (shorter : place ≤ length) :
    firstWords words place <+: firstWords words length := by
  rcases Nat.exists_eq_add_of_le shorter with ⟨more, rfl⟩
  simp [firstWords, List.range_add]

theorem draws_firstWords_isPrefix (shorter : place ≤ length) :
    draws range (firstWords words place) <+: draws range (firstWords words length) :=
  ((firstWords_isPrefix shorter).filter _).map _

/-- Of two lists of draws from the first words of a source, the shorter one begins the other. -/
theorem draws_firstWords_isPrefix_of_length_le
    (fewer : (draws range (firstWords words place)).length ≤
      (draws range (firstWords words length)).length) :
    draws range (firstWords words place) <+: draws range (firstWords words length) :=
  List.prefix_of_prefix_length_le (draws_firstWords_isPrefix (Nat.le_max_left place length))
    (draws_firstWords_isPrefix (Nat.le_max_right place length)) fewer

theorem draws_firstWords_succ :
    draws range (firstWords words (place + 1)) =
      if accepts range (words place) then
        draws range (firstWords words place) ++ [scaled range (words place)]
      else draws range (firstWords words place) := by
  rw [firstWords_succ, draws_append]
  split <;> simp_all [draws]

/-- A draw that ends adds its number to the draws of the words before it. -/
theorem draws_firstWords_of_draw {result : Nat × Nat}
    (ends : words.draw range place = some result) :
    draws range (firstWords words result.2) =
      draws range (firstWords words place) ++ [result.1] := by
  refine draw.partial_correctness words range (fun place result =>
    draws range (firstWords words result.2) = draws range (firstWords words place) ++ [result.1])
    ?_ place result ends
  -- A refused word adds no draw, so what holds behind it holds before it.
  intro later ih place result ends
  split at ends
  · next accepted =>
      cases ends
      rw [draws_firstWords_succ, if_pos accepted]
  · next refused => rw [ih _ _ ends, draws_firstWords_succ, if_neg refused]

/-- A draw ends if some first words give more draws than the words before it. -/
theorem exists_draw_eq_some {place : Nat}
    (more : (draws range (firstWords words place)).length <
      (draws range (firstWords words length)).length) :
    ∃ result, words.draw range place = some result := by
  have behind : place < length := by
    by_contra before
    have fewer : (draws range (firstWords words length)).length ≤
        (draws range (firstWords words place)).length :=
      (draws_firstWords_isPrefix (Nat.le_of_not_lt before)).length_le
    omega
  rw [draw]
  split
  · exact ⟨_, rfl⟩
  · next refused =>
      have later : (draws range (firstWords words (place + 1))).length <
          (draws range (firstWords words length)).length := by
        rw [draws_firstWords_succ, if_neg refused]
        exact more
      exact exists_draw_eq_some later
termination_by length - place

end Source

end ChainProfile.RandomWords
