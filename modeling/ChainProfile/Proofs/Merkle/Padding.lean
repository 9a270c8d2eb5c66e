import ChainProfile.Proofs.Merkle.Binding
import ChainProfile.Proofs.Merkle.Levels
import Mathlib.Data.Nat.Log

/-!
# Lists with one Merkle root

Padding a list repeats the last block of every odd level below the top.  What is hashed
stays the same, because an odd last digest is paired with itself anyway: padding and folding
commute (`level_pad`).  Hence lists with one padding share a root.  Conversely one root means
one padding, as long as no two hashed pairs have the same digest and no digest of a list is
itself that of a hashed pair; without the latter a leaf of a low tree could pass for an inner
node of a taller one.
-/

namespace ChainProfile.Merkle

/-! ## The height as a logarithm -/

theorem height_eq_clog (count : Nat) : height count = Nat.clog 2 count := by
  rcases Nat.eq_zero_or_pos count with rfl | positive
  · simp [height, climb]
  · rcases isLeast_height positive with ⟨single, least⟩
    apply Nat.le_antisymm
    · apply least
      have enough : width count (Nat.clog 2 count) ≤ 1 :=
        width_le_one_iff.mpr (Nat.le_pow_clog (by decide) count)
      exact Nat.le_antisymm enough (width_pos positive _)
    · apply Nat.clog_le_of_le_pow
      exact width_le_one_iff.mp (Nat.le_of_eq single)

theorem height_eq_succ {count : Nat} (several : 1 < count) :
    height count = height ((count + 1) / 2) + 1 := by
  simp only [height_eq_clog]
  exact Nat.clog_of_one_lt (by decide) several

/-- A level over a power of two is a power of two wide. -/
theorem width_two_pow (gap top : Nat) : width (2 ^ (top + gap)) gap = 2 ^ top := by
  have positive : 0 < 2 ^ gap := Nat.pow_pos (by decide)
  rw [width, Nat.pow_add, Nat.add_sub_assoc positive, Nat.mul_comm,
    Nat.mul_add_div positive, Nat.div_eq_of_lt (by omega), Nat.add_zero]

theorem one_lt_width_two_pow {top gap lower : Nat} (below : lower < gap) :
    1 < width (2 ^ (top + gap)) lower := by
  have rest : top + gap = top + (gap - lower) + lower := by omega
  rw [rest, width_two_pow]
  exact Nat.one_lt_two_pow (by omega)

/-! ## Padding one level -/

theorem pairs_append {first second : List Digest} (even : first.length % 2 = 0) :
    pairs (first ++ second) = pairs first ++ pairs second := by
  fun_induction pairs first with
  | case1 left right rest ih =>
      simp only [List.length_cons] at even
      simp [pairs, ih (by omega)]
  | case2 last => simp at even
  | case3 => rfl

theorem pairs_drop (digests : List Digest) (count : Nat) :
    pairs (digests.drop (2 * count)) = (pairs digests).drop count := by
  induction count generalizing digests with
  | zero => simp
  | succ count ih =>
      rcases digests with _ | ⟨left, _ | ⟨right, rest⟩⟩
      · simp [pairs]
      · simp [pairs, Nat.mul_succ]
      · simpa [pairs, Nat.mul_succ] using ih rest

theorem padLevel_zero_cons_cons (left right : Digest) (rest : List Digest) :
    padLevel 0 (left :: right :: rest) = left :: right :: padLevel 0 rest := by
  have parity : (rest.length + 1 + 1) % 2 = rest.length % 2 := by omega
  simp only [padLevel, List.length_cons, Nat.pow_zero, Nat.div_one, parity]
  split
  · next odd =>
      have last : rest.length + 1 + 1 - 1 = rest.length - 1 + 2 := by omega
      rw [last]
      simp
  · rfl

/-- An odd last digest is paired with itself, so its copy adds no pair. -/
theorem pairs_padLevel_zero (digests : List Digest) : pairs (padLevel 0 digests) = pairs digests := by
  fun_induction pairs digests with
  | case1 left right rest ih => rw [padLevel_zero_cons_cons, pairs, ih]
  | case2 last => simp [padLevel, pairs]
  | case3 => rfl

/-- Repeating the last block of digests repeats the last block of pairs. -/
theorem pairs_padLevel_succ {height : Nat} {digests : List Digest}
    (whole : 2 ^ (height + 1) ∣ digests.length) :
    pairs (padLevel (height + 1) digests) =
      if (pairs digests).length / 2 ^ height % 2 = 1 then
        pairs digests ++ (pairs digests).drop ((pairs digests).length - 2 ^ height)
      else pairs digests := by
  rcases whole with ⟨blocks, size⟩
  have half : (pairs digests).length = 2 ^ height * blocks := by
    have even : 2 ^ (height + 1) * blocks = 2 * (2 ^ height * blocks) := by
      rw [Nat.pow_succ]
      ac_rfl
    rw [length_pairs, size, even]
    omega
  have double : digests.length = 2 * (pairs digests).length := by
    rw [half, size, Nat.pow_succ]
    ac_rfl
  have start : digests.length - 2 ^ (height + 1) = 2 * ((pairs digests).length - 2 ^ height) := by
    rw [double, Nat.pow_succ]
    omega
  have count : digests.length / 2 ^ (height + 1) = (pairs digests).length / 2 ^ height := by
    rw [double, Nat.pow_succ, Nat.mul_comm 2, Nat.mul_div_mul_right _ _ (by decide)]
  rw [padLevel, count]
  split
  · rw [pairs_append (by omega), start, pairs_drop]
  · rfl

theorem level_padLevel_zero (digests : List Digest) : level (padLevel 0 digests) = level digests := by
  rw [level, pairs_padLevel_zero, level]

/-- A block of digests that is repeated becomes a block of half the size. -/
theorem level_padLevel_succ {height : Nat} {digests : List Digest}
    (whole : 2 ^ (height + 1) ∣ digests.length) :
    level (padLevel (height + 1) digests) = padLevel height (level digests) := by
  rw [level, pairs_padLevel_succ whole, padLevel, level, List.length_map]
  split
  · rw [List.map_append, List.map_drop]
  · rfl

theorem mem_of_mem_pairs_padLevel {height : Nat} {digests : List Digest} {pair : Digest × Digest}
    (whole : 2 ^ height ∣ digests.length) (member : pair ∈ pairs (padLevel height digests)) :
    pair ∈ pairs digests := by
  cases height with
  | zero => rwa [pairs_padLevel_zero] at member
  | succ height =>
      rw [pairs_padLevel_succ whole] at member
      split at member
      · rcases List.mem_append.mp member with old | copy
        · exact old
        · exact List.mem_of_mem_drop copy
      · exact member

theorem length_padLevel {height blocks : Nat} {digests : List Digest}
    (size : digests.length = 2 ^ height * blocks) :
    (padLevel height digests).length = 2 ^ (height + 1) * ((blocks + 1) / 2) := by
  have positive : 0 < 2 ^ height := Nat.pow_pos (by decide)
  rw [padLevel, size, Nat.mul_div_cancel_left _ positive, Nat.pow_succ, Nat.mul_assoc]
  split
  · next odd =>
      have rounded : 2 * ((blocks + 1) / 2) = blocks + 1 := by omega
      have least : 2 ^ height ≤ 2 ^ height * blocks := Nat.le_mul_of_pos_right _ (by omega)
      rw [List.length_append, List.length_drop, size, Nat.sub_sub_self least, rounded,
        Nat.mul_succ]
  · next even =>
      have exact : 2 * ((blocks + 1) / 2) = blocks := by omega
      rw [size, exact]

theorem mem_of_mem_padLevel {height : Nat} {digests : List Digest} {digest : Digest}
    (member : digest ∈ padLevel height digests) : digest ∈ digests := by
  rw [padLevel] at member
  split at member
  · rcases List.mem_append.mp member with old | copy
    · exact old
    · exact List.mem_of_mem_drop copy
  · exact member

/-! ## Padding a number of levels -/

section PadFrom

variable {digests : List Digest} {count height : Nat}

theorem whole_padLevel (whole : 2 ^ height ∣ digests.length) :
    2 ^ (height + 1) ∣ (padLevel height digests).length := by
  rcases whole with ⟨blocks, size⟩
  exact ⟨_, length_padLevel size⟩

theorem level_padFrom_succ (whole : 2 ^ (height + 1) ∣ digests.length) :
    level (padFrom count (height + 1) digests) = padFrom count height (level digests) := by
  induction count generalizing height digests with
  | zero => rfl
  | succ count ih => rw [padFrom, ih (whole_padLevel whole), level_padLevel_succ whole, padFrom]

theorem mem_of_mem_pairs_padFrom {pair : Digest × Digest} (whole : 2 ^ height ∣ digests.length)
    (member : pair ∈ pairs (padFrom count height digests)) : pair ∈ pairs digests := by
  induction count generalizing height digests with
  | zero => exact member
  | succ count ih =>
      apply mem_of_mem_pairs_padLevel whole
      exact ih (whole_padLevel whole) member

theorem mem_of_mem_padFrom {digest : Digest} (member : digest ∈ padFrom count height digests) :
    digest ∈ digests := by
  induction count generalizing height digests with
  | zero => exact member
  | succ count ih =>
      apply mem_of_mem_padLevel
      exact ih member

/-- As many whole blocks stand at the upper end as the tree has digests there. -/
theorem length_padFrom {leaves : Nat} (size : digests.length = 2 ^ height * width leaves height) :
    (padFrom count height digests).length =
      2 ^ (height + count) * width leaves (height + count) := by
  induction count generalizing height digests with
  | zero => exact size
  | succ count ih =>
      rw [padFrom, ← Nat.add_assoc, Nat.add_right_comm]
      apply ih
      rw [width_succ]
      exact length_padLevel size

end PadFrom

/-! ## Padding every level -/

section Pad

variable {digests : List Digest}

theorem mem_of_mem_pad {digest : Digest} (member : digest ∈ pad digests) : digest ∈ digests :=
  mem_of_mem_padFrom member

theorem length_pad (nonempty : digests ≠ []) :
    (pad digests).length = 2 ^ height digests.length := by
  have bottom : digests.length = 2 ^ 0 * width digests.length 0 := by simp
  have positive : 0 < digests.length := List.length_pos_iff.mpr nonempty
  have single : width digests.length (height digests.length) = 1 := (isLeast_height positive).1
  rw [pad, length_padFrom bottom, Nat.zero_add, single, Nat.mul_one]

theorem pad_ne_nil (nonempty : digests ≠ []) : pad digests ≠ [] := by
  intro empty
  have positive := Nat.two_pow_pos (height digests.length)
  rw [← length_pad nonempty, empty] at positive
  cases positive

theorem pad_eq_padFrom (several : 1 < digests.length) :
    pad digests = padFrom (height (level digests).length) 1 (padLevel 0 digests) := by
  rw [pad, height_eq_succ several, padFrom, length_level]

theorem whole_padLevel_zero (digests : List Digest) : 2 ^ 1 ∣ (padLevel 0 digests).length :=
  whole_padLevel (Nat.one_dvd _)

/-- Padding and folding commute. -/
theorem level_pad (several : 1 < digests.length) : level (pad digests) = pad (level digests) := by
  rw [pad_eq_padFrom several, level_padFrom_succ (whole_padLevel_zero _), level_padLevel_zero, pad]

theorem one_lt_length_pad (several : 1 < digests.length) : 1 < (pad digests).length := by
  have nonempty : digests ≠ [] := by
    rintro rfl
    simp at several
  rw [length_pad nonempty, height_eq_succ several]
  exact Nat.one_lt_two_pow (Nat.succ_ne_zero _)

theorem pad_singleton (digest : Digest) : pad [digest] = [digest] := by
  simp [pad, height, climb, padFrom]

/-- Padding leaves the root as it is. -/
theorem root_pad (digests : List Digest) : root (pad digests) = root digests := by
  fun_induction root digests with
  | case1 => simp [pad, height, climb, padFrom, root]
  | case2 only => rw [pad_singleton, root]
  | case3 left right rest ih =>
      have several : 1 < (left :: right :: rest).length := by simp
      rw [← root_level (one_lt_length_pad several), level_pad several, ih]

theorem hashedPairs_eq_append (several : 1 < digests.length) :
    hashedPairs digests = pairs digests ++ hashedPairs (level digests) := by
  rcases digests with _ | ⟨left, _ | ⟨right, rest⟩⟩
  · simp at several
  · simp at several
  · rw [hashedPairs]

/-- A padded list hashes no pair that the list itself does not hash. -/
theorem mem_of_mem_hashedPairs_pad {pair : Digest × Digest}
    (member : pair ∈ hashedPairs (pad digests)) : pair ∈ hashedPairs digests := by
  fun_induction hashedPairs digests with
  | case1 => simp [pad, height, climb, padFrom, hashedPairs] at member
  | case2 only => simp [pad_singleton, hashedPairs] at member
  | case3 left right rest ih =>
      have several : 1 < (left :: right :: rest).length := by simp
      rw [hashedPairs_eq_append (one_lt_length_pad several), level_pad several] at member
      rcases List.mem_append.mp member with here | above
      · apply List.mem_append_left
        rw [pad_eq_padFrom several] at here
        rw [← pairs_padLevel_zero]
        exact mem_of_mem_pairs_padFrom (whole_padLevel_zero _) here
      · exact List.mem_append_right _ (ih above)

end Pad

/-! ## The lists with one root -/

section Roots

variable {digests : List Digest} {pair : Digest × Digest}

theorem mem_of_mem_hashedPairs_level (member : pair ∈ hashedPairs (level digests)) :
    pair ∈ hashedPairs digests := by
  rcases digests with _ | ⟨left, _ | ⟨right, rest⟩⟩
  · exact member
  · simp [level, pairs, hashedPairs] at member
  · rw [hashedPairs]
    exact List.mem_append_right _ member

theorem mem_of_mem_hashedPairs_level_iterate {height : Nat}
    (member : pair ∈ hashedPairs (level^[height] digests)) : pair ∈ hashedPairs digests := by
  induction height with
  | zero => exact member
  | succ height ih =>
      rw [Function.iterate_succ_apply'] at member
      exact ih (mem_of_mem_hashedPairs_level member)

theorem exists_mem_hashedPairs_of_mem_level {digest : Digest} (several : 1 < digests.length)
    (member : digest ∈ level digests) :
    ∃ pair ∈ hashedPairs digests, digest = pairDigest pair.1 pair.2 := by
  rcases List.mem_map.mp member with ⟨pair, hashed, rfl⟩
  rw [hashedPairs_eq_append several]
  exact ⟨pair, List.mem_append_left _ hashed, rfl⟩

variable {inputs : List Bytes} {first second : List Digest}

/-- Lists with one root have one padding, if the list of the lower tree holds no digest of a pair
that is hashed for the other. -/
theorem pad_eq_pad_of_root_eq (free : CollisionFree inputs) (firstNonempty : first ≠ [])
    (secondNonempty : second ≠ [])
    (firstHashed : ∀ pair ∈ hashedPairs first, Digest.joined pair ∈ inputs)
    (secondHashed : ∀ pair ∈ hashedPairs second, Digest.joined pair ∈ inputs)
    (ordered : height first.length ≤ height second.length)
    (fresh : ∀ digest ∈ first, ∀ pair ∈ hashedPairs second, digest ≠ pairDigest pair.1 pair.2)
    (sameRoot : root first = root second) : pad first = pad second := by
  obtain ⟨gap, rise⟩ := Nat.exists_eq_add_of_le ordered
  have tall : (pad second).length = 2 ^ (height first.length + gap) := by
    rw [length_pad secondNonempty, rise]
  have several : ∀ lower < gap, 1 < width (pad second).length lower := by
    intro lower below
    rw [tall]
    exact one_lt_width_two_pow below
  -- The level of the taller tree as high above its leaves as it is taller.
  have same : pad first = level^[gap] (pad second) := by
    apply eq_of_root_eq free
    · rw [length_level_iterate, tall, width_two_pow, length_pad firstNonempty]
    · intro pair member
      exact firstHashed pair (mem_of_mem_hashedPairs_pad member)
    · intro pair member
      apply secondHashed pair
      exact mem_of_mem_hashedPairs_pad (mem_of_mem_hashedPairs_level_iterate member)
    · rw [root_level_iterate several, root_pad, root_pad, sameRoot]
  cases gap with
  | zero => exact same
  | succ gap =>
      rcases List.exists_mem_of_ne_nil _ (pad_ne_nil firstNonempty) with ⟨digest, member⟩
      have inner : digest ∈ level (level^[gap] (pad second)) := by
        rw [← Function.iterate_succ_apply' level, ← same]
        exact member
      have wide : 1 < (level^[gap] (pad second)).length := by
        rw [length_level_iterate]
        exact several gap (Nat.lt_succ_self _)
      rcases exists_mem_hashedPairs_of_mem_level wide inner with ⟨pair, hashed, composed⟩
      have known := mem_of_mem_hashedPairs_pad (mem_of_mem_hashedPairs_level_iterate hashed)
      exact absurd composed (fresh digest (mem_of_mem_pad member) pair known)

end Roots

/-- The last digest of an odd list can be repeated without a trace, unless it is the only one. -/
theorem pad_append_repeated {digests : List Digest} {last : Digest}
    (odd : (digests ++ [last]).length % 2 = 1) (several : 3 ≤ (digests ++ [last]).length) :
    pad (digests ++ [last, last]) = pad (digests ++ [last]) := by
  simp only [List.length_append, List.length_singleton] at odd several
  have sameCount : (level (digests ++ [last, last])).length =
      (level (digests ++ [last])).length := by
    simp only [length_level, List.length_append, List.length_cons, List.length_nil]
    omega
  have even : padLevel 0 (digests ++ [last, last]) = digests ++ [last, last] := by
    rw [padLevel, if_neg]
    simp only [List.length_append, List.length_cons, List.length_nil, Nat.pow_zero, Nat.div_one]
    omega
  have repeated : padLevel 0 (digests ++ [last]) = digests ++ [last, last] := by
    simp [padLevel, odd]
  rw [pad_eq_padFrom, pad_eq_padFrom, sameCount, even, repeated]
  · simp only [List.length_append, List.length_singleton]
    omega
  · simp only [List.length_append, List.length_cons, List.length_nil]
    omega

/-- A list and its padding have the same root, so lists with one padding share a root, as do an
odd list of three digests or more and the same list with its last digest repeated.  Conversely one
root means one padding, if the digests of the hashed pairs tell the pairs apart and are none of
the digests in the lists. -/
theorem root_pad_and_pad_eq_of_root_eq :
    (∀ digests : List Digest,
      pad digests = padFrom (Nat.clog 2 digests.length) 0 digests ∧
        root (pad digests) = root digests) ∧
      (∀ first second : List Digest, pad first = pad second → root first = root second) ∧
      (∀ (digests : List Digest) (last : Digest),
        (digests ++ [last]).length % 2 = 1 → 3 ≤ (digests ++ [last]).length →
          pad (digests ++ [last, last]) = pad (digests ++ [last]) ∧
            root (digests ++ [last, last]) = root (digests ++ [last])) ∧
      ∀ first second : List Digest, first ≠ [] → second ≠ [] →
        PairsApart (hashedPairs first ++ hashedPairs second) →
        (∀ digest ∈ first ++ second, ∀ pair ∈ hashedPairs first ++ hashedPairs second,
          digest ≠ pairDigest pair.1 pair.2) →
        root first = root second → pad first = pad second := by
  have shared : ∀ first second : List Digest,
      pad first = pad second → root first = root second := by
    intro first second samePad
    rw [← root_pad first, samePad, root_pad]
  refine ⟨?_, shared, ?_, ?_⟩
  · intro digests
    rw [← height_eq_clog]
    exact ⟨rfl, root_pad digests⟩
  · intro digests last odd several
    have samePad := pad_append_repeated odd several
    exact ⟨samePad, shared _ _ samePad⟩
  · intro first second firstNonempty secondNonempty apart fresh sameRoot
    have firstHashed : ∀ pair ∈ hashedPairs first, Digest.joined pair ∈
        (hashedPairs first ++ hashedPairs second).map Digest.joined :=
      fun pair member => List.mem_map_of_mem (List.mem_append_left _ member)
    have secondHashed : ∀ pair ∈ hashedPairs second, Digest.joined pair ∈
        (hashedPairs first ++ hashedPairs second).map Digest.joined :=
      fun pair member => List.mem_map_of_mem (List.mem_append_right _ member)
    -- The argument starts from the lower tree, whichever of the two it is.
    rcases Nat.le_total (height first.length) (height second.length) with ordered | ordered
    · apply pad_eq_pad_of_root_eq apart.collisionFree firstNonempty secondNonempty firstHashed
        secondHashed ordered _ sameRoot
      intro digest digestMem pair pairMem
      exact fresh digest (List.mem_append_left _ digestMem) pair (List.mem_append_right _ pairMem)
    · apply Eq.symm
      apply pad_eq_pad_of_root_eq apart.collisionFree secondNonempty firstNonempty secondHashed
        firstHashed ordered _ sameRoot.symm
      intro digest digestMem pair pairMem
      exact fresh digest (List.mem_append_right _ digestMem) pair (List.mem_append_left _ pairMem)

/-- Three digests. -/
def trio : List Digest := [filled 1, filled 2, filled 3]

theorem nodup_trio_append :
    (trio ++ (hashedPairs trio).map fun pair => pairDigest pair.1 pair.2).Nodup := by
  decide +kernel

/-- Over three digests the same pairs are hashed as over the list with the third one twice. -/
theorem root_pad_and_pad_eq_of_root_eq_trio :
    let four := trio ++ [filled 3]
    trio ≠ [] ∧ four ≠ [] ∧ trio.length % 2 = 1 ∧ 3 ≤ trio.length ∧
      PairsApart (hashedPairs trio ++ hashedPairs four) ∧
      (∀ digest ∈ trio ++ four, ∀ pair ∈ hashedPairs trio ++ hashedPairs four,
        digest ≠ pairDigest pair.1 pair.2) ∧
      root trio = root four ∧ pad trio = four ∧ pad trio = pad four := by
  intro four
  have nonempty : trio ≠ [] := by simp [trio]
  have fourNonempty : four ≠ [] := by simp [four]
  have odd : trio.length % 2 = 1 := rfl
  have several : 3 ≤ trio.length := by decide
  have samePairs : hashedPairs four = hashedPairs trio := by
    simp [four, trio, hashedPairs, level, pairs]
  rcases List.nodup_append.mp nodup_trio_append with ⟨_, distinct, disjoint⟩
  have apart : PairsApart (hashedPairs trio ++ hashedPairs four) := by
    rw [samePairs]
    intro first firstMem second secondMem
    apply PairsApart.of_nodup distinct first _ second _
    · simpa using firstMem
    · simpa using secondMem
  have fresh : ∀ digest ∈ trio ++ four, ∀ pair ∈ hashedPairs trio ++ hashedPairs four,
      digest ≠ pairDigest pair.1 pair.2 := by
    rw [samePairs]
    intro digest digestMem pair pairMem
    have known : digest ∈ trio := by
      simp only [four, List.mem_append, List.mem_singleton] at digestMem
      rcases digestMem with member | member | rfl
      · exact member
      · exact member
      · simp [trio]
    apply disjoint digest known _ (List.mem_map_of_mem _)
    simpa using pairMem
  rcases root_pad_and_pad_eq_of_root_eq with ⟨_, _, repeated, converse⟩
  have sameRoot : root trio = root four :=
    (repeated [filled 1, filled 2] (filled 3) rfl (by decide)).2.symm
  exact ⟨nonempty, fourNonempty, odd, several, apart, fresh, sameRoot, rfl,
    converse trio four nonempty fourNonempty apart fresh sameRoot⟩

end ChainProfile.Merkle
