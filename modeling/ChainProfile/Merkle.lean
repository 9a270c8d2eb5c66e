import ChainProfile.Digest

/-!
# Merkle roots

A list of digests is folded level by level: neighbours are hashed in pairs, and
the last digest of an odd level is paired with itself.  The fold ends because a
level above two or more digests is shorter than the level below it.
-/

namespace ChainProfile.Merkle

/-- The pairs hashed to make the next level; an odd last digest is its own partner. -/
def pairs : List Digest → List (Digest × Digest)
  | left :: right :: rest => (left, right) :: pairs rest
  | [last] => [(last, last)]
  | [] => []

/-- The level above a list of digests. -/
def level (digests : List Digest) : List Digest :=
  (pairs digests).map fun (left, right) => pairDigest left right

theorem length_pairs (digests : List Digest) :
    (pairs digests).length = (digests.length + 1) / 2 := by
  fun_induction pairs digests with
  | case1 left right rest ih => simp only [List.length_cons, ih]; omega
  | case2 => simp
  | case3 => rfl

/-- A level has half as many digests as the one below it, rounded up. -/
theorem length_level (digests : List Digest) :
    (level digests).length = (digests.length + 1) / 2 := by
  simp [level, length_pairs]

/-- The root over a list of digests: zero for none, and a single digest is its own root. -/
def root : List Digest → Digest
  | [] => .zero
  | [only] => only
  | left :: right :: rest => root (level (left :: right :: rest))
termination_by digests => digests.length
decreasing_by simp only [length_level, List.length_cons]; omega

/-- Every pair that is hashed on the way to the root, level by level. -/
def hashedPairs : List Digest → List (Digest × Digest)
  | [] => []
  | [_] => []
  | left :: right :: rest =>
      pairs (left :: right :: rest) ++ hashedPairs (level (left :: right :: rest))
termination_by digests => digests.length
decreasing_by simp only [length_level, List.length_cons]; omega

end ChainProfile.Merkle
