import ChainProfile.Merkle
import Mathlib.Algebra.Group.Nat.Defs

/-!
# The hash tree by position

The tree over a list of digests, described by position and without folding:
`width n h` digests stand at height `h`, and `node digests h i` is the `i`-th of
them.  Padding a list makes every level below the top even by repeating its last
element, so lists with one padding are the lists that the tree cannot tell apart.
-/

namespace ChainProfile.Merkle

/-- How many digests stand at a height over `count` leaves: `count / 2 ^ height`, rounded up. -/
def width (count height : Nat) : Nat := (count + 2 ^ height - 1) / 2 ^ height

/-- The digest at a position; a node without a right child takes its left child twice. -/
def node (digests : List Digest) : Nat → Nat → Digest
  | 0, index => digests.getD index .zero
  | height + 1, index =>
      pairDigest (node digests height (2 * index))
        (node digests height (min (2 * index + 1) (width digests.length height - 1)))

/-- Climbs from a height, by at most the given number of steps, until a single digest stands over
`count` leaves. -/
def climb (count : Nat) : Nat → Nat → Nat
  | 0, reached => reached
  | steps + 1, reached =>
      if width count reached ≤ 1 then reached else climb count steps (reached + 1)

/-- The least height at which a single digest stands over `count` leaves; a level is less wide than
the one below it, so `count` steps are always enough. -/
def height (count : Nat) : Nat := climb count count 0

/-- Makes the number of blocks of `2 ^ level` digests even by repeating the last block. -/
def padLevel (level : Nat) (digests : List Digest) : List Digest :=
  if digests.length / 2 ^ level % 2 = 1 then
    digests ++ digests.drop (digests.length - 2 ^ level)
  else digests

/-- Pads the levels from `level` upwards, `count` of them. -/
def padFrom : Nat → Nat → List Digest → List Digest
  | 0, _, digests => digests
  | count + 1, level, digests => padFrom count (level + 1) (padLevel level digests)

/-- Pads every level below the top. -/
def pad (digests : List Digest) : List Digest := padFrom (height digests.length) 0 digests

end ChainProfile.Merkle
