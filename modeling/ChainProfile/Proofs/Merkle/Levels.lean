import ChainProfile.Block
import ChainProfile.Merkle.Tree
import Mathlib.Logic.Function.Iterate
import Mathlib.Order.Bounds.Defs

/-!
# Merkle levels by position

Folding a list of digests a number of times leaves the nodes of the hash tree at that
height, from left to right.  Where a level is odd, its last node is paired with itself:
the place of the missing right neighbour, cut down to the last place of the level, is that
of the node.  The fold stops at the least height with a single node, which is the root.
-/

namespace ChainProfile.Merkle

/-! ## Widths and the height of the tree -/

@[simp]
theorem width_zero (count : Nat) : width count 0 = count := by
  simp [width]

theorem width_succ (count height : Nat) :
    width count (height + 1) = (width count height + 1) / 2 := by
  have positive : 0 < 2 ^ height := Nat.pow_pos (by decide)
  have split : count + 2 ^ height * 2 - 1 = count + 2 ^ height - 1 + 2 ^ height := by omega
  rw [width, width, Nat.pow_succ, ← Nat.div_div_eq_div_mul, split, Nat.add_div_right _ positive]

theorem width_pos {count : Nat} (positive : 0 < count) (height : Nat) :
    0 < width count height := by
  induction height with
  | zero => simpa using positive
  | succ height ih =>
      rw [width_succ]
      omega

theorem width_le_one_iff {count height : Nat} : width count height ≤ 1 ↔ count ≤ 2 ^ height := by
  have positive : 0 < 2 ^ height := Nat.pow_pos (by decide)
  rw [width, ← Nat.lt_succ_iff, Nat.div_lt_iff_lt_mul positive]
  omega

theorem isLeast_climb (count : Nat) {steps reached : Nat}
    (enough : width count (reached + steps) ≤ 1) :
    IsLeast {top | reached ≤ top ∧ width count top ≤ 1} (climb count steps reached) := by
  induction steps generalizing reached with
  | zero => exact ⟨⟨Nat.le_refl _, enough⟩, fun top member => member.1⟩
  | succ steps ih =>
      rw [climb]
      split
      · next single => exact ⟨⟨Nat.le_refl _, single⟩, fun top member => member.1⟩
      · next several =>
          have further : width count (reached + 1 + steps) ≤ 1 := by
            rw [Nat.add_right_comm]
            exact enough
          rcases ih further with ⟨⟨above, single⟩, least⟩
          refine ⟨⟨Nat.le_of_succ_le above, single⟩, ?_⟩
          rintro top ⟨atLeast, topSingle⟩
          apply least
          refine ⟨?_, topSingle⟩
          -- The level that was reached is too wide to be the top.
          have other : top ≠ reached := by
            rintro rfl
            exact several topSingle
          omega

theorem isLeast_height {count : Nat} (positive : 0 < count) :
    IsLeast {top | width count top = 1} (height count) := by
  have enough : width count (0 + count) ≤ 1 := by
    rw [Nat.zero_add, width_le_one_iff]
    exact Nat.le_of_lt Nat.lt_two_pow_self
  rcases isLeast_climb count enough with ⟨⟨_, single⟩, least⟩
  constructor
  · exact Nat.le_antisymm single (width_pos positive _)
  · intro top topSingle
    exact least ⟨Nat.zero_le _, Nat.le_of_eq topSingle⟩

/-! ## One level -/

/-- The pair of digests that makes a digest of the next level. -/
def children (digests : List Digest) (index : Nat) : Digest × Digest :=
  (digests.getD (2 * index) .zero, digests.getD (min (2 * index + 1) (digests.length - 1)) .zero)

theorem children_cons_cons {left right : Digest} {rest : List Digest} {index : Nat}
    (inside : 2 * index < rest.length) :
    children (left :: right :: rest) (index + 1) = children rest index := by
  have clamp : min (2 * (index + 1) + 1) ((left :: right :: rest).length - 1) =
      min (2 * index + 1) (rest.length - 1) + 2 := by
    simp only [List.length_cons]
    omega
  rw [children, clamp]
  rfl

theorem pairs_eq_map_range (digests : List Digest) :
    pairs digests = (List.range ((digests.length + 1) / 2)).map (children digests) := by
  fun_induction pairs digests with
  | case1 left right rest ih =>
      have half : ((left :: right :: rest).length + 1) / 2 = (rest.length + 1) / 2 + 1 := by
        simp only [List.length_cons]
        omega
      have first : children (left :: right :: rest) 0 = (left, right) := by
        simp [children]
      rw [half, List.range_succ_eq_map, List.map_cons, List.map_map, first, ih]
      congr 1
      apply List.map_congr_left
      intro index member
      rw [List.mem_range] at member
      exact (children_cons_cons (by omega)).symm
  | case2 last => simp [children, List.range_succ]
  | case3 => rfl

/-! ## All levels -/

/-- Folding a number of times leaves the nodes at that height. -/
theorem level_iterate_eq_map_node (digests : List Digest) (height : Nat) :
    level^[height] digests =
      (List.range (width digests.length height)).map (node digests height) := by
  induction height with
  | zero =>
      rw [Function.iterate_zero, id_eq, width_zero]
      apply List.ext_getElem
      · simp
      · intro index inside _
        simp [node, inside]
  | succ height ih =>
      rw [Function.iterate_succ_apply', ih, level, pairs_eq_map_range, List.map_map,
        List.length_map, List.length_range, ← width_succ]
      apply List.map_congr_left
      intro index member
      rw [List.mem_range, width_succ] at member
      -- The cut-off place of the right child lies in the level below, like that of the left one.
      have leftInside : 2 * index < width digests.length height := by omega
      have rightInside : min (2 * index + 1) (width digests.length height - 1) <
          width digests.length height := by omega
      simp [children, node, leftInside, rightInside]

theorem length_level_iterate (digests : List Digest) (height : Nat) :
    (level^[height] digests).length = width digests.length height := by
  rw [level_iterate_eq_map_node, List.length_map, List.length_range]

theorem root_level {digests : List Digest} (several : 1 < digests.length) :
    root (level digests) = root digests := by
  rcases digests with _ | ⟨left, _ | ⟨right, rest⟩⟩
  · simp at several
  · simp at several
  · rw [root]

/-- As long as no level below is a single digest, folding keeps the root. -/
theorem root_level_iterate {digests : List Digest} {height : Nat}
    (several : ∀ lower < height, 1 < width digests.length lower) :
    root (level^[height] digests) = root digests := by
  induction height with
  | zero => rfl
  | succ height ih =>
      have wide : 1 < (level^[height] digests).length := by
        rw [length_level_iterate]
        exact several height (Nat.lt_succ_self _)
      rw [Function.iterate_succ_apply', root_level wide]
      apply ih
      intro lower below
      exact several lower (Nat.lt_succ_of_lt below)

theorem root_eq_node_height {digests : List Digest} (nonempty : digests ≠ []) :
    root digests = node digests (height digests.length) 0 := by
  have positive : 0 < digests.length := List.length_pos_iff.mpr nonempty
  rcases isLeast_height positive with ⟨single, least⟩
  have several : ∀ lower < height digests.length, 1 < width digests.length lower := by
    intro lower below
    have occupied := width_pos positive lower
    have other : width digests.length lower ≠ 1 :=
      fun early => absurd (least early) (Nat.not_le_of_lt below)
    omega
  have top : level^[height digests.length] digests = [node digests (height digests.length) 0] := by
    rw [level_iterate_eq_map_node, single]
    rfl
  calc root digests = root (level^[height digests.length] digests) :=
        (root_level_iterate several).symm
    _ = root [node digests (height digests.length) 0] := by rw [top]
    _ = node digests (height digests.length) 0 := by rw [root]

/-- The root over no digests is zero.  The root over any others is the node at the least height
with a single node; and the root of a block is the root over its identifiers in order. -/
theorem root_eq_node_of_isLeast_height :
    root [] = .zero ∧
      (∀ digests : List Digest, digests ≠ [] →
        IsLeast {top | width digests.length top = 1} (height digests.length) ∧
          root digests = node digests (height digests.length) 0) ∧
      ∀ block : Block,
        (block.transactions = [] → block.merkleRoot = .zero) ∧
          (block.transactions ≠ [] →
            block.merkleRoot = node (block.transactions.map Transaction.txid)
              (height block.transactions.length) 0) := by
  have nothing : root [] = .zero := by rw [root]
  refine ⟨nothing, ?_, ?_⟩
  · intro digests nonempty
    exact ⟨isLeast_height (List.length_pos_iff.mpr nonempty), root_eq_node_height nonempty⟩
  · intro block
    constructor
    · intro empty
      rw [Block.merkleRoot, Block.txids, empty, List.map_nil, nothing]
    · intro nonempty
      have known : block.txids ≠ [] := by simpa [Block.txids] using nonempty
      rw [Block.merkleRoot, root_eq_node_height known, Block.txids, List.length_map]

/-- A block of five transactions, which differ in their lock times. -/
def quintet : Block where
  header := ⟨1, .zero, .zero, 1405274442, 0x1d00ffff, 7⟩
  transactions := [1, 2, 3, 4, 5].map fun lockTime => ⟨1, [], [], lockTime⟩

/-- Over five digests two levels in a row are odd. -/
theorem root_eq_node_of_isLeast_height_quintet :
    quintet.txids ≠ [] ∧ height 5 = 3 ∧ root quintet.txids = node quintet.txids 3 0 ∧
      quintet.transactions ≠ [] ∧
      quintet.merkleRoot =
        let leaf (index : Nat) := quintet.txids.getD index .zero
        pairDigest
          (pairDigest (pairDigest (leaf 0) (leaf 1)) (pairDigest (leaf 2) (leaf 3)))
          (pairDigest (pairDigest (leaf 4) (leaf 4)) (pairDigest (leaf 4) (leaf 4))) := by
  have three : height 5 = 3 := by decide
  have known : quintet.txids ≠ [] := by simp [quintet, Block.txids]
  have filled : quintet.transactions ≠ [] := by simp [quintet]
  have count : quintet.txids.length = 5 := rfl
  rcases root_eq_node_of_isLeast_height with ⟨_, roots, blocks⟩
  have rootIsNode := (roots quintet.txids known).2
  have sealIsNode := (blocks quintet).2 filled
  refine ⟨known, three, ?_, filled, ?_⟩
  · rw [rootIsNode, count, three]
  · have five : quintet.transactions.length = 5 := rfl
    rw [sealIsNode, five, three, ← Block.txids]
    simp [node, width, count]

end ChainProfile.Merkle
