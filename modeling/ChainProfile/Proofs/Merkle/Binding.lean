import ChainProfile.Merkle
import ChainProfile.Proofs.Collision

/-!
# What a Merkle root commits to

Over lists of one length the root determines the list, as long as no two of the
pairs hashed on the way collide.  The lists are recovered level by level from the
top: equal levels have equal pairs below them, and equal pairs come from equal
digests because an odd last digest is never dropped.  Lists of different lengths
can share a root, as the pairs of `[a]` are those of `[a, a]`.
-/

namespace ChainProfile.Merkle

/-- The pairs of a level and its length determine the level. -/
theorem eq_of_pairs_eq {first second : List Digest} (sameLength : first.length = second.length)
    (samePairs : pairs first = pairs second) : first = second := by
  fun_induction pairs first generalizing second with
  | case1 left right rest ih =>
      rcases second with _ | ⟨otherLeft, _ | ⟨otherRight, others⟩⟩
      · cases sameLength
      · simp at sameLength
      · simp only [pairs, List.cons.injEq, Prod.mk.injEq] at samePairs
        rcases samePairs with ⟨⟨rfl, rfl⟩, sameRest⟩
        simp only [List.length_cons, Nat.add_right_cancel_iff] at sameLength
        rw [ih sameLength sameRest]
  | case2 last =>
      rcases second with _ | ⟨other, _ | ⟨_, _⟩⟩
      · cases sameLength
      · simp only [pairs, List.cons.injEq, Prod.mk.injEq] at samePairs
        rw [samePairs.1.1]
      · simp at sameLength
  | case3 => exact (List.eq_nil_of_length_eq_zero sameLength.symm).symm

variable {inputs : List Bytes} {first second : List Digest}

/-- One step down: equal levels stand over equal digests. -/
theorem eq_of_level_eq (free : CollisionFree inputs) (sameLength : first.length = second.length)
    (firstHashed : ∀ pair ∈ pairs first, Digest.joined pair ∈ inputs)
    (secondHashed : ∀ pair ∈ pairs second, Digest.joined pair ∈ inputs)
    (sameLevel : level first = level second) : first = second := by
  apply eq_of_pairs_eq sameLength
  refine eq_of_map_eq_map ?_ sameLevel
  intro pair pairMem other otherMem sameDigest
  apply Digest.joined_injective
  exact free _ (firstHashed pair pairMem) _ (secondHashed other otherMem) sameDigest

/-- Lists of one length with the same root are equal, if no two of the byte strings hashed for
the two roots collide. -/
theorem eq_of_root_eq (free : CollisionFree inputs) (sameLength : first.length = second.length)
    (firstHashed : ∀ pair ∈ hashedPairs first, Digest.joined pair ∈ inputs)
    (secondHashed : ∀ pair ∈ hashedPairs second, Digest.joined pair ∈ inputs)
    (sameRoot : root first = root second) : first = second := by
  fun_induction root first generalizing second with
  | case1 => exact (List.eq_nil_of_length_eq_zero sameLength.symm).symm
  | case2 only =>
      rcases second with _ | ⟨other, _ | ⟨_, _⟩⟩
      · cases sameLength
      · simpa [root] using sameRoot
      · simp at sameLength
  | case3 left right rest ih =>
      rcases second with _ | ⟨otherLeft, _ | ⟨otherRight, others⟩⟩
      · cases sameLength
      · simp at sameLength
      · rw [hashedPairs, List.forall_mem_append] at firstHashed secondHashed
        rw [root] at sameRoot
        apply eq_of_level_eq free sameLength firstHashed.1 secondHashed.1
        apply ih _ firstHashed.2 secondHashed.2 sameRoot
        rw [length_level, length_level, sameLength]

/-- Lists of one length have the same root only if they are equal, digest by digest, as long as no
two of the pairs that are hashed for the two roots have the same digest. -/
theorem root_eq_root_iff_of_length_eq {first second : List Digest}
    (sameLength : first.length = second.length)
    (apart : PairsApart (hashedPairs first ++ hashedPairs second)) :
    root first = root second ↔ first = second := by
  constructor
  · intro sameRoot
    apply eq_of_root_eq apart.collisionFree sameLength _ _ sameRoot
    · intro pair member
      exact List.mem_map_of_mem (List.mem_append_left _ member)
    · intro pair member
      exact List.mem_map_of_mem (List.mem_append_right _ member)
  · rintro rfl
    rfl

/-- A digest of one byte throughout. -/
def filled (byte : UInt8) : Digest := ⟨List.replicate 32 byte, List.length_replicate⟩

/-- Three digests, of which the last is the inner node above the two others. -/
def nested (left right : Digest) : List Digest := [left, right, pairDigest left right]

theorem pairsApart_nested :
    PairsApart (hashedPairs (nested (filled 1) (filled 2)) ++
      hashedPairs (nested (filled 2) (filled 1))) :=
  .of_nodup (by decide +kernel)

/-- Exchanging two digests of an odd list, the last of which is an inner node, changes the root. -/
theorem root_eq_root_iff_of_length_eq_nested :
    (nested (filled 1) (filled 2)).length = (nested (filled 2) (filled 1)).length ∧
      PairsApart (hashedPairs (nested (filled 1) (filled 2)) ++
        hashedPairs (nested (filled 2) (filled 1))) ∧
      root (nested (filled 1) (filled 2)) ≠ root (nested (filled 2) (filled 1)) := by
  have sameLength :
      (nested (filled 1) (filled 2)).length = (nested (filled 2) (filled 1)).length := by
    simp [nested]
  have different : nested (filled 1) (filled 2) ≠ nested (filled 2) (filled 1) := by
    simp [nested, filled]
  refine ⟨sameLength, pairsApart_nested, ?_⟩
  intro sameRoot
  exact different ((root_eq_root_iff_of_length_eq sameLength pairsApart_nested).mp sameRoot)

end ChainProfile.Merkle
