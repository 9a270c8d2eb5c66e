import ChainProfile.Digest
import Mathlib.Data.List.Nodup

/-!
# Byte strings without a collision

What a digest commits to can be stated only for byte strings of which no two have
the same digest.  `CollisionFree` says this of a list of byte strings: those that
are hashed in a given computation, never all byte strings.  A digest of two digests
joined then tells which two they are, and a list of digests which list was hashed;
`PairsApart` says the same of the pairs themselves.
Where a single pair is hashed, `Collide` names the exception itself.
-/

namespace ChainProfile

/-- No two distinct byte strings of a list have the same double SHA-256. -/
def CollisionFree (inputs : List Bytes) : Prop :=
  ∀ first ∈ inputs, ∀ second ∈ inputs, doubleSha256 first = doubleSha256 second → first = second

instance (inputs : List Bytes) : Decidable (CollisionFree inputs) := by
  unfold CollisionFree
  infer_instance

/-- Two distinct byte strings with the same double SHA-256. -/
def Collide (first second : Bytes) : Prop :=
  first ≠ second ∧ doubleSha256 first = doubleSha256 second

theorem eq_or_collide {first second : Bytes} (same : doubleSha256 first = doubleSha256 second) :
    first = second ∨ Collide first second := by
  by_cases equal : first = second
  · exact .inl equal
  · exact .inr ⟨equal, same⟩

theorem not_collide_of_digest_ne {first second : Bytes}
    (different : doubleSha256 first ≠ doubleSha256 second) : ¬Collide first second :=
  fun collision => different collision.2

/-- The bytes that are hashed for a pair of digests. -/
def Digest.joined (pair : Digest × Digest) : Bytes := pair.1.bytes ++ pair.2.bytes

theorem Digest.joined_injective {first second : Digest × Digest}
    (same : joined first = joined second) : first = second := by
  have sameLength : first.1.bytes.length = second.1.bytes.length := by
    rw [first.1.length_bytes, second.1.length_bytes]
  rcases List.append_inj same sameLength with ⟨sameLeft, sameRight⟩
  exact Prod.ext (Digest.ext_bytes sameLeft) (Digest.ext_bytes sameRight)

/-- No two distinct pairs of a list have the same digest. -/
def PairsApart (pairs : List (Digest × Digest)) : Prop :=
  ∀ first ∈ pairs, ∀ second ∈ pairs,
    pairDigest first.1 first.2 = pairDigest second.1 second.2 → first = second

theorem PairsApart.collisionFree {pairs : List (Digest × Digest)} (apart : PairsApart pairs) :
    CollisionFree (pairs.map Digest.joined) := by
  intro input inputMem other otherMem same
  rcases List.mem_map.mp inputMem with ⟨first, firstMem, rfl⟩
  rcases List.mem_map.mp otherMem with ⟨second, secondMem, rfl⟩
  rw [apart first firstMem second secondMem same]

theorem PairsApart.of_nodup {pairs : List (Digest × Digest)}
    (distinct : (pairs.map fun pair => pairDigest pair.1 pair.2).Nodup) : PairsApart pairs := by
  intro first firstMem second secondMem same
  exact List.inj_on_of_nodup_map distinct firstMem secondMem same

/-- Lists with equal images are equal if the function tells their elements apart. -/
theorem eq_of_map_eq_map {Item Image : Type} {image : Item → Image} {first second : List Item}
    (apart : ∀ left ∈ first, ∀ right ∈ second, image left = image right → left = right)
    (same : first.map image = second.map image) : first = second := by
  induction first generalizing second with
  | nil => exact (List.map_eq_nil_iff.mp same.symm).symm
  | cons left first ih =>
      cases second with
      | nil => cases same
      | cons right second =>
          simp only [List.map_cons, List.cons.injEq] at same
          have sameHead := apart left (by simp) right (by simp) same.1
          have sameTail := ih (fun item member other otherMember =>
            apart item (by simp [member]) other (by simp [otherMember])) same.2
          rw [sameHead, sameTail]

namespace CollisionFree

variable {inputs : List Bytes}

theorem mono {more : List Bytes} (free : CollisionFree more)
    (included : ∀ input ∈ inputs, input ∈ more) : CollisionFree inputs := by
  intro first firstMem second secondMem same
  exact free first (included first firstMem) second (included second secondMem) same

/-- Byte strings with pairwise distinct digests do not collide. -/
theorem of_nodup (distinct : (inputs.map doubleSha256).Nodup) : CollisionFree inputs := by
  intro first firstMem second secondMem same
  exact List.inj_on_of_nodup_map distinct firstMem secondMem same

end CollisionFree

end ChainProfile
