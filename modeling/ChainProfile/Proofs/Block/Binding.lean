import ChainProfile.Proofs.Block.Header
import ChainProfile.Proofs.Merkle.Binding

/-!
# What a block's digest commits to

The digest of a sealed block determines the block among those with as many
transactions, as long as no two of the byte strings hashed for the two blocks
collide.  The argument goes down the chain of hashes: the digest determines the
header's bytes and with them the header, the header's Merkle root determines the
identifiers in order, and each identifier determines its transaction.
-/

namespace ChainProfile.Block

variable {first second : Block}

theorem toBytes_header_mem_preimages (block : Block) :
    block.header.toBytes ∈ block.preimages := by
  simp [preimages]

theorem toBytes_mem_preimages {block : Block} {transaction : Transaction}
    (member : transaction ∈ block.transactions) : transaction.toBytes ∈ block.preimages := by
  apply List.mem_append_left
  exact List.mem_cons_of_mem _ (List.mem_map_of_mem member)

theorem joined_mem_preimages {block : Block} {pair : Digest × Digest}
    (member : pair ∈ Merkle.hashedPairs block.txids) : Digest.joined pair ∈ block.preimages := by
  apply List.mem_append_right
  exact List.mem_map_of_mem member

/-- The identifiers in order determine the transactions. -/
theorem transactions_eq_of_txids_eq (free : CollisionFree (first.preimages ++ second.preimages))
    (firstSized : ∀ transaction ∈ first.transactions, transaction.IsSized)
    (secondSized : ∀ transaction ∈ second.transactions, transaction.IsSized)
    (sameTxids : first.txids = second.txids) : first.transactions = second.transactions := by
  refine eq_of_map_eq_map ?_ sameTxids
  intro transaction member other otherMember sameTxid
  have sameBytes := free _ (List.mem_append_left _ (toBytes_mem_preimages member)) _
    (List.mem_append_right _ (toBytes_mem_preimages otherMember)) sameTxid
  exact Transaction.selfDelimiting.eq_of_write_eq (firstSized transaction member)
    (secondSized other otherMember) sameBytes

/-- The digest of a sealed block determines every field of its header and every part of its
transactions. -/
theorem eq_of_digest_eq
    (firstSized : ∀ transaction ∈ first.transactions, transaction.IsSized)
    (secondSized : ∀ transaction ∈ second.transactions, transaction.IsSized)
    (sameCount : first.transactions.length = second.transactions.length)
    (firstSealed : first.IsSealed) (secondSealed : second.IsSealed)
    (free : CollisionFree (first.preimages ++ second.preimages))
    (sameDigest : first.digest = second.digest) : first = second := by
  have sameHeader : first.header = second.header := by
    apply BlockHeader.eq_of_toBytes_eq
    exact free _ (List.mem_append_left _ (toBytes_header_mem_preimages first)) _
      (List.mem_append_right _ (toBytes_header_mem_preimages second)) sameDigest
  have sameRoot : Merkle.root first.txids = Merkle.root second.txids := by
    calc Merkle.root first.txids = first.header.merkleRoot := firstSealed.symm
      _ = second.header.merkleRoot := by rw [sameHeader]
      _ = Merkle.root second.txids := secondSealed
  have sameTxids : first.txids = second.txids := by
    apply Merkle.eq_of_root_eq free _ _ _ sameRoot
    · simpa [txids] using sameCount
    · intro pair member
      exact List.mem_append_left _ (joined_mem_preimages member)
    · intro pair member
      exact List.mem_append_right _ (joined_mem_preimages member)
  have sameTransactions := transactions_eq_of_txids_eq free firstSized secondSized sameTxids
  cases first
  cases second
  simp only at sameHeader sameTransactions
  rw [sameHeader, sameTransactions]

/-- A block of two transactions whose header states the given root. -/
def couple (root : Digest) : Block where
  header := ⟨1, .zero, root, 1405274442, 0x1d00ffff, 7⟩
  transactions := [.coinbase ⟨[0x51]⟩ 5 .empty, .coinbase ⟨[0x52]⟩ (-5) .empty]

theorem isSized_of_mem_couple {root : Digest} :
    ∀ transaction ∈ (couple root).transactions, transaction.IsSized := by
  simp only [couple, List.forall_mem_cons, List.not_mem_nil, false_implies, implies_true, and_true]
  constructor
  · constructor <;> decide
  · constructor <;> decide

theorem collisionFree_preimages_couple : CollisionFree (couple .zero).sealed.preimages :=
  .of_nodup (by decide +kernel)

/-- Sealing the block gives the same block as stating the root that its transactions have. -/
theorem sealed_couple_eq :
    (couple .zero).sealed.IsSealed ∧ (couple (couple .zero).merkleRoot).IsSealed ∧
      (couple .zero).sealed = couple (couple .zero).merkleRoot := by
  have firstSealed : (couple .zero).sealed.IsSealed := rfl
  have secondSealed : (couple (couple .zero).merkleRoot).IsSealed := rfl
  refine ⟨firstSealed, secondSealed, ?_⟩
  apply eq_of_digest_eq isSized_of_mem_couple isSized_of_mem_couple rfl firstSealed secondSealed
  · apply collisionFree_preimages_couple.mono
    intro input member
    exact (List.mem_append.mp member).elim id id
  · rfl

end ChainProfile.Block
