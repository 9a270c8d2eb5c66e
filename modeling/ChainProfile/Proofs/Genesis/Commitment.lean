import ChainProfile.Proofs.Block.Header
import ChainProfile.Proofs.Collision
import ChainProfile.Proofs.Parameters.Registry
import ChainProfile.Proofs.Script.Push

/-!
# What a genesis block commits to

The Merkle root of a genesis block is the digest of its coinbase, so it depends on
the message and the payout script and on nothing else; the digest of the block
depends on every input.  Two specifications therefore share a root or a digest only
if these inputs agree or two of the byte strings that are hashed collide.
-/

namespace ChainProfile

/-- A specification whose message and payout script fit the longest push of a script. -/
structure GenesisSpec.IsShort (spec : GenesisSpec) : Prop where
  message : (utf8 spec.message).length < UInt32.size
  payout : spec.payout.length < UInt32.size

/-- The serialised coinbase of the genesis block. -/
def GenesisSpec.coinbaseBytes (spec : GenesisSpec) : Bytes :=
  (Genesis.coinbase spec.message spec.payout).toBytes

/-- The eighty bytes of the header of the genesis block. -/
def GenesisSpec.headerBytes (spec : GenesisSpec) : Bytes := (Genesis.block spec).header.toBytes

namespace Genesis

theorem length_spendScript_le (message : String) :
    (spendScript message).length ≤ 12 + (utf8 message).length := by
  have header := Script.length_pushHeader_le (utf8 message).length
  have fixed : ((Script.empty.pushInteger 486604799).pushNumber 4).bytes.length = 7 := by decide
  simp only [spendScript, Script.pushData, Script.length, List.length_append, fixed]
  omega

theorem eq_of_spendScript_eq {first second : String}
    (firstShort : (utf8 first).length < UInt32.size)
    (secondShort : (utf8 second).length < UInt32.size)
    (same : spendScript first = spendScript second) : first = second := by
  simp only [spendScript, Script.pushData, Script.mk.injEq] at same
  apply utf8_injective
  exact Script.eq_of_pushHeader_append_eq firstShort secondShort (List.append_cancel_left same)

variable {first second : GenesisSpec}

theorem isSized_coinbase {spec : GenesisSpec} (short : spec.IsShort) :
    (coinbase spec.message spec.payout).IsSized := by
  have spendBound := length_spendScript_le spec.message
  have messageBound := short.message
  have payoutBound := short.payout
  unfold UInt32.size at messageBound payoutBound
  exact
    { inputs := show 1 < UInt64.size by decide
      outputs := show 1 < UInt64.size by decide
      inputScripts := by
        simp only [coinbase, Transaction.coinbase, List.forall_mem_singleton, UInt64.size]
        omega
      outputScripts := by
        simp only [coinbase, Transaction.coinbase, List.forall_mem_singleton, UInt64.size]
        omega }

theorem eq_of_coinbaseBytes_eq (firstShort : first.IsShort) (secondShort : second.IsShort)
    (same : first.coinbaseBytes = second.coinbaseBytes) :
    first.message = second.message ∧ first.payout = second.payout := by
  have sameCoinbase := Transaction.selfDelimiting.eq_of_write_eq (isSized_coinbase firstShort)
    (isSized_coinbase secondShort) same
  simp only [coinbase, Transaction.coinbase, Transaction.mk.injEq, List.cons.injEq,
    TxInput.mk.injEq, TxOutput.mk.injEq, true_and, and_true] at sameCoinbase
  rcases sameCoinbase with ⟨sameSpend, samePayout⟩
  exact ⟨eq_of_spendScript_eq firstShort.message secondShort.message sameSpend, samePayout⟩

theorem inputs_eq_or_collide_of_merkleRoot_eq (firstShort : first.IsShort)
    (secondShort : second.IsShort)
    (sameRoot : (block first).header.merkleRoot = (block second).header.merkleRoot) :
    (first.message = second.message ∧ first.payout = second.payout) ∨
      Collide first.coinbaseBytes second.coinbaseBytes := by
  rcases eq_or_collide sameRoot with sameBytes | collision
  · exact .inl (eq_of_coinbaseBytes_eq firstShort secondShort sameBytes)
  · exact .inr collision

theorem eq_or_collide_of_digest_eq (firstShort : first.IsShort) (secondShort : second.IsShort)
    (sameDigest : (block first).digest = (block second).digest) :
    first = second ∨ Collide first.coinbaseBytes second.coinbaseBytes ∨
      Collide first.headerBytes second.headerBytes := by
  rcases eq_or_collide sameDigest with sameBytes | collision
  · have sameHeader := BlockHeader.eq_of_toBytes_eq sameBytes
    -- The header shows the message and the payout script only through the root.
    have sameRoot := congrArg BlockHeader.merkleRoot sameHeader
    rcases inputs_eq_or_collide_of_merkleRoot_eq firstShort secondShort sameRoot with
      ⟨sameMessage, samePayout⟩ | collision
    · left
      simp only [block, BlockHeader.mk.injEq, true_and] at sameHeader
      rcases sameHeader with ⟨_, sameTime, sameBits, sameNonce⟩
      cases first
      cases second
      simp only at sameMessage samePayout sameTime sameBits sameNonce
      rw [sameMessage, samePayout, sameTime, sameBits, sameNonce]
    · exact .inr (.inl collision)
  · exact .inr (.inr collision)

theorem merkleRoot_eq_iff (firstShort : first.IsShort) (secondShort : second.IsShort)
    (apart : ¬Collide first.coinbaseBytes second.coinbaseBytes) :
    (block first).header.merkleRoot = (block second).header.merkleRoot ↔
      first.message = second.message ∧ first.payout = second.payout := by
  constructor
  · intro sameRoot
    exact (inputs_eq_or_collide_of_merkleRoot_eq firstShort secondShort sameRoot).resolve_right
      apart
  · rintro ⟨sameMessage, samePayout⟩
    simp only [block, sameMessage, samePayout]

theorem digest_eq_iff (firstShort : first.IsShort) (secondShort : second.IsShort)
    (apart : ¬Collide first.coinbaseBytes second.coinbaseBytes)
    (headersApart : ¬Collide first.headerBytes second.headerBytes) :
    (block first).digest = (block second).digest ↔ first = second := by
  constructor
  · intro sameDigest
    rcases eq_or_collide_of_digest_eq firstShort secondShort sameDigest with
      same | collision | collision
    · exact same
    · exact absurd collision apart
    · exact absurd collision headersApart
  · rintro rfl
    rfl

end Genesis

namespace Profile

theorem isShort_genesisSpec {profile : Profile}
    (short : (utf8 profile.genesisMessage).length < UInt32.size) :
    profile.genesisSpec.IsShort where
  message := short
  payout := show Genesis.payoutScript.length < UInt32.size by decide

variable {first second : Profile} {firstMoment secondMoment : Moment}
  {firstBuilt secondBuilt : Parameters}

/-- Two profiles that expect the same genesis hash and can both be built describe the same genesis
block, or else a collision can be read off them. -/
theorem genesisSpec_eq_or_collide
    (firstShort : (utf8 first.genesisMessage).length < UInt32.size)
    (secondShort : (utf8 second.genesisMessage).length < UInt32.size)
    (sameLiteral : first.expectedGenesisHash = second.expectedGenesisHash)
    (built : first.build firstMoment = some (.ok firstBuilt))
    (alsoBuilt : second.build secondMoment = some (.ok secondBuilt)) :
    first.genesisSpec = second.genesisSpec ∨
      Collide first.genesisSpec.coinbaseBytes second.genesisSpec.coinbaseBytes ∨
      Collide first.genesisSpec.headerBytes second.genesisSpec.headerBytes := by
  have firstExpected := (build_eq_ok_iff.mp built).1 .genesisHash
  have secondExpected := (build_eq_ok_iff.mp alsoBuilt).1 .genesisHash
  have sameDigest : (Genesis.block first.genesisSpec).digest =
      (Genesis.block second.genesisSpec).digest := by
    simp only [Check.Passes, sameLiteral] at firstExpected secondExpected
    exact Except.ok.inj (firstExpected.symm.trans secondExpected)
  exact Genesis.eq_or_collide_of_digest_eq (isShort_genesisSpec firstShort)
    (isShort_genesisSpec secondShort) sameDigest

end Profile

namespace Genesis

/-- The Merkle root of a genesis block tells the message and the payout script, and its digest the
whole specification, unless the coinbases or the headers collide.  So the literals of a profile
leave no choice of genesis inputs: two profiles that share them and can both be built have the
same inputs, or exhibit a collision. -/
theorem commits_to_inputs :
    (∀ first second : GenesisSpec, first.IsShort → second.IsShort →
      ¬Collide first.coinbaseBytes second.coinbaseBytes →
        ((block first).header.merkleRoot = (block second).header.merkleRoot ↔
          first.message = second.message ∧ first.payout = second.payout) ∧
        (¬Collide first.headerBytes second.headerBytes →
          ((block first).digest = (block second).digest ↔ first = second))) ∧
    ∀ (first second : Profile) (firstMoment secondMoment : Moment)
      (firstBuilt secondBuilt : Parameters),
      (utf8 first.genesisMessage).length < UInt32.size →
      (utf8 second.genesisMessage).length < UInt32.size →
      first.expectedGenesisHash = second.expectedGenesisHash →
      first.expectedMerkleRoot = second.expectedMerkleRoot →
      first.build firstMoment = some (.ok firstBuilt) →
      second.build secondMoment = some (.ok secondBuilt) →
      first.genesisSpec = second.genesisSpec ∨
        Collide first.genesisSpec.coinbaseBytes second.genesisSpec.coinbaseBytes ∨
        Collide first.genesisSpec.headerBytes second.genesisSpec.headerBytes := by
  constructor
  · intro first second firstShort secondShort apart
    exact ⟨merkleRoot_eq_iff firstShort secondShort apart,
      digest_eq_iff firstShort secondShort apart⟩
  · intro first second firstMoment secondMoment firstBuilt secondBuilt firstShort secondShort
      sameHash _ built alsoBuilt
    exact Profile.genesisSpec_eq_or_collide firstShort secondShort sameHash built alsoBuilt

/-- A specification with a message of one byte. -/
def plain : GenesisSpec := ⟨"e", .empty, 0, 0x207fffff, 0⟩

/-- A specification with a message of two bytes and another nonce. -/
def accented : GenesisSpec := ⟨"é", .empty, 0, 0x207fffff, 1⟩

/-- The two specifications have different roots and different digests, and the production profile
describes the same genesis block when it takes over the prefixes of the test network. -/
theorem commits_to_inputs_plain_and_accented :
    (plain.IsShort ∧ accented.IsShort ∧ ¬Collide plain.coinbaseBytes accented.coinbaseBytes ∧
      ¬Collide plain.headerBytes accented.headerBytes ∧
      (block plain).header.merkleRoot ≠ (block accented).header.merkleRoot ∧
      (block plain).digest ≠ (block accented).digest) ∧
    let original := Profile.ofNetwork .main
    let altered := Profile.customized .main [.prefixes (Profile.ofNetwork .test).prefixes]
    (∃ built, original.build (.ofWords 0 []) = some (.ok built)) ∧
      (∃ built, altered.build (.ofWords 1 []) = some (.ok built)) ∧
      (original.genesisSpec = altered.genesisSpec ∨
        Collide original.genesisSpec.coinbaseBytes altered.genesisSpec.coinbaseBytes ∨
        Collide original.genesisSpec.headerBytes altered.genesisSpec.headerBytes) := by
  have plainShort : plain.IsShort := ⟨by decide, by decide⟩
  have accentedShort : accented.IsShort := ⟨by decide, by decide⟩
  have apart : ¬Collide plain.coinbaseBytes accented.coinbaseBytes :=
    not_collide_of_digest_ne (by decide +kernel)
  have headersApart : ¬Collide plain.headerBytes accented.headerBytes :=
    not_collide_of_digest_ne (by decide +kernel)
  have committed := commits_to_inputs.1 plain accented plainShort accentedShort apart
  constructor
  · refine ⟨plainShort, accentedShort, apart, headersApart, ?_, ?_⟩
    · intro sameRoot
      exact absurd (committed.1.mp sameRoot).1 (by decide)
    · intro sameDigest
      exact absurd ((committed.2 headersApart).mp sameDigest) (by decide)
  · rcases Registry.exists_build_ofWords 0 [] with ⟨registry, registryBuilt⟩
    have built := Registry.build_eq_ok_iff.mp registryBuilt .main
    rcases Profile.exists_build_customized_prefixes .main
      (Profile.passes_ofNetwork .test .prefixes) (Moment.supplies_ofWords 1 [] _) with
      ⟨altered, alteredBuilt, _⟩
    have short : (utf8 (Profile.ofNetwork .main).genesisMessage).length < UInt32.size := by decide
    exact ⟨⟨_, built⟩, ⟨altered, alteredBuilt⟩,
      commits_to_inputs.2 _ _ _ _ _ _ short short rfl rfl built alteredBuilt⟩

end Genesis

end ChainProfile
