import ChainProfile.Block.Reader
import ChainProfile.Proofs.Transaction.RoundTrip

/-!
# Reading back block headers

Every field of a header has a fixed place, so a header is a self-delimiting format
without any condition on its fields.
-/

namespace ChainProfile.BlockHeader

open SelfDelimiting

theorem selfDelimiting : SelfDelimiting (fun _ => True) toBytes read := by
  apply headed (fun header : BlockHeader => header.version.toUInt32.toNat) (littleEndianField 4)
    (fun header _ => header.version.toUInt32.toNat_lt)
  intro version versionFits
  apply headed BlockHeader.previous Digest.selfDelimiting (fun _ _ => trivial)
  intro previous _
  apply headed BlockHeader.merkleRoot Digest.selfDelimiting (fun _ _ => trivial)
  intro merkleRoot _
  apply headed (fun header : BlockHeader => header.time.toNat) (littleEndianField 4)
    (fun header _ => header.time.toNat_lt)
  intro time timeFits
  apply headed (fun header : BlockHeader => header.bits.toNat) (littleEndianField 4)
    (fun header _ => header.bits.toNat_lt)
  intro bits bitsFit
  apply mapped (fun header : BlockHeader => header.nonce.toNat)
    (fun nonce => ⟨(UInt32.ofNat version).toInt32, previous, merkleRoot, UInt32.ofNat time,
      UInt32.ofNat bits, UInt32.ofNat nonce⟩) (littleEndianField 4) (fun _ _ => rfl)
  intro header nonce
  rw [signed32_eq_iff_ofNat, toNat_eq_iff_ofNat, toNat_eq_iff_ofNat, toNat_eq_iff_ofNat]
  constructor
  · rintro ⟨⟨⟨⟨⟨⟨_, _, sameVersion⟩, rfl⟩, rfl⟩, _, sameTime⟩, _, sameBits⟩, fits, sameNonce⟩
    exact ⟨fits, by rw [← sameVersion, ← sameTime, ← sameBits, ← sameNonce]⟩
  · rintro ⟨fits, rfl⟩
    exact ⟨⟨⟨⟨⟨⟨trivial, versionFits, rfl⟩, rfl⟩, rfl⟩, timeFits, rfl⟩, bitsFit, rfl⟩, fits, rfl⟩

/-- Headers with the same bytes are the same. -/
theorem eq_of_toBytes_eq {first second : BlockHeader} (same : first.toBytes = second.toBytes) :
    first = second :=
  selfDelimiting.eq_of_write_eq trivial trivial same

end ChainProfile.BlockHeader
