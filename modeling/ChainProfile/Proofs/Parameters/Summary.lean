import ChainProfile.Report
import ChainProfile.Proofs.Base58.PrefixTable
import ChainProfile.Proofs.Digest.Display
import ChainProfile.Proofs.Profile.Override

/-!
# Reading parameters back from their summary

A summary prints numbers and bytes in three ways: targets and byte strings as pairs of digits,
highest byte first, digests in their display form, and the bits of the genesis block as eight
digits behind a mark.  Each of them is read back as the value that was printed (`Shows`), leading
zeros included.  So summaries are equal exactly if the parameters agree in everything that is
printed.
-/

namespace ChainProfile

theorem PrefixTable.ext_get {first second : PrefixTable}
    (same : ∀ kind, first.get kind = second.get kind) : first = second := by
  cases first
  cases second
  cases same .pubkeyAddress
  cases same .scriptAddress
  cases same .secretKey
  cases same .extPublicKey
  cases same .extSecretKey
  rfl

/-- What parameters are read from a summary. -/
structure ParameterSummary.Shows (summary : ParameterSummary) (parameters : Parameters) : Prop where
  network : summary.network = parameters.network
  messageStart : Hex.decode? summary.messageStart = some parameters.messageStart
  defaultPort : summary.defaultPort = parameters.defaultPort
  rpcPort : summary.rpcPort = parameters.rpcPort
  /-- The target has thirty-two bytes, highest first. -/
  targetLimit : ∃ bytes, Hex.decode? summary.targetLimit = some bytes ∧ bytes.length = 32 ∧
    ofBigEndian bytes = parameters.targetLimit.toNat
  halvingInterval : summary.halvingInterval = parameters.emission.halvingInterval
  interimInterval : summary.interimInterval = parameters.emission.interimInterval
  fork2Height : summary.fork2Height = parameters.emission.fork2Height
  auxpowChainId : summary.auxpowChainId = parameters.auxpowChainId
  strictChainId : summary.strictChainId = parameters.strictChainId
  dataDirectory : summary.dataDirectory = parameters.dataDirectory
  requiresRpcPassword : summary.requiresRpcPassword = parameters.requiresRpcPassword
  /-- Every kind is listed in its place, and once. -/
  kinds : summary.prefixes.map Prod.fst = KeyKind.all
  once : ∀ kind : KeyKind, (summary.prefixes.map Prod.fst).count kind = 1
  prefixes : ∀ entry ∈ summary.prefixes,
    Hex.decode? entry.2 = some (parameters.prefixes.get entry.1)
  dnsSeeds : summary.dnsSeeds = parameters.dnsSeeds
  fixedSeeds : summary.fixedSeeds = parameters.fixedSeeds
  genesisHash : Digest.ofHex summary.genesisHash = .ok parameters.genesisHash
  genesisMerkleRoot :
    Digest.ofHex summary.genesisMerkleRoot = .ok parameters.genesis.header.merkleRoot
  genesisTime : summary.genesisTime = parameters.genesis.header.time
  /-- The bits have exactly eight digits behind their mark. -/
  genesisBits : ∃ digits : String, summary.genesisBits = "0x" ++ digits ∧
    (utf8 digits).length = 8 ∧ (∀ byte ∈ utf8 digits, Hex.IsDigit byte) ∧
    Hex.number? digits = some parameters.genesis.header.bits.toNat
  genesisNonce : summary.genesisNonce = parameters.genesis.header.nonce

/-- Whether two sets of parameters agree in everything that is printed. -/
structure Parameters.AgreesWherePrinted (first second : Parameters) : Prop where
  network : first.network = second.network
  messageStart : first.messageStart = second.messageStart
  defaultPort : first.defaultPort = second.defaultPort
  rpcPort : first.rpcPort = second.rpcPort
  targetLimit : first.targetLimit = second.targetLimit
  emission : first.emission = second.emission
  auxpowChainId : first.auxpowChainId = second.auxpowChainId
  strictChainId : first.strictChainId = second.strictChainId
  dataDirectory : first.dataDirectory = second.dataDirectory
  requiresRpcPassword : first.requiresRpcPassword = second.requiresRpcPassword
  prefixes : first.prefixes = second.prefixes
  dnsSeeds : first.dnsSeeds = second.dnsSeeds
  fixedSeeds : first.fixedSeeds = second.fixedSeeds
  genesisHash : first.genesisHash = second.genesisHash
  genesisMerkleRoot : first.genesis.header.merkleRoot = second.genesis.header.merkleRoot
  genesisTime : first.genesis.header.time = second.genesis.header.time
  genesisBits : first.genesis.header.bits = second.genesis.header.bits
  genesisNonce : first.genesis.header.nonce = second.genesis.header.nonce

namespace ParameterSummary

theorem exists_digits_bitsText (bits : UInt32) :
    ∃ digits : String, bitsText bits = "0x" ++ digits ∧ (utf8 digits).length = 8 ∧
      (∀ byte ∈ utf8 digits, Hex.IsDigit byte) ∧ Hex.number? digits = some bits.toNat := by
  rcases Hex.length_and_number?_fixed 8 bits.toNat with ⟨sized, digits, number⟩
  have fits : bits.toNat < 16 ^ 8 := bits.toNat_lt
  refine ⟨_, rfl, sized, digits, ?_⟩
  rw [number, Nat.mod_eq_of_lt fits]

theorem kinds_ofParameters (parameters : Parameters) :
    (ofParameters parameters).prefixes.map Prod.fst = KeyKind.all := rfl

/-- The summary of parameters shows them. -/
theorem shows_ofParameters (parameters : Parameters) :
    (ofParameters parameters).Shows parameters where
  network := rfl
  messageStart := Hex.decode?_encode parameters.messageStart
  defaultPort := rfl
  rpcPort := rfl
  targetLimit := by
    refine ⟨_, Hex.decode?_encode _, length_bigEndian 32 _, ?_⟩
    exact ofBigEndian_bigEndian parameters.targetLimit.isLt
  halvingInterval := rfl
  interimInterval := rfl
  fork2Height := rfl
  auxpowChainId := rfl
  strictChainId := rfl
  dataDirectory := rfl
  requiresRpcPassword := rfl
  kinds := rfl
  once := by
    intro kind
    rw [kinds_ofParameters]
    cases kind <;> decide
  prefixes := by
    intro entry member
    rcases List.mem_map.mp member with ⟨⟨kind, bytes⟩, listed, rfl⟩
    rcases List.mem_map.mp listed with ⟨_, _, same⟩
    cases same
    exact Hex.decode?_encode _
  dnsSeeds := rfl
  fixedSeeds := rfl
  genesisHash := Digest.ofHex_toHex _
  genesisMerkleRoot := Digest.ofHex_toHex _
  genesisTime := rfl
  genesisBits := exists_digits_bitsText _
  genesisNonce := rfl

/-- One summary does not show different parameters. -/
theorem Shows.agreesWherePrinted {summary : ParameterSummary} {first second : Parameters}
    (shows : summary.Shows first) (alsoShows : summary.Shows second) :
    first.AgreesWherePrinted second where
  network := shows.network.symm.trans alsoShows.network
  messageStart := Option.some.inj (shows.messageStart.symm.trans alsoShows.messageStart)
  defaultPort := shows.defaultPort.symm.trans alsoShows.defaultPort
  rpcPort := shows.rpcPort.symm.trans alsoShows.rpcPort
  targetLimit := by
    rcases shows.targetLimit with ⟨bytes, read, _, value⟩
    rcases alsoShows.targetLimit with ⟨others, alsoRead, _, otherValue⟩
    cases read.symm.trans alsoRead
    exact BitVec.eq_of_toNat_eq (value.symm.trans otherValue)
  emission := by
    have halving := shows.halvingInterval.symm.trans alsoShows.halvingInterval
    have fork2 := shows.fork2Height.symm.trans alsoShows.fork2Height
    calc first.emission = ⟨first.emission.halvingInterval, first.emission.fork2Height⟩ := rfl
      _ = ⟨second.emission.halvingInterval, second.emission.fork2Height⟩ := by
        rw [halving, fork2]
  auxpowChainId := shows.auxpowChainId.symm.trans alsoShows.auxpowChainId
  strictChainId := shows.strictChainId.symm.trans alsoShows.strictChainId
  dataDirectory := shows.dataDirectory.symm.trans alsoShows.dataDirectory
  requiresRpcPassword := shows.requiresRpcPassword.symm.trans alsoShows.requiresRpcPassword
  prefixes := by
    apply PrefixTable.ext_get
    intro kind
    have listed : kind ∈ summary.prefixes.map Prod.fst := by
      rw [shows.kinds]
      exact kind.mem_all
    rcases List.mem_map.mp listed with ⟨entry, member, rfl⟩
    have read := shows.prefixes entry member
    rw [alsoShows.prefixes entry member] at read
    exact (Option.some.inj read).symm
  dnsSeeds := shows.dnsSeeds.symm.trans alsoShows.dnsSeeds
  fixedSeeds := shows.fixedSeeds.symm.trans alsoShows.fixedSeeds
  genesisHash := Except.ok.inj (shows.genesisHash.symm.trans alsoShows.genesisHash)
  genesisMerkleRoot :=
    Except.ok.inj (shows.genesisMerkleRoot.symm.trans alsoShows.genesisMerkleRoot)
  genesisTime := shows.genesisTime.symm.trans alsoShows.genesisTime
  genesisBits := by
    rcases shows.genesisBits with ⟨digits, text, _, _, number⟩
    rcases alsoShows.genesisBits with ⟨others, otherText, _, _, otherNumber⟩
    have sameDigits := congrArg Digest.withoutMark (text.symm.trans otherText)
    rw [Digest.withoutMark_append, Digest.withoutMark_append] at sameDigits
    cases sameDigits
    exact UInt32.toNat_inj.mp (Option.some.inj (number.symm.trans otherNumber))
  genesisNonce := shows.genesisNonce.symm.trans alsoShows.genesisNonce

end ParameterSummary

/-- Every network starts messages with four bytes, whatever is overridden. -/
theorem Profile.length_messageStart_customized (network : Network) (overrides : List Override) :
    (customized network overrides).messageStart.length = 4 := by
  rw [customized_eq_withLast]
  cases network <;> rfl

/-- Whatever the parameters are, everything is read back from their summary as it was printed, and
summaries are equal exactly if the parameters agree in everything printed.  Parameters made from a
profile start messages with four bytes. -/
theorem ParameterSummary.shows_ofParameters_and_eq_iff :
    (∀ parameters : Parameters, (ofParameters parameters).Shows parameters) ∧
    (∀ first second : Parameters,
      ofParameters first = ofParameters second ↔ first.AgreesWherePrinted second) ∧
    ∀ (network : Network) (overrides : List Profile.Override) (genesis : Block)
      (fixedSeeds : List PeerAddress),
      (Parameters.ofChecked (Profile.customized network overrides) genesis
        fixedSeeds).messageStart.length = 4 := by
  refine ⟨shows_ofParameters, ?_, ?_⟩
  · intro first second
    constructor
    · intro same
      have shown := shows_ofParameters first
      rw [same] at shown
      exact shown.agreesWherePrinted (shows_ofParameters second)
    · intro agree
      simp only [ofParameters, agree.network, agree.messageStart, agree.defaultPort, agree.rpcPort,
        agree.targetLimit, agree.emission, agree.auxpowChainId, agree.strictChainId,
        agree.dataDirectory, agree.requiresRpcPassword, agree.prefixes, agree.dnsSeeds,
        agree.fixedSeeds, agree.genesisHash, agree.genesisMerkleRoot, agree.genesisTime,
        agree.genesisBits, agree.genesisNonce]
  · intro network overrides genesis fixedSeeds
    exact Profile.length_messageStart_customized network overrides

/-- Leading zeros are printed. -/
example : bitsText 0xff = "0x000000ff" := by
  rfl

end ChainProfile
