import ChainProfile.Parameters
import ChainProfile.Proofs.Base58.PrefixTable
import ChainProfile.Proofs.Peer.FixedSeed
import ChainProfile.Proofs.Profile.Override

/-!
# When parameters can be built

A profile is checked in five respects, in a fixed order.  Building fails exactly when
some check fails, and then the error is the report of the first one.  When every
check passes, parameters are built exactly if the moment supplies enough random words
for the fixed seeds, and building never ends otherwise.  The parameters that are built
agree with their own genesis block, whatever fields of the profile were overridden.
-/

namespace ChainProfile

namespace Profile

/-- What is checked of a profile. -/
inductive Check where
  | hashForm
  | rootForm
  | merkleRoot
  | genesisHash
  | prefixes
deriving DecidableEq

namespace Check

/-- The place of a check in the order of checks. -/
def rank : Check → Nat
  | .hashForm => 0
  | .rootForm => 1
  | .merkleRoot => 2
  | .genesisHash => 3
  | .prefixes => 4

/-- What a check demands of a profile. -/
def Passes (profile : Profile) : Check → Prop
  | .hashForm => ∃ expected, Digest.ofHex profile.expectedGenesisHash = .ok expected
  | .rootForm => ∃ expected, Digest.ofHex profile.expectedMerkleRoot = .ok expected
  | .merkleRoot =>
      Digest.ofHex profile.expectedMerkleRoot =
        .ok (Genesis.block profile.genesisSpec).header.merkleRoot
  | .genesisHash =>
      Digest.ofHex profile.expectedGenesisHash = .ok (Genesis.block profile.genesisSpec).digest
  | .prefixes => profile.prefixes.IsUsable

/-- The error by which a check that a profile fails is reported: it names the network of the
profile, the value that was expected and the value that was computed. -/
inductive Reports (profile : Profile) : Check → ChainError → Prop where
  | hashForm {fault : HexFault}
      (malformed : Digest.ofHex profile.expectedGenesisHash = .error fault) :
      Reports profile .hashForm (.invalidHex fault)
  | rootForm {fault : HexFault}
      (malformed : Digest.ofHex profile.expectedMerkleRoot = .error fault) :
      Reports profile .rootForm (.invalidHex fault)
  | merkleRoot {expected : Digest}
      (literal : Digest.ofHex profile.expectedMerkleRoot = .ok expected) :
      Reports profile .merkleRoot
        (.merkleRootMismatch profile.network expected
          (Genesis.block profile.genesisSpec).header.merkleRoot)
  | genesisHash {expected : Digest}
      (literal : Digest.ofHex profile.expectedGenesisHash = .ok expected) :
      Reports profile .genesisHash
        (.genesisHashMismatch profile.network expected (Genesis.block profile.genesisSpec).digest)
  | prefixes {fault : PrefixFault} (first : profile.prefixes.IsFirstFault fault) :
      Reports profile .prefixes (.prefixes profile.network fault)

/-- Whether a profile fails a check and passes every earlier one. -/
def IsFirstFailure (profile : Profile) (check : Check) : Prop :=
  ¬check.Passes profile ∧ ∀ earlier : Check, earlier.rank < check.rank → earlier.Passes profile

variable {profile : Profile}

theorem IsFirstFailure.unique {check other : Check} (failing : check.IsFirstFailure profile)
    (alsoFailing : other.IsFirstFailure profile) : check = other := by
  rcases Nat.lt_trichotomy check.rank other.rank with before | same | after
  · exact absurd (alsoFailing.2 check before) failing.1
  · cases check <;> cases other <;> first | rfl | cases same
  · exact absurd (failing.2 other after) alsoFailing.1

theorem Reports.unique {check : Check} {error other : ChainError}
    (reported : check.Reports profile error) (alsoReported : check.Reports profile other) :
    error = other := by
  cases reported with
  | hashForm malformed =>
      cases alsoReported with
      | hashForm alsoMalformed => cases malformed.symm.trans alsoMalformed; rfl
  | rootForm malformed =>
      cases alsoReported with
      | rootForm alsoMalformed => cases malformed.symm.trans alsoMalformed; rfl
  | merkleRoot literal =>
      cases alsoReported with
      | merkleRoot alsoLiteral => cases literal.symm.trans alsoLiteral; rfl
  | genesisHash literal =>
      cases alsoReported with
      | genesisHash alsoLiteral => cases literal.symm.trans alsoLiteral; rfl
  | prefixes first =>
      cases alsoReported with
      | prefixes alsoFirst => rw [first.unique alsoFirst]

theorem exists_isFirstFailure {check : Check} (fails : ¬check.Passes profile) :
    ∃ first : Check, first.IsFirstFailure profile := by
  -- Going back to an earlier check that fails as well ends because its rank is lower.
  by_cases earliest : ∀ earlier : Check, earlier.rank < check.rank → earlier.Passes profile
  · exact ⟨check, fails, earliest⟩
  · simp only [not_forall] at earliest
    rcases earliest with ⟨earlier, before, failsEarlier⟩
    exact exists_isFirstFailure failsEarlier
termination_by check.rank

end Check

variable {profile : Profile}

/-- Once both literals are read, the genesis block is compared with them and the prefixes are
looked at last. -/
theorem checkedGenesis_of_ofHex {expectedHash expectedRoot : Digest}
    (hashRead : Digest.ofHex profile.expectedGenesisHash = .ok expectedHash)
    (rootRead : Digest.ofHex profile.expectedMerkleRoot = .ok expectedRoot) :
    profile.checkedGenesis =
      let genesis := Genesis.block profile.genesisSpec
      if genesis.header.merkleRoot ≠ expectedRoot then
        .error (.merkleRootMismatch profile.network expectedRoot genesis.header.merkleRoot)
      else if genesis.digest ≠ expectedHash then
        .error (.genesisHashMismatch profile.network expectedHash genesis.digest)
      else (profile.prefixes.validate profile.network).map fun _ => genesis := by
  simp only [checkedGenesis, Digest.ofDisplay, hashRead, rootRead, Except.mapError, bind,
    Except.bind]

theorem checkedGenesis_of_passes (passes : ∀ check : Check, check.Passes profile) :
    profile.checkedGenesis = .ok (Genesis.block profile.genesisSpec) := by
  have faultless := PrefixTable.firstFault?_eq_none_iff.mpr (passes .prefixes)
  rw [checkedGenesis_of_ofHex (passes .genesisHash) (passes .merkleRoot)]
  simp [PrefixTable.validate, faultless, Except.map]

/-- Checking stops at the first failure with the error by which that failure is reported. -/
theorem checkedGenesis_of_isFirstFailure {check : Check}
    (failing : check.IsFirstFailure profile) :
    ∃ error, profile.checkedGenesis = .error error ∧ check.Reports profile error := by
  rcases failing with ⟨fails, passes⟩
  cases check with
  | hashForm =>
      cases hashRead : Digest.ofHex profile.expectedGenesisHash with
      | ok expected => exact absurd ⟨expected, hashRead⟩ fails
      | error fault =>
          refine ⟨_, ?_, .hashForm hashRead⟩
          rw [checkedGenesis, Digest.ofDisplay, hashRead]
          rfl
  | rootForm =>
      rcases passes .hashForm (by decide) with ⟨expectedHash, hashRead⟩
      cases rootRead : Digest.ofHex profile.expectedMerkleRoot with
      | ok expected => exact absurd ⟨expected, rootRead⟩ fails
      | error fault =>
          refine ⟨_, ?_, .rootForm rootRead⟩
          rw [checkedGenesis, Digest.ofDisplay, hashRead, Digest.ofDisplay, rootRead]
          rfl
  | merkleRoot =>
      rcases passes .hashForm (by decide) with ⟨expectedHash, hashRead⟩
      rcases passes .rootForm (by decide) with ⟨expectedRoot, rootRead⟩
      refine ⟨_, ?_, .merkleRoot rootRead⟩
      rw [checkedGenesis_of_ofHex hashRead rootRead]
      apply if_pos
      intro same
      rw [← same] at rootRead
      exact fails rootRead
  | genesisHash =>
      rcases passes .hashForm (by decide) with ⟨expectedHash, hashRead⟩
      refine ⟨_, ?_, .genesisHash hashRead⟩
      rw [checkedGenesis_of_ofHex hashRead (passes .merkleRoot (by decide))]
      simp only [ne_eq, not_true_eq_false, if_false]
      apply if_pos
      intro same
      rw [← same] at hashRead
      exact fails hashRead
  | prefixes =>
      rw [checkedGenesis_of_ofHex (passes .genesisHash (by decide))
        (passes .merkleRoot (by decide))]
      cases found : profile.prefixes.firstFault? with
      | none => exact absurd (PrefixTable.firstFault?_eq_none_iff.mp found) fails
      | some fault =>
          refine ⟨_, ?_, .prefixes (PrefixTable.firstFault?_eq_some_iff.mp found)⟩
          simp [PrefixTable.validate, found, Except.map]

/-- Checking succeeds exactly if every check passes. -/
theorem checkedGenesis_eq_ok_iff {genesis : Block} :
    profile.checkedGenesis = .ok genesis ↔
      (∀ check : Check, check.Passes profile) ∧ genesis = Genesis.block profile.genesisSpec := by
  constructor
  · intro result
    have passes (check : Check) : check.Passes profile := by
      by_contra fails
      rcases Check.exists_isFirstFailure fails with ⟨first, failing⟩
      rcases checkedGenesis_of_isFirstFailure failing with ⟨error, stopped, _⟩
      cases stopped.symm.trans result
    rw [checkedGenesis_of_passes passes] at result
    exact ⟨passes, (Except.ok.inj result).symm⟩
  · rintro ⟨passes, rfl⟩
    exact checkedGenesis_of_passes passes

/-- Checking fails exactly with the report of the first check that fails. -/
theorem checkedGenesis_eq_error_iff {error : ChainError} :
    profile.checkedGenesis = .error error ↔
      ∃ check : Check, check.IsFirstFailure profile ∧ check.Reports profile error := by
  constructor
  · intro result
    by_cases passes : ∀ check : Check, check.Passes profile
    · cases (checkedGenesis_of_passes passes).symm.trans result
    · simp only [not_forall] at passes
      rcases passes with ⟨check, fails⟩
      rcases Check.exists_isFirstFailure fails with ⟨first, failing⟩
      rcases checkedGenesis_of_isFirstFailure failing with ⟨reported, stopped, reports⟩
      cases stopped.symm.trans result
      exact ⟨first, failing, reports⟩
  · rintro ⟨check, failing, reports⟩
    rcases checkedGenesis_of_isFirstFailure failing with ⟨reported, stopped, alsoReports⟩
    rw [stopped, reports.unique alsoReports]

theorem passes_of_isOk_checkedGenesis (succeeds : profile.checkedGenesis.isOk) (check : Check) :
    check.Passes profile := by
  cases checked : profile.checkedGenesis with
  | error error =>
      rw [checked] at succeeds
      cases succeeds
  | ok genesis => exact (checkedGenesis_eq_ok_iff.mp checked).1 check

variable {moment : Moment}

theorem build_of_passes (passes : ∀ check : Check, check.Passes profile) :
    profile.build moment =
      (FixedSeed.peers profile.defaultPort moment profile.fixedSeeds).map fun records =>
        .ok (.ofChecked profile (Genesis.block profile.genesisSpec) records) := by
  rw [build, checkedGenesis_of_passes passes]

theorem build_eq_ok_iff {parameters : Parameters} :
    profile.build moment = some (.ok parameters) ↔
      (∀ check : Check, check.Passes profile) ∧
        ∃ records,
          FixedSeed.peers profile.defaultPort moment profile.fixedSeeds = some records ∧
            parameters = .ofChecked profile (Genesis.block profile.genesisSpec) records := by
  constructor
  · intro result
    cases checked : profile.checkedGenesis with
    | error error =>
        rw [build, checked] at result
        cases result
    | ok genesis =>
        have passes := (checkedGenesis_eq_ok_iff.mp checked).1
        rw [build_of_passes passes, Option.map_eq_some_iff] at result
        rcases result with ⟨records, made, same⟩
        exact ⟨passes, records, made, (Except.ok.inj same).symm⟩
  · rintro ⟨passes, records, made, rfl⟩
    rw [build_of_passes passes, made, Option.map_some]

/-- Parameters are built exactly if every check passes and the moment supplies the fixed seeds. -/
theorem exists_build_eq_ok_iff :
    (∃ parameters, profile.build moment = some (.ok parameters)) ↔
      (∀ check : Check, check.Passes profile) ∧ moment.Supplies profile.fixedSeeds.length := by
  rw [← FixedSeed.exists_peers_eq_some_iff profile.defaultPort]
  constructor
  · rintro ⟨parameters, built⟩
    rcases build_eq_ok_iff.mp built with ⟨passes, records, made, _⟩
    exact ⟨passes, records, made⟩
  · rintro ⟨passes, records, made⟩
    exact ⟨_, build_eq_ok_iff.mpr ⟨passes, records, made, rfl⟩⟩

/-- Building fails exactly with the report of the first check that fails, whatever the moment is. -/
theorem build_eq_error_iff {error : ChainError} :
    profile.build moment = some (.error error) ↔
      ∃ check : Check, check.IsFirstFailure profile ∧ check.Reports profile error := by
  rw [← checkedGenesis_eq_error_iff, build]
  cases profile.checkedGenesis with
  | error other => simp
  | ok genesis => simp

/-- Building never ends exactly if every check passes and the moment does not supply the fixed
seeds. -/
theorem build_eq_none_iff :
    profile.build moment = none ↔
      (∀ check : Check, check.Passes profile) ∧ ¬moment.Supplies profile.fixedSeeds.length := by
  rw [← FixedSeed.peers_eq_none_iff profile.defaultPort]
  cases checked : profile.checkedGenesis with
  | error error =>
      have fails : ¬∀ check : Check, check.Passes profile := by
        intro passes
        cases checked.symm.trans (checkedGenesis_of_passes passes)
      simp [build, checked, fails]
  | ok genesis =>
      have passes := (checkedGenesis_eq_ok_iff.mp checked).1
      rw [build_of_passes passes, Option.map_eq_none_iff]
      exact (and_iff_right passes).symm

end Profile

namespace Genesis

theorem merkleRoot_block (spec : GenesisSpec) :
    (block spec).merkleRoot = (block spec).header.merkleRoot := by
  simp [block, Block.merkleRoot, Block.txids, Merkle.root]

end Genesis

namespace Profile

/-- A nonce that is set wrong and then right again. -/
def restored : List Override :=
  [.genesisNonce 0, .fixedSeeds [0x0100007f], .genesisNonce 713058]

end Profile

end ChainProfile
