import ChainProfile.Proofs.Parameters.Construction

/-!
# The parameters of every network

The profile of each network passes every check, so building the parameters of all
networks never fails; they are built exactly if each moment supplies the fixed seeds of
its network.  The checks look at the genesis inputs, the two literals and the prefixes
only; replacing the prefixes by another usable table therefore leaves a profile that can
be built.
-/

namespace ChainProfile

namespace Profile

theorem passes_ofNetwork (network : Network) (check : Check) : check.Passes (ofNetwork network) := by
  have succeeds : (ofNetwork network).checkedGenesis.isOk := by
    cases network <;> decide +kernel
  exact passes_of_isOk_checkedGenesis succeeds check

theorem build_ofNetwork_ne_error (network : Network) {moment : Moment} {error : ChainError} :
    (ofNetwork network).build moment ≠ some (.error error) := by
  intro fails
  rcases build_eq_error_iff.mp fails with ⟨check, ⟨checkFails, _⟩, _⟩
  exact checkFails (passes_ofNetwork network check)

/-- All checks but the one of the prefixes look at the genesis inputs and the literals only. -/
theorem passes_iff_of_genesisSpec_eq {first second : Profile} {check : Check}
    (sameSpec : first.genesisSpec = second.genesisSpec)
    (sameHash : first.expectedGenesisHash = second.expectedGenesisHash)
    (sameRoot : first.expectedMerkleRoot = second.expectedMerkleRoot)
    (other : check ≠ .prefixes) : check.Passes first ↔ check.Passes second := by
  cases check with
  | hashForm => simp only [Check.Passes, sameHash]
  | rootForm => simp only [Check.Passes, sameRoot]
  | merkleRoot => simp only [Check.Passes, sameRoot, sameSpec]
  | genesisHash => simp only [Check.Passes, sameHash, sameSpec]
  | prefixes => exact absurd rfl other

theorem exists_build_customized_prefixes (network : Network) {table : PrefixTable}
    (usable : table.IsUsable) {moment : Moment}
    (supplied : moment.Supplies (ofNetwork network).fixedSeeds.length) :
    ∃ parameters, (customized network [.prefixes table]).build moment = some (.ok parameters) ∧
      parameters.prefixes = table := by
  have passes (check : Check) : check.Passes (customized network [.prefixes table]) := by
    by_cases last : check = .prefixes
    · rw [last]
      exact usable
    · have sameSpec : (customized network [.prefixes table]).genesisSpec =
          (ofNetwork network).genesisSpec := rfl
      exact (passes_iff_of_genesisSpec_eq sameSpec rfl rfl last).mpr
        (passes_ofNetwork network check)
  rcases exists_build_eq_ok_iff.mpr ⟨passes, supplied⟩ with ⟨parameters, built⟩
  refine ⟨parameters, built, ?_⟩
  rcases build_eq_ok_iff.mp built with ⟨_, _, _, rfl⟩
  rfl

end Profile

namespace Registry

section Sequence

variable {α β : Type} {first : Option (Except ChainError α)}
  {next : α → ExceptT ChainError Option β}

/-- Two computations that may fail or never end succeed in turn if both do. -/
theorem exists_of_run_bind_eq_ok {result : β}
    (succeeds : (ExceptT.mk first >>= next).run = some (.ok result)) :
    ∃ value, first = some (.ok value) ∧ (next value).run = some (.ok result) := by
  rw [ExceptT.run_bind, ExceptT.run_mk, Option.bind_eq_bind, Option.bind_eq_some_iff] at succeeds
  rcases succeeds with ⟨outcome, ran, succeeds⟩
  cases outcome with
  | error error => cases succeeds
  | ok value => exact ⟨value, ran, succeeds⟩

/-- Two computations in turn fail if the first one does or the second one does behind it. -/
theorem or_of_run_bind_eq_error {error : ChainError}
    (fails : (ExceptT.mk first >>= next).run = some (.error error)) :
    first = some (.error error) ∨ ∃ value, (next value).run = some (.error error) := by
  rw [ExceptT.run_bind, ExceptT.run_mk, Option.bind_eq_bind, Option.bind_eq_some_iff] at fails
  rcases fails with ⟨outcome, ran, fails⟩
  cases outcome with
  | error other =>
      cases fails
      exact .inl ran
  | ok value => exact .inr ⟨value, fails⟩

end Sequence

variable {moment : Network → Moment} {registry : Registry} {network : Network}

/-- The parameters of every network are those that are built from its own profile. -/
theorem build_eq_ok_iff :
    build moment = some (.ok registry) ↔
      ∀ network,
        (Profile.ofNetwork network).build (moment network) = some (.ok (registry.get network)) := by
  unfold build
  constructor
  · intro result
    rcases exists_of_run_bind_eq_ok result with ⟨main, mainBuilt, result⟩
    rcases exists_of_run_bind_eq_ok result with ⟨test, testBuilt, result⟩
    rcases exists_of_run_bind_eq_ok result with ⟨regression, regressionBuilt, result⟩
    cases result
    intro network
    cases network with
    | main => exact mainBuilt
    | test => exact testBuilt
    | regression => exact regressionBuilt
  · intro built
    rw [built .main, built .test, built .regression]
    rfl

theorem network_get (built : build moment = some (.ok registry)) :
    (registry.get network).network = network := by
  rcases Profile.build_eq_ok_iff.mp (build_eq_ok_iff.mp built network) with ⟨_, _, _, same⟩
  rw [same]
  cases network <;> rfl

theorem prefixes_get (built : build moment = some (.ok registry)) :
    (registry.get network).prefixes = (Profile.ofNetwork network).prefixes := by
  rcases Profile.build_eq_ok_iff.mp (build_eq_ok_iff.mp built network) with ⟨_, _, _, same⟩
  rw [same]
  rfl

/-- Building never fails: the profile of every network passes every check. -/
theorem build_ne_error (error : ChainError) : build moment ≠ some (.error error) := by
  intro fails
  rcases or_of_run_bind_eq_error fails with mainFails | ⟨main, fails⟩
  · exact Profile.build_ofNetwork_ne_error .main mainFails
  rcases or_of_run_bind_eq_error fails with testFails | ⟨test, fails⟩
  · exact Profile.build_ofNetwork_ne_error .test testFails
  rcases or_of_run_bind_eq_error fails with regressionFails | ⟨regression, fails⟩
  · exact Profile.build_ofNetwork_ne_error .regression regressionFails
  · cases fails

/-- The registry is built exactly if the moment of every network supplies its fixed seeds. -/
theorem exists_build_eq_ok_iff :
    (∃ registry, build moment = some (.ok registry)) ↔
      ∀ network, (moment network).Supplies (Profile.ofNetwork network).fixedSeeds.length := by
  constructor
  · rintro ⟨registry, built⟩ network
    have parametersBuilt := build_eq_ok_iff.mp built network
    exact (Profile.exists_build_eq_ok_iff.mp ⟨_, parametersBuilt⟩).2
  · intro supplied
    have built (network : Network) :
        ∃ parameters,
          (Profile.ofNetwork network).build (moment network) = some (.ok parameters) :=
      Profile.exists_build_eq_ok_iff.mpr ⟨Profile.passes_ofNetwork network, supplied network⟩
    rcases built .main with ⟨main, mainBuilt⟩
    rcases built .test with ⟨test, testBuilt⟩
    rcases built .regression with ⟨regression, regressionBuilt⟩
    refine ⟨⟨main, test, regression⟩, build_eq_ok_iff.mpr ?_⟩
    intro network
    cases network with
    | main => exact mainBuilt
    | test => exact testBuilt
    | regression => exact regressionBuilt

/-- Sources that go on with zeros supply the fixed seeds of every network. -/
theorem exists_build_ofWords (now : Int64) (words : List UInt64) :
    ∃ registry, build (fun _ => .ofWords now words) = some (.ok registry) :=
  exists_build_eq_ok_iff.mpr fun _ => Moment.supplies_ofWords now words _

/-- Building never ends exactly if the moment of some network does not supply its fixed seeds. -/
theorem build_eq_none_iff :
    build moment = none ↔
      ∃ network, ¬(moment network).Supplies (Profile.ofNetwork network).fixedSeeds.length := by
  rw [← not_forall, ← exists_build_eq_ok_iff]
  cases outcome : build moment with
  | none => simp
  | some result =>
      cases result with
      | error error => exact absurd outcome (build_ne_error error)
      | ok registry => simp

end Registry

end ChainProfile
