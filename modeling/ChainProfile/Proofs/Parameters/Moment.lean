import ChainProfile.Proofs.Parameters.Registry

/-!
# What the moment of building decides

Building looks at the clock and at random words only when it gives the fixed seeds
their times.  Every seed draws an age of its own, and a draw takes as many words as
it needs, so builds at two moments may stand at different places of their words from
the first seed on.  Whether a check fails, and everything else that building makes, is
the same at both moments.  The words do decide whether building ends: once every check
has passed, it goes on until each fixed seed has found a word that is accepted.
-/

namespace ChainProfile

/-- Whether two records differ at most in their times. -/
def PeerAddress.AgreesButTime (first second : PeerAddress) : Prop :=
  { first with time := second.time } = second

/-- Whether two sets of parameters differ at most in the times of their fixed seeds. -/
structure Parameters.AgreesButSeedTimes (first second : Parameters) : Prop where
  fixedSeeds : List.Forall₂ PeerAddress.AgreesButTime first.fixedSeeds second.fixedSeeds
  others : { first with fixedSeeds := second.fixedSeeds } = second

namespace FixedSeed

variable {port : UInt16} {seeds : List UInt32}

theorem agreesButTime_peer (port : UInt16) (seed : UInt32) (firstNow secondNow : Int64)
    (firstAge secondAge : Nat) :
    (peer port firstNow firstAge seed).AgreesButTime (peer port secondNow secondAge seed) := rfl

/-- Whatever the ages are on either side, the records go with the same seeds. -/
theorem forall₂_agreesButTime_zipWith {firstNow secondNow : Int64} {firstAges secondAges : List Nat}
    (enough : seeds.length ≤ firstAges.length) (alsoEnough : seeds.length ≤ secondAges.length) :
    List.Forall₂ PeerAddress.AgreesButTime (List.zipWith (peer port firstNow) firstAges seeds)
      (List.zipWith (peer port secondNow) secondAges seeds) := by
  induction seeds generalizing firstAges secondAges with
  | nil => simp
  | cons seed seeds ih =>
      rcases List.exists_cons_of_length_pos (Nat.zero_lt_of_lt enough) with
        ⟨firstAge, firstAges, rfl⟩
      rcases List.exists_cons_of_length_pos (Nat.zero_lt_of_lt alsoEnough) with
        ⟨secondAge, secondAges, rfl⟩
      exact .cons (agreesButTime_peer port seed _ _ _ _)
        (ih (Nat.le_of_succ_le_succ enough) (Nat.le_of_succ_le_succ alsoEnough))

theorem forall₂_agreesButTime_of_peers {first second : Moment} {records others : List PeerAddress}
    (made : peers port first seeds = some records)
    (alsoMade : peers port second seeds = some others) :
    List.Forall₂ PeerAddress.AgreesButTime records others := by
  rcases exists_peers_eq_zipWith made with ⟨length, enough, rfl⟩
  rcases exists_peers_eq_zipWith alsoMade with ⟨otherLength, alsoEnough, rfl⟩
  exact forall₂_agreesButTime_zipWith enough alsoEnough

end FixedSeed

namespace Profile

variable {profile : Profile} {first second : Moment} {before after : Parameters}

theorem agreesButSeedTimes_of_build (built : profile.build first = some (.ok before))
    (alsoBuilt : profile.build second = some (.ok after)) : before.AgreesButSeedTimes after := by
  rcases build_eq_ok_iff.mp built with ⟨_, records, made, rfl⟩
  rcases build_eq_ok_iff.mp alsoBuilt with ⟨_, others, alsoMade, rfl⟩
  exact
    { fixedSeeds := FixedSeed.forall₂_agreesButTime_of_peers made alsoMade
      others := rfl }

/-- Whether building a profile comes to parameters at a moment that supplies its fixed seeds, and
never ends at any other. -/
structure IsBuiltIfSupplied (profile : Profile) (moment : Moment) : Prop where
  succeeds : moment.Supplies profile.fixedSeeds.length →
    ∃ parameters, profile.build moment = some (.ok parameters)
  never : ¬moment.Supplies profile.fixedSeeds.length → profile.build moment = none

theorem isBuiltIfSupplied_of_passes (passes : ∀ check : Check, check.Passes profile)
    (moment : Moment) : profile.IsBuiltIfSupplied moment where
  succeeds supplied := exists_build_eq_ok_iff.mpr ⟨passes, supplied⟩
  never unsupplied := build_eq_none_iff.mpr ⟨passes, unsupplied⟩

/-- A profile, whatever has been overridden, is built at two moments with the same error, or at
neither with an error.  In the second case building comes to parameters at those of the two moments
that supply the fixed seeds; parameters of both moments differ at most in the times of the fixed
seeds. -/
theorem build_overridden_at_two_moments (profile : Profile) (overrides : List Override)
    (first second : Moment) :
    (∃ error, (overrides.foldl override profile).build first = some (.error error) ∧
      (overrides.foldl override profile).build second = some (.error error)) ∨
    (overrides.foldl override profile).IsBuiltIfSupplied first ∧
    (overrides.foldl override profile).IsBuiltIfSupplied second ∧
    ∀ before after, (overrides.foldl override profile).build first = some (.ok before) →
      (overrides.foldl override profile).build second = some (.ok after) →
      before.AgreesButSeedTimes after := by
  by_cases passes : ∀ check : Check, check.Passes (overrides.foldl override profile)
  · right
    refine ⟨isBuiltIfSupplied_of_passes passes first, isBuiltIfSupplied_of_passes passes second, ?_⟩
    intro before after built alsoBuilt
    exact agreesButSeedTimes_of_build built alsoBuilt
  · left
    simp only [not_forall] at passes
    rcases passes with ⟨check, fails⟩
    rcases Check.exists_isFirstFailure fails with ⟨earliest, failing⟩
    rcases checkedGenesis_of_isFirstFailure failing with ⟨error, _, reports⟩
    have refused (moment : Moment) :
        (overrides.foldl override profile).build moment = some (.error error) :=
      build_eq_error_iff.mpr ⟨earliest, failing, reports⟩
    exact ⟨error, refused first, refused second⟩

/-- The production network is built at a moment whose first two words are refused and at one whose
first two words are accepted. -/
theorem build_overridden_at_two_moments_refusing_twice :
    ∃ before after,
      mainNetwork.build (.ofWords 0 [0xffffffffffffffff, 0xffffffffffffffff]) =
        some (.ok before) ∧
      mainNetwork.build (.ofWords 1700000000 []) = some (.ok after) ∧
      before.AgreesButSeedTimes after := by
  rcases build_overridden_at_two_moments mainNetwork []
    (.ofWords 0 [0xffffffffffffffff, 0xffffffffffffffff]) (.ofWords 1700000000 []) with
    ⟨error, fails, _⟩ | ⟨first, second, agree⟩
  · exact absurd fails (build_ofNetwork_ne_error .main)
  · rcases first.succeeds (Moment.supplies_ofWords _ _ _) with ⟨before, built⟩
    rcases second.succeeds (Moment.supplies_ofWords _ _ _) with ⟨after, alsoBuilt⟩
    exact ⟨before, after, built, alsoBuilt, agree before after built alsoBuilt⟩

/-- Building does not end at every moment: the production network is built with a source of zeros,
but for ever nothing comes of a source that refuses. -/
theorem not_forall_build_overridden_at_two_moments :
    ¬∀ (profile : Profile) (overrides : List Override) (first second : Moment),
      Int64.minValue.toInt ≤ first.now.toInt - 2 * FixedSeed.oneWeek →
      Int64.minValue.toInt ≤ second.now.toInt - 2 * FixedSeed.oneWeek →
      (∃ error, (overrides.foldl override profile).build first = some (.error error) ∧
        (overrides.foldl override profile).build second = some (.error error)) ∨
      ∃ before after, (overrides.foldl override profile).build first = some (.ok before) ∧
        (overrides.foldl override profile).build second = some (.ok after) ∧
        before.AgreesButSeedTimes after := by
  intro law
  have never : mainNetwork.build .refusing = none :=
    build_eq_none_iff.mpr ⟨passes_ofNetwork .main, Moment.not_supplies_refusing (by decide)⟩
  rcases law mainNetwork [] .refusing (.ofWords 0 []) (by decide) (by decide) with
    ⟨error, fails, _⟩ | ⟨before, after, built, _⟩
  · cases never.symm.trans fails
  · cases never.symm.trans built

end Profile

end ChainProfile
