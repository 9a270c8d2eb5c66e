import ChainProfile.Profile

/-!
# The last override of a field counts

Overrides are applied one after another.  The outcome is the profile in which each
of the six fields has the last value it was given, or the value it had if none was
given, and in which nothing else is changed.
-/

namespace ChainProfile.Profile

namespace Override

/-- The nonce that an override gives. -/
def genesisNonce? : Override → Option UInt32
  | .genesisNonce nonce => some nonce
  | _ => none

/-- The message that an override gives. -/
def genesisMessage? : Override → Option String
  | .genesisMessage message => some message
  | _ => none

/-- The expected hash that an override gives. -/
def expectedGenesisHash? : Override → Option String
  | .expectedGenesisHash display => some display
  | _ => none

/-- The expected root that an override gives. -/
def expectedMerkleRoot? : Override → Option String
  | .expectedMerkleRoot display => some display
  | _ => none

/-- The prefixes that an override gives. -/
def prefixes? : Override → Option PrefixTable
  | .prefixes table => some table
  | _ => none

/-- The fixed seeds that an override gives. -/
def fixedSeeds? : Override → Option (List UInt32)
  | .fixedSeeds seeds => some seeds
  | _ => none

/-- The last value that overrides give to a field, or the value it had before. -/
def lastValue {Value : Type} (value? : Override → Option Value) (overrides : List Override)
    (before : Value) : Value :=
  (overrides.filterMap value?).getLastD before

theorem lastValue_cons {Value : Type} (value? : Override → Option Value) (first : Override)
    (rest : List Override) (before : Value) :
    lastValue value? (first :: rest) before =
      lastValue value? rest ((value? first).getD before) := by
  cases given : value? first with
  | none => rw [lastValue, List.filterMap_cons_none given, Option.getD_none, lastValue]
  | some value =>
      rw [lastValue, List.filterMap_cons_some given, List.getLastD_cons, Option.getD_some,
        lastValue]

end Override

/-- The profile in which each field has the last value that overrides give to it. -/
def withLast (profile : Profile) (overrides : List Override) : Profile :=
  { profile with
    genesisNonce := Override.lastValue Override.genesisNonce? overrides profile.genesisNonce
    genesisMessage := Override.lastValue Override.genesisMessage? overrides profile.genesisMessage
    expectedGenesisHash :=
      Override.lastValue Override.expectedGenesisHash? overrides profile.expectedGenesisHash
    expectedMerkleRoot :=
      Override.lastValue Override.expectedMerkleRoot? overrides profile.expectedMerkleRoot
    prefixes := Override.lastValue Override.prefixes? overrides profile.prefixes
    fixedSeeds := Override.lastValue Override.fixedSeeds? overrides profile.fixedSeeds }

/-- Applying an override first changes only what the field's last value falls back to. -/
theorem withLast_cons (profile : Profile) (first : Override) (rest : List Override) :
    profile.withLast (first :: rest) = (profile.override first).withLast rest := by
  simp only [withLast, Override.lastValue_cons]
  cases first <;> rfl

theorem foldl_override (profile : Profile) (overrides : List Override) :
    overrides.foldl override profile = profile.withLast overrides := by
  induction overrides generalizing profile with
  | nil => rfl
  | cons first rest ih => rw [List.foldl_cons, ih, withLast_cons]

theorem customized_eq_withLast (network : Network) (overrides : List Override) :
    customized network overrides = (ofNetwork network).withLast overrides :=
  foldl_override (ofNetwork network) overrides

theorem network_customized (network : Network) (overrides : List Override) :
    (customized network overrides).network = network := by
  rw [customized_eq_withLast]
  cases network <;> rfl

end ChainProfile.Profile
