import ChainProfile.Switches

/-!
# What two switches ask for

The two switches say whether a network is to be the regression network and whether it
is to be the test network.  A source chooses the one network that is as its switches
say; if both are on there is none, and nothing is chosen.
-/

namespace ChainProfile.Network

/-- Whether a network is as two switches say: the regression network exactly if the first one is on,
and the test network exactly if the second one is. -/
def IsAskedFor (regtest testnet : Bool) (network : Network) : Prop :=
  (network = .regression ↔ regtest) ∧ (network = .test ↔ testnet)

instance (regtest testnet : Bool) (network : Network) :
    Decidable (network.IsAskedFor regtest testnet) :=
  inferInstanceAs (Decidable (_ ∧ _))

/-- The network that two switches ask for, if there is one. -/
def asked? (regtest testnet : Bool) : Option Network :=
  all.find? fun network => network.IsAskedFor regtest testnet

theorem asked?_eq_some_iff {regtest testnet : Bool} {network : Network} :
    asked? regtest testnet = some network ↔ network.IsAskedFor regtest testnet := by
  cases regtest <;> cases testnet <;> cases network <;> decide

theorem ofSwitches_eq_ok_iff {regtest testnet : Bool} {network : Network} :
    ofSwitches regtest testnet = .ok network ↔ network.IsAskedFor regtest testnet := by
  cases regtest <;> cases testnet <;> cases network <;> simp [ofSwitches, IsAskedFor]

section Source

variable {Source : Type} [SwitchSource Source] {source : Source}

/-- A source chooses exactly the network that its two switches ask for. -/
theorem chosenBy_eq_ok_iff {network : Network} :
    chosenBy source = .ok network ↔
      network.IsAskedFor (SwitchSource.isOn source regtestSwitch false)
        (SwitchSource.isOn source testnetSwitch false) :=
  ofSwitches_eq_ok_iff

theorem toOption_chosenBy :
    (chosenBy source).toOption =
      asked? (SwitchSource.isOn source regtestSwitch false)
        (SwitchSource.isOn source testnetSwitch false) := by
  apply Option.ext
  intro network
  rw [asked?_eq_some_iff, ← chosenBy_eq_ok_iff]
  cases chosenBy source <;> simp [Except.toOption]

end Source

end ChainProfile.Network
