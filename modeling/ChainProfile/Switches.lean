import ChainProfile.Error

/-!
# Choosing a network by switches

The network is chosen by two switches.  Both at once contradict each other, and
neither means the production network.  Anything that can be asked for a switch by
name is a source of switches.
-/

namespace ChainProfile

/-- Something that can be asked whether a switch is on; a switch unknown to it has the value given
with the question. -/
class SwitchSource (Source : Type) where
  isOn : Source → String → Bool → Bool

/-- The name of the switch for the test network. -/
def testnetSwitch : String := "testnet"

/-- The name of the switch for the regression network. -/
def regtestSwitch : String := "regtest"

/-- A list of named switches; the first of several with one name counts. -/
instance : SwitchSource (List (String × Bool)) where
  isOn switches name default := (switches.lookup name).getD default

namespace Network

/-- The network that two switches choose, unless both are on. -/
def ofSwitches (regtest testnet : Bool) : Except ChainError Network :=
  match regtest, testnet with
  | true, true => .error .conflictingSelection
  | true, false => .ok .regression
  | false, true => .ok .test
  | false, false => .ok .main

/-- The network that the switches of a source choose; a switch that is not mentioned is off. -/
def chosenBy {Source : Type} [SwitchSource Source] (source : Source) : Except ChainError Network :=
  ofSwitches (SwitchSource.isOn source regtestSwitch false)
    (SwitchSource.isOn source testnetSwitch false)

end Network

end ChainProfile
