import ChainProfile.Network

/-!
# The active network

One network is active at a time.  It can be selected for good, or for a scope: a
scope remembers the network that was active before it and makes that one active
again when it ends, whatever has been selected since.  Scopes may end in any order.
-/

namespace ChainProfile

/-- The active network, and what each scope that is not ended remembers, the oldest first. -/
structure Selector where
  active : Network
  remembered : List Network
deriving DecidableEq

namespace Selector

/-- At first the production network is active. -/
def initial : Selector := ⟨.main, []⟩

instance : Inhabited Selector := ⟨initial⟩

/-- Makes a network active for good. -/
def select (selector : Selector) (network : Network) : Selector :=
  { selector with active := network }

/-- Makes a network active for a new scope. -/
def enter (selector : Selector) (network : Network) : Selector where
  active := network
  remembered := selector.remembered ++ [selector.active]

/-- The place of the newest scope. -/
def newest (selector : Selector) : Nat := selector.remembered.length - 1

/-- Ends the scope at a place and returns what it remembered; nothing changes if there is none. -/
def leave (selector : Selector) (place : Nat) : Option Network × Selector :=
  match selector.remembered[place]? with
  | none => (none, selector)
  | some network =>
      (some network, { active := network, remembered := selector.remembered.eraseIdx place })

/-- Whether the public test network is active; the regression network does not count. -/
def isTestNetwork (selector : Selector) : Bool := selector.active = .test

/-- Whether the regression network is active. -/
def isRegressionNetwork (selector : Selector) : Bool := selector.active = .regression

end Selector

end ChainProfile
