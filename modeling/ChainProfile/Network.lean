/-!
# Networks

Three deployments share one protocol.  Each has a name that is shown, further
names that are understood, and an identifier used in data files.
-/

namespace ChainProfile

/-- A deployment of the chain. -/
inductive Network where
  /-- The production network. -/
  | main
  /-- The public test network. -/
  | test
  /-- A local network with trivial difficulty. -/
  | regression
deriving DecidableEq, Inhabited

namespace Network

/-- Every network, the production network first. -/
def all : List Network := [.main, .test, .regression]

/-- The name that is shown. -/
def name : Network → String
  | .main => "main"
  | .test => "test"
  | .regression => "regtest"

/-- The identifier in data files. -/
def identifier : Network → String
  | .main => "main"
  | .test => "test"
  | .regression => "regression"

/-- The name of the case itself. -/
def label : Network → String
  | .main => "Main"
  | .test => "Test"
  | .regression => "Regression"

/-- The place of a network in the list of all. -/
def position : Network → Nat
  | .main => 0
  | .test => 1
  | .regression => 2

/-- A text with its ASCII capitals replaced by small letters. -/
def folded (text : String) : String := String.ofList (text.toList.map Char.toLower)

/-- The network that a name stands for; ASCII case does not matter. -/
def ofName? (text : String) : Option Network :=
  let name := folded text
  if name = "main" ∨ name = "mainnet" then some .main
  else if name = "test" ∨ name = "testnet" then some .test
  else if name = "regtest" ∨ name = "regression" then some .regression
  else none

end Network

end ChainProfile
