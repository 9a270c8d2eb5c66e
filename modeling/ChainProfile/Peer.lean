import ChainProfile.Peer.SocketAddress

/-!
# First peers

A new node finds its first peers by resolving host names or from addresses that
are built in.  Built-in addresses are packed words, and each is given a time
between one and two weeks in the past, so that fresher addresses are preferred.

Random words come from an endless source.  A draw passes over the words that it
does not accept; if none is accepted from some place on, drawing from there never
ends, and neither does what needs the drawn number.  That is said by `none`.
-/

namespace ChainProfile

/-- A host name that resolves to peers, with a label. -/
structure DnsSeed where
  name : String
  host : String
deriving DecidableEq

/-- A peer and when it was last seen. -/
structure PeerAddress where
  address : SocketAddress
  services : UInt64
  /-- Seconds since the epoch. -/
  time : Int64
deriving DecidableEq

/-- An endless source of random words, each at its place. -/
abbrev RandomWords := Nat → UInt64

/-- When something is made: the time of day, and a source of random words. -/
structure Moment where
  now : Int64
  words : RandomWords

/-- A moment whose source begins with some words and goes on with zeros. -/
def Moment.ofWords (now : Int64) (words : List UInt64) : Moment where
  now
  words place := words.getD place 0

namespace RandomWords

/-- The greatest low half of a product that a draw accepts.  Up to it every result has the same
number of words. -/
def acceptance (range : Nat) : Nat := range <<< (63 - range.log2) - 1

/-- Whether a draw below `range` accepts a word: the low half of their product is small enough. -/
def accepts (range : Nat) (word : UInt64) : Bool :=
  word.toNat * range % UInt64.size ≤ acceptance range

/-- The number below `range` that an accepted word stands for: the high half of their product. -/
def scaled (range : Nat) (word : UInt64) : Nat := word.toNat * range / UInt64.size

/-- Draws a number below `range` with the first accepted word from a place on.  Returns the number
and the place behind that word. -/
def draw (words : RandomWords) (range place : Nat) : Option (Nat × Nat) :=
  if accepts range (words place) then some (scaled range (words place), place + 1)
  else words |>.draw range (place + 1)
partial_fixpoint

end RandomWords

namespace FixedSeed

/-- The seconds of a week. -/
def oneWeek : Nat := 604800

/-- The service bit of a full node. -/
def nodeService : UInt64 := 1

/-- The peer of a packed seed, seen `age` seconds more than a week ago. -/
def peer (port : UInt16) (now : Int64) (age : Nat) (seed : UInt32) : PeerAddress where
  address := .v4 (IPv4.ofPacked seed) port
  services := nodeService
  time := now - Int64.ofNat age - Int64.ofNat oneWeek

/-- The peers of packed seeds in order, each with an age of its own that is drawn from a place of
the source on. -/
def peersAt (port : UInt16) (moment : Moment) : List UInt32 → Nat → Option (List PeerAddress)
  | [], _ => some []
  | seed :: seeds, place => do
      let (age, next) ← moment.words.draw oneWeek place
      let others ← peersAt port moment seeds next
      return peer port moment.now age seed :: others

/-- The peers of packed seeds as of a moment. -/
def peers (port : UInt16) (moment : Moment) (seeds : List UInt32) : Option (List PeerAddress) :=
  peersAt port moment seeds 0

end FixedSeed

end ChainProfile
