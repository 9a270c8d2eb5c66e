/-!
# Emission schedule

New coins are issued by a reward that halves at a fixed interval.  A moderation
rule withholds part of the reward when the work on the chain falls behind an
earlier peak; from the second fork on it looks back over fewer days and may
withhold more.
-/

namespace ChainProfile

/-- When the rules of the reward change. -/
structure EmissionSchedule where
  /-- Blocks between two halvings of the reward. -/
  halvingInterval : UInt32
  /-- The first height under the rules of the second fork. -/
  fork2Height : UInt64
deriving DecidableEq

namespace EmissionSchedule

/-- Half the halving interval, rounded down. -/
def interimInterval (schedule : EmissionSchedule) : UInt32 := schedule.halvingInterval / 2

/-- Whether a height is under the rules of the second fork. -/
def onFork2 (schedule : EmissionSchedule) (height : UInt64) : Bool := schedule.fork2Height ≤ height

/-- How many days the moderation rule looks back. -/
def windowDays (schedule : EmissionSchedule) (height : UInt64) : UInt32 :=
  if schedule.onFork2 height then 90 else 365

/-- How many percent of the reward the moderation rule may withhold. -/
def maxReductionPercent (schedule : EmissionSchedule) (height : UInt64) : UInt32 :=
  if schedule.onFork2 height then 80 else 50

end EmissionSchedule

end ChainProfile
