import MixedTraffic.Clock
import MixedTraffic.Setup.ConfigError

namespace MixedTraffic

/-- The time window of a run, its interval length and its seed. -/
structure RunConfig where
  startSecs : Nat := 0
  /-- The second of the day at which the run stops; it is not simulated. -/
  endSecs : Nat := 108000
  tickSecs : Nat := 1
  seed : Nat := 4711
  /-- Workers for the node decisions. They never change a result. -/
  threads : Option Nat := none
  /-- Link states are reported every so many intervals, never if zero. -/
  outputEvery : Nat := 1

namespace RunConfig

def endTick (config : RunConfig) : Tick :=
  Tick.covering (max config.tickSecs 1) (config.endSecs - config.startSecs)

def clock (config : RunConfig) : Clock :=
  { startSecs := config.startSecs, tickSecs := config.tickSecs }

def check {α : Type} (config : RunConfig) : Except (ConfigError α) Unit := do
  ConfigError.require (config.tickSecs != 0) .tickSecsZero
  ConfigError.require (decide (config.startSecs < config.endSecs))
    (.windowEmpty config.startSecs config.endSecs)
  ConfigError.require (config.threads != some 0) .noThreads

end RunConfig

end MixedTraffic
