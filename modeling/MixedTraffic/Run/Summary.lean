import MixedTraffic.Clock

namespace MixedTraffic

structure IntervalSummary where
  tick : Tick
  /-- The vehicles on all links at the end of the interval. -/
  onNetwork : Nat
  departed : Nat
  arrived : Nat
  stuck : Nat
  /-- Departures and ready vehicles that a full link turned away. -/
  rejections : Nat

structure RunSummary where
  /-- The first interval that was not simulated. -/
  finalTick : Tick := 0
  departed : Nat := 0
  arrived : Nat := 0
  stuck : Nat := 0
  rejections : Nat := 0
  terminatedEarly : Bool := false
  cancelled : Bool := false

def RunSummary.add (run : RunSummary) (interval : IntervalSummary) : RunSummary :=
  { run with
    departed := run.departed + interval.departed
    arrived := run.arrived + interval.arrived
    stuck := run.stuck + interval.stuck
    rejections := run.rejections + interval.rejections }

end MixedTraffic
