import MixedTraffic.Decimal.Style
import MixedTraffic.Sweep.Point

namespace MixedTraffic

/-! The texts of the errors. -/

def amountText (x : Float) : String := Decimal.text .plain x

def Inconsistency.message : Inconsistency Float → String
  | noModes => "mode table is empty"
  | tooManyModes => "too many modes"
  | pcuNotPositive mode pcu => s!"mode `{mode}` has non-positive PCU {amountText pcu}"
  | speedNotPositive mode speed =>
      s!"mode `{mode}` has non-positive max speed {amountText speed}"
  | modeRepeated mode => s!"mode `{mode}` listed twice"
  | tickSecsZero => "tick_duration_secs must be positive"
  | windowEmpty startSecs endSecs =>
      s!"end_secs ({endSecs}) must be after start_secs ({startSecs})"
  | noThreads => "num_threads must be at least 1 when set"
  | cellNotPositive cell => s!"effective_cell_size_m must be positive, got {amountText cell}"
  | stuckTimeZero => "stuck_time_secs must be positive when set"
  | seepFractionOutOfRange fraction =>
      s!"seepage capacity_fraction must be in (0, 1], got {amountText fraction}"
  | binTicksZero => "tracker bin_ticks must be > 0"
  | windowBinsZero => "tracker window_bins must be > 0"
  | stableBinsZero => "tracker min_stable_bins must be > 0"
  | toleranceInvalid tolerance =>
      s!"tracker tolerance {amountText tolerance} must be finite and >= 0"
  | referenceLinkMissing link => s!"tracker reference link {link.label} is not in the network"
  | measuredLengthNotPositive metres =>
      s!"tracker measured length {amountText metres} m must be > 0"
  | trackerTickZero => "tick duration must be > 0"
  | sweepWithoutModes => "a sweep needs at least one mode"
  | shareCountMismatch shares modes => s!"modal split has {shares} shares for {modes} modes"
  | shareTooSmall share => s!"modal split shares must be >= 0.01, got {amountText share}"
  | reduceFactorZero => "reduce_factor must be >= 1"
  | departureWindowZero => "departure_window_secs must be > 0"
  | subdivisionZero => "track subdivision must be >= 1"
  | trackNotPositive what value => s!"track {what} must be positive, got {amountText value}"
  | agentCountMismatch counts modes => s!"point has {counts} agent counts for {modes} modes"
  | trackerMissing => "point run has no flow tracker"

def ConfigError.message : ConfigError Float → String
  | inconsistent cause => s!"inconsistent configuration: {cause.message}"
  | unknownMode name => s!"unknown mode `{name}`"

def NetworkError.message : NetworkError Float → String
  | danglingNode link node =>
      s!"invalid topology: link `{link}` references unknown node {node.label}"
  | notPositive link what value =>
      s!"invalid topology: link `{link}` has non-positive {what} ({amountText value})"
  | linkRepeated name => s!"invalid topology: link name `{name}` used twice"
  | nodeRepeated name => s!"invalid topology: node name `{name}` used twice"
  | unknownLink link => s!"invalid topology: link {link.label} does not exist"

def AgentError.message : AgentError → String
  | invalidTransition driver source target =>
      s!"agent {driver.label} cannot go from {source.label} to {target}"
  | emptyRoute agent => s!"agent {agent.label} has an empty route"
  | unknownMode agent mode =>
      s!"inconsistent configuration: agent {agent.label} uses unknown mode {mode.label}"
  | noSuchAgent agent => s!"{agent.label} does not exist"

def RoadError.message : RoadError Float → String
  | capacityExceeded link required available =>
      s!"capacity exceeded on {link.label}: need {amountText required} PCU, " ++
        s!"{amountText available} free"
  | notOutgoing driver next node =>
      s!"agent {driver.label} chose {next.label}, which does not leave {node.label}"
  | unknownLink driver link => s!"agent {driver.label} chose unknown link {link.label}"
  | vehicleMissing link driver => s!"agent {driver.label} is not queued on {link.label}"
  | noSuchLink link => s!"{link.label} does not exist"
  | noSuchNode node => s!"{node.label} does not exist"
  | noSuchMode mode => s!"{mode.label} does not exist"
  | noSuchTick tick => s!"{tick.label} does not exist"
  | agent cause => cause.message
  | config cause => cause.message

def RunError.message : RunError Float → String
  | config cause => cause.message
  | network cause => s!"invalid topology: {cause.message}"
  | agent cause => s!"agent error: {cause.message}"
  | road cause => s!"queue error: {cause.message}"

def SweepError.message : SweepError Float → String
  | config cause => cause.message
  | network cause => s!"invalid track: {cause.message}"
  | agent cause => s!"agent error: {cause.message}"
  | run cause => s!"point run failed: {cause.message}"
  | output cause => s!"output error: {cause.message}"

end MixedTraffic
