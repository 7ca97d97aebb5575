import MixedTraffic.Json.Decode
import MixedTraffic.Setup.Dynamics
import MixedTraffic.Setup.RunConfig
import MixedTraffic.Setup.TrackerConfig

namespace MixedTraffic

/-! Settings as JSON. How an amount is written is left open. -/

open Json

def RunConfig.ofJson? : Decoder RunConfig := fun json => do
  let members ← toMembers? ["start_secs", "end_secs", "tick_duration_secs", "seed",
    "num_threads", "output_interval_ticks"] json
  let config : RunConfig := {}
  return {
    startSecs := ← member members "start_secs" config.startSecs toWord?
    endSecs := ← member members "end_secs" config.endSecs toWord?
    tickSecs := ← member members "tick_duration_secs" config.tickSecs toWord?
    seed := ← member members "seed" config.seed toLong?
    threads := ← member members "num_threads" config.threads (toOption? toLong?)
    outputEvery := ← member members "output_interval_ticks" config.outputEvery toLong? }

def RunConfig.toJson (config : RunConfig) : Json :=
  ofMembers [
    ("start_secs", ofNat config.startSecs),
    ("end_secs", ofNat config.endSecs),
    ("tick_duration_secs", ofNat config.tickSecs),
    ("seed", ofNat config.seed),
    ("num_threads", ofOption ofNat config.threads),
    ("output_interval_ticks", ofNat config.outputEvery)]

def Seepage.ofJson? : Decoder (Seepage Float) := fun json => do
  let members ← toMembers? ["modes", "capacity_fraction"] json
  return {
    modes := ← requiredMember members "modes" (toList? toText?)
    fraction := ← requiredMember members "capacity_fraction" toFloat? }

def Seepage.toJson (amount : Float → Json) (seepage : Seepage Float) : Json :=
  ofMembers [
    ("modes", ofList ofText seepage.modes),
    ("capacity_fraction", amount seepage.fraction)]

namespace InboundOrder

def label : InboundOrder → String
  | byKey => "LinkId"
  | byCapacity => "CapacityDesc"

def ofJson? : Decoder InboundOrder :=
  toChoice? ([byKey, byCapacity].map fun order => (order.label, order))

end InboundOrder

def Dynamics.ofJson? : Decoder (Dynamics Float) := fun json => do
  let members ← toMembers? ["passing", "seepage", "stuck_time_secs", "inbound_order",
    "effective_cell_size_m"] json
  let dynamics : Dynamics Float := {}
  return {
    passing := ← member members "passing" dynamics.passing toBool?
    seepage := ← member members "seepage" dynamics.seepage (toOption? Seepage.ofJson?)
    stuckSecs := ← member members "stuck_time_secs" dynamics.stuckSecs (toOption? toWord?)
    inboundOrder :=
      ← member members "inbound_order" dynamics.inboundOrder InboundOrder.ofJson?
    cell := ← member members "effective_cell_size_m" dynamics.cell toFloat? }

def Dynamics.toJson (amount : Float → Json) (dynamics : Dynamics Float) : Json :=
  ofMembers [
    ("passing", .bool dynamics.passing),
    ("seepage", ofOption (·.toJson amount) dynamics.seepage),
    ("stuck_time_secs", ofOption ofNat dynamics.stuckSecs),
    ("inbound_order", ofText dynamics.inboundOrder.label),
    ("effective_cell_size_m", amount dynamics.cell)]

def TrackerConfig.ofJson? : Decoder (TrackerConfig Float) := fun json => do
  let members ← toMembers? ["reference_link", "bin_ticks", "window_bins", "tolerance",
    "min_stable_bins", "measured_length_m"] json
  let config : TrackerConfig Float := {}
  return {
    referenceLink := ⟨← member members "reference_link" config.referenceLink.index toWord?⟩
    binTicks := ← member members "bin_ticks" config.binTicks toLong?
    windowBins := ← member members "window_bins" config.windowBins toLong?
    tolerance := ← member members "tolerance" config.tolerance toFloat?
    stableBins := ← member members "min_stable_bins" config.stableBins toWord?
    measuredLength :=
      ← member members "measured_length_m" config.measuredLength (toOption? toFloat?) }

def TrackerConfig.toJson (amount : Float → Json) (config : TrackerConfig Float) : Json :=
  ofMembers [
    ("reference_link", ofNat config.referenceLink.index),
    ("bin_ticks", ofNat config.binTicks),
    ("window_bins", ofNat config.windowBins),
    ("tolerance", amount config.tolerance),
    ("min_stable_bins", ofNat config.stableBins),
    ("measured_length_m", ofOption amount config.measuredLength)]

end MixedTraffic
