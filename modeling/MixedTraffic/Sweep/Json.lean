import MixedTraffic.Setup.Json
import MixedTraffic.Sweep.Config

namespace MixedTraffic

open Json

def TrackConfig.ofJson? : Decoder (TrackConfig Float) := fun json => do
  let members ← toMembers? ["branch_length_m", "subdivision", "lanes", "capacity_per_hour",
    "free_speed_mps"] json
  let config : TrackConfig Float := {}
  return {
    branchLength := ← member members "branch_length_m" config.branchLength toFloat?
    subdivision := ← member members "subdivision" config.subdivision toWord?
    lanes := ← member members "lanes" config.lanes toFloat?
    flowCapacity := ← member members "capacity_per_hour" config.flowCapacity toFloat?
    freeSpeed := ← member members "free_speed_mps" config.freeSpeed toFloat? }

def TrackConfig.toJson (amount : Float → Json) (config : TrackConfig Float) : Json :=
  ofMembers [
    ("branch_length_m", amount config.branchLength),
    ("subdivision", ofNat config.subdivision),
    ("lanes", amount config.lanes),
    ("capacity_per_hour", amount config.flowCapacity),
    ("free_speed_mps", amount config.freeSpeed)]

namespace PointSource

def key : PointSource → String
  | modalSplit => "modal_split"
  | distribution => "distribution"

def ofJson? : Decoder PointSource :=
  toChoice? ([modalSplit, distribution].map fun source => (source.key, source))

end PointSource

namespace SweepConfig

def ofJson? : Decoder (SweepConfig Float) := fun json => do
  let members ← toMembers? ["modes", "modal_split_pcu", "reduce_factor", "points",
    "departure_window_secs", "track", "dynamics", "tracker", "sim"] json
  let config : SweepConfig Float := {}
  return {
    modes := ← member members "modes" config.modes (toList? toText?)
    split := ← member members "modal_split_pcu" config.split (toList? toFloat?)
    reduce := ← member members "reduce_factor" config.reduce toWord?
    points := ← member members "points" config.points PointSource.ofJson?
    departureWindow :=
      ← member members "departure_window_secs" config.departureWindow toWord?
    track := ← member members "track" config.track TrackConfig.ofJson?
    dynamics := ← member members "dynamics" config.dynamics Dynamics.ofJson?
    tracker := ← member members "tracker" config.tracker TrackerConfig.ofJson?
    run := ← member members "sim" config.run RunConfig.ofJson? }

def toJson (amount : Float → Json) (config : SweepConfig Float) : Json :=
  ofMembers [
    ("modes", ofList ofText config.modes),
    ("modal_split_pcu", ofList amount config.split),
    ("reduce_factor", ofNat config.reduce),
    ("points", ofText config.points.key),
    ("departure_window_secs", ofNat config.departureWindow),
    ("track", config.track.toJson amount),
    ("dynamics", config.dynamics.toJson amount),
    ("tracker", config.tracker.toJson amount),
    ("sim", config.run.toJson)]

end SweepConfig

end MixedTraffic
