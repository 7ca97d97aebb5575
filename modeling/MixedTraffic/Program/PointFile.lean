import MixedTraffic.Json.Pretty
import MixedTraffic.Sweep.Point

namespace MixedTraffic

/-! All points of a sweep as JSON, valid or not. How an amount is written is left open. -/

open Json

def FlowSample.toJson (amount : Float → Json) (sample : FlowSample Float) : Json :=
  ofMembers [
    ("number_of_agents", ofNat sample.agents),
    ("density", amount sample.density),
    ("flow", amount sample.flow),
    ("mean_speed", amount sample.meanSpeed)]

def RunSummary.toJson (summary : RunSummary) : Json :=
  ofMembers [
    ("final_tick", ofNat summary.finalTick),
    ("departed", ofNat summary.departed),
    ("arrived", ofNat summary.arrived),
    ("stuck", ofNat summary.stuck),
    ("rejections", ofNat summary.rejections),
    ("terminated_early", .bool summary.terminatedEarly),
    ("cancelled", .bool summary.cancelled)]

def Assessment.toJson (amount : Float → Json) (assessment : Assessment Float) : Json :=
  ofMembers [
    ("flow_unstable", ofList (ofNat ·.index) assessment.flowUnstable),
    ("speed_unstable", ofList (ofNat ·.index) assessment.speedUnstable),
    ("permanent", .bool assessment.permanent),
    ("permanent_density", ofOption amount assessment.permanentDensity),
    ("too_dense", .bool assessment.tooDense)]

def DiagramPoint.toJson (amount : Float → Json) (point : DiagramPoint Float) : Json :=
  ofMembers [
    ("agents", ofList ofNat point.agents),
    ("summary", point.summary.toJson),
    ("assessment", point.assessment.toJson amount),
    ("global", ofOption (·.toJson amount) point.total),
    ("modes", ofList (ofOption (·.toJson amount)) point.modes),
    ("overtakes_per_km", amount point.overtakesPerKm),
    ("pair_overtakes_per_km", ofOption amount point.pairOvertakesPerKm),
    ("avg_overtake_rate", amount point.averageRate)]

def pointFile (points : List (DiagramPoint Float)) : String :=
  (ofList (·.toJson ofFloat) points).text

end MixedTraffic
