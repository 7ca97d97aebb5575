import MixedTraffic.Proofs.Run.Frame

namespace MixedTraffic

variable {α : Type} [Quantity α]

/-! The states of the roads inside an interval, also of one that fails later on. -/

namespace World

/-- Some of the orders of the next interval have been carried out, the others have not. -/
def Carries (world : World α) (flowPermanent : Bool) (done later : List Happening)
    (traffic : Traffic α) : Prop :=
  ∃ changed outcomes midway decisions,
    world.applyChanges = .ok changed ∧
    changed.refilled.departAll changed.table (changed.context flowPermanent)
      (changed.departures.drain changed.clock.now).1 = .ok (outcomes, midway) ∧
    decideAll changed.network (changed.context flowPermanent) midway = .ok decisions ∧
    decisions.flatMap (·.orders) = done ++ later ∧
    Traffic.Steps changed.table (changed.context flowPermanent) midway done traffic

/-- The roads at the moments of the next interval: between two changes of the network, two
departures or two orders, and while the vehicle of an order is off the road. -/
inductive Moment (world : World α) (flowPermanent : Bool) : Roads α → Prop where
  | changing {made later : List (NetworkChange α)} {changed : World α}
      (due : world.changes.takeWhile world.isDue = made ++ later)
      (done : made.foldlM applyChange world = .ok changed) :
      Moment world flowPermanent changed.roads
  | departing {changed : World α} {gone later : List AgentId}
      {outcomes : List (AgentId × DepartureOutcome)} {traffic : Traffic α}
      (changes : world.applyChanges = .ok changed)
      (due : (changed.departures.drain changed.clock.now).1 = gone ++ later)
      (departed : changed.refilled.departAll changed.table (changed.context flowPermanent)
        gone = .ok (outcomes, traffic)) :
      Moment world flowPermanent traffic.roads
  | moving {done later : List Happening} {traffic : Traffic α}
      (carries : world.Carries flowPermanent done later traffic) :
      Moment world flowPermanent traffic.roads
  | between {done later : List Happening} {traffic traffic' : Traffic α} {move : Move}
      {link : LinkId} {agent : AgentId} {movesOn : Bool} {vehicle : Vehicle α}
      (carries : world.Carries flowPermanent done (.ofMove move :: later) traffic)
      (off : traffic.takeOff link agent movesOn = .ok (vehicle, traffic')) :
      Moment world flowPermanent traffic'.roads

theorem moment_roads (world : World α) (flowPermanent : Bool) :
    world.Moment flowPermanent world.roads :=
  .changing (List.nil_append _).symm rfl

end World

/-- A property of roads that no change, interval or happening takes away. -/
structure Enduring (holds : Roads α → Prop) : Prop where
  like : ∀ {roads roads' : Roads α}, holds roads → roads'.Like roads → holds roads'
  step : ∀ {table : ModeTable α} {context : RouteContext} {traffic traffic' : Traffic α}
    {happening : Happening},
    holds traffic.roads → Traffic.Step table context traffic happening traffic' →
      holds traffic'.roads
  off : ∀ {roads : Roads α} {link : LinkId} {queue : LinkQueue α} {agent : AgentId}
    {vehicle : Vehicle α} {movesOn : Bool},
    holds roads → roads.queue? link = some queue →
      queue.vehicles.find? (·.agent == agent) = some vehicle →
        holds (roads.setQueue link (queue.releasing vehicle movesOn))

namespace Enduring

variable {holds : Roads α → Prop} {world world' : World α}

theorem and {holds' : Roads α → Prop} (first : Enduring holds) (second : Enduring holds') :
    Enduring fun roads => holds roads ∧ holds' roads where
  like both alike := ⟨first.like both.1 alike, second.like both.2 alike⟩
  step both step := ⟨first.step both.1 step, second.step both.2 step⟩
  off both present aboard :=
    ⟨first.off both.1 present aboard, second.off both.2 present aboard⟩

theorem rules (roads : Roads α) :
    Enduring fun roads' : Roads α => roads'.rules = roads.rules where
  like same alike := alike.rules.trans same
  step same step := step.rules.trans same
  off same _ _ := same

theorem sites (roads : Roads α) :
    Enduring fun roads' : Roads α => roads'.sites = roads.sites where
  like same alike := alike.sites.trans same
  step same step := step.sites.trans same
  off same present _ :=
    (Roads.map_setQueue present (LinkQueue.releasing_site ..)).trans same

theorem steps (enduring : Enduring holds) {table : ModeTable α} {context : RouteContext}
    {traffic traffic' : Traffic α} {happenings : List Happening}
    (held : holds traffic.roads)
    (steps : Traffic.Steps table context traffic happenings traffic') :
    holds traffic'.roads :=
  Traffic.Steps.preserves (fun traffic => holds traffic.roads) enduring.step held steps

theorem changes (enduring : Enduring holds) {changes : List (NetworkChange α)}
    (held : holds world.roads)
    (made : changes.foldlM World.applyChange world = .ok world') : holds world'.roads :=
  World.foldlM_applyChange_preserves (fun _ roads => holds roads)
    (fun _ roads _ _ _ held _ => enduring.like held (roads.refresh_like ..)) held made

theorem refilled (enduring : Enduring holds) (held : holds world.roads)
    (made : world.applyChanges = .ok world') : holds world'.refilled.roads := by
  exact enduring.like (enduring.changes held made) world'.roads.refill_like

theorem interval (enduring : Enduring holds) {flowPermanent : Bool} {interval : Interval α}
    (held : holds world.roads) (simulated : world.interval flowPermanent = .ok interval) :
    holds interval.next.roads := by
  obtain ⟨course, follows, rfl⟩ := World.interval_eq_ok.mp simulated
  exact enduring.steps (enduring.refilled held follows.changed) follows.steps

theorem run (enduring : Enduring holds) {history : List (Interval α)}
    (held : holds world.roads) (run : World.Run world history world') :
    holds world'.roads :=
  World.Run.preserves (fun world => holds world.roads) enduring.interval held run

theorem carries (enduring : Enduring holds) {flowPermanent : Bool}
    {done later : List Happening} {traffic : Traffic α} (held : holds world.roads)
    (carries : world.Carries flowPermanent done later traffic) : holds traffic.roads := by
  obtain ⟨changed, outcomes, midway, decisions, made, departed, -, -, carried⟩ := carries
  obtain ⟨-, departures, -, steps⟩ := Traffic.departAll_eq_ok.mp departed
  exact enduring.steps (enduring.steps (enduring.refilled held made) steps) carried

theorem moment (enduring : Enduring holds) {flowPermanent : Bool} {roads : Roads α}
    (held : holds world.roads) (moment : world.Moment flowPermanent roads) :
    holds roads := by
  cases moment with
  | changing _ done => exact enduring.changes held done
  | departing changes _ departed =>
      obtain ⟨-, departures, -, steps⟩ := Traffic.departAll_eq_ok.mp departed
      exact enduring.steps (enduring.refilled held changes) steps
  | moving carries => exact enduring.carries held carries
  | between carries off =>
      obtain ⟨queue, present, aboard, rfl⟩ := Traffic.takeOff_eq_ok.mp off
      exact enduring.off (enduring.carries held carries) present aboard

end Enduring

end MixedTraffic
