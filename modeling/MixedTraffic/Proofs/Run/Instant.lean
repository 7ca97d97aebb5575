import MixedTraffic.Proofs.Road.Savings
import MixedTraffic.Proofs.Run.Accounts
import MixedTraffic.Proofs.Run.Flow

namespace MixedTraffic

/-! Inside an interval, each link still holds what the orders that are left let leave it. -/

/-- The roads at the moments of the next interval at which the vehicle that is off the road is
the one of the order that is carried out. -/
inductive World.Instant {α : Type} [Quantity α] (world : World α) (flowPermanent : Bool) :
    Roads α → Prop where
  | changing {made later : List (NetworkChange α)} {changed : World α}
      (due : world.changes.takeWhile world.isDue = made ++ later)
      (done : made.foldlM applyChange world = .ok changed) :
      Instant world flowPermanent changed.roads
  | departing {changed : World α} {gone later : List AgentId}
      {outcomes : List (AgentId × DepartureOutcome)} {traffic : Traffic α}
      (changes : world.applyChanges = .ok changed)
      (due : (changed.departures.drain changed.clock.now).1 = gone ++ later)
      (departed : changed.refilled.departAll changed.table (changed.context flowPermanent)
        gone = .ok (outcomes, traffic)) :
      Instant world flowPermanent traffic.roads
  | moving {done later : List Happening} {traffic : Traffic α}
      (carries : world.Carries flowPermanent done later traffic) :
      Instant world flowPermanent traffic.roads
  | between {done later : List Happening} {traffic traffic' : Traffic α} {move : Move}
      {vehicle : Vehicle α}
      (carries : world.Carries flowPermanent done (.ofMove move :: later) traffic)
      (off : traffic.takeOff move.source move.agent move.movesOn = .ok (vehicle, traffic')) :
      Instant world flowPermanent traffic'.roads

theorem World.Instant.moment {α : Type} [Quantity α] {world : World α} {flowPermanent : Bool}
    {roads : Roads α} (instant : world.Instant flowPermanent roads) :
    world.Moment flowPermanent roads := by
  cases instant with
  | changing due done => exact .changing due done
  | departing changes due departed => exact .departing changes due departed
  | moving carries => exact .moving carries
  | between carries off => exact .between carries off

theorem Population.pcuOf_le_maxPcu (population : Population) (table : ModeTable Rat)
    (id : AgentId) : population.pcuOf table id ≤ table.maxPcu := by
  rw [pcuOf]
  cases found : (population.get? id).bind fun agent => table.get? agent.mode with
  | none => exact table.maxPcu_nonneg
  | some type =>
      obtain ⟨agent, -, listed⟩ := Option.bind_eq_some_iff.mp found
      exact ModeTable.pcu_le_maxPcu listed

namespace LinkQueue

variable {queue queue' : LinkQueue Rat} {attributes : Link Rat} {table : ModeTable Rat}
  {secs : Nat} {pcuOf : AgentId → Rat} {link : LinkId} {happening : Happening}
  {later : List Happening}

/-- A link that holds what leaves it in some happenings holds what is left after the first. -/
theorem Gives.covers (gives : queue.Gives (Happening.drawn pcuOf link [happening]) queue')
    (metered : queue.Metered attributes table secs) (nonneg : ∀ id, 0 ≤ pcuOf id)
    (covers : Happening.drawn pcuOf link (happening :: later) ≤
      queue.accumulator + Quantity.slack) :
    queue'.Metered attributes table secs ∧
      Happening.drawn pcuOf link later ≤ queue'.accumulator + Quantity.slack := by
  rw [← List.singleton_append, Happening.drawn_append] at covers
  have rest : 0 ≤ Happening.drawn pcuOf link later := Happening.drawn_nonneg nonneg
  refine ⟨gives.metered metered (Happening.drawn_nonneg nonneg) ?_, ?_⟩
  · linarith
  · rw [gives.accumulator]
    linarith

end LinkQueue

theorem Roads.Metered.refill {roads : Roads Rat} {network : Network Rat} {table : ModeTable Rat}
    {secs : Nat} (metered : roads.Metered network table secs) :
    roads.refill.Metered network table secs := by
  intro link queue present
  simp only [queue?, Roads.refill, Array.getElem?_map, Option.map_eq_some_iff] at present
  obtain ⟨before, found, rfl⟩ := present
  obtain ⟨attributes, known, positive, meter⟩ := metered link before found
  exact ⟨attributes, known, positive, meter.refill positive⟩

theorem Happening.movesOn_ofMove (move : Move) : (ofMove move).movesOn = move.movesOn := by
  cases move <;> rfl

namespace Traffic

variable {table : ModeTable Rat} {context : RouteContext} {traffic traffic' : Traffic Rat}
  {pcuOf : AgentId → Rat} {link : LinkId} {queue : LinkQueue Rat}

theorem Weighs.pcuOf_le (weighs : traffic.Weighs table pcuOf) (id : AgentId) :
    pcuOf id ≤ table.maxPcu :=
  weighs.population ▸ Population.pcuOf_le_maxPcu ..

/-- That every link is metered, and holds what some happenings let leave it. -/
structure Stocked (traffic : Traffic Rat) (network : Network Rat) (table : ModeTable Rat)
    (secs : Nat) (pcuOf : AgentId → Rat) (later : List Happening) : Prop where
  labelled : traffic.roads.Labelled
  weighs : traffic.Weighs table pcuOf
  metered : traffic.roads.Metered network table secs
  covers : ∀ link queue, traffic.roads.queue? link = some queue →
    Happening.drawn pcuOf link later ≤ queue.accumulator + Quantity.slack

namespace Stocked

variable {network : Network Rat} {secs : Nat} {happening : Happening}
  {happenings later : List Happening}

theorem nonneg (stocked : traffic.Stocked network table secs pcuOf later) (id : AgentId) :
    0 ≤ pcuOf id :=
  stocked.weighs.population ▸ Population.pcuOf_nonneg ..

theorem solvent (stocked : traffic.Stocked network table secs pcuOf later) (lasts : 0 < secs)
    (present : traffic.roads.queue? link = some queue) : queue.Solvent table := by
  obtain ⟨attributes, -, positive, metered⟩ := stocked.metered link queue present
  refine metered.solvent positive lasts fun vehicle member => ?_
  rw [stocked.weighs.aboard_of_queue stocked.labelled present vehicle member]
  exact stocked.weighs.pcuOf_le vehicle.agent

theorem step (stocked : traffic.Stocked network table secs pcuOf (happening :: later))
    (step : Step table context traffic happening traffic') :
    traffic'.Stocked network table secs pcuOf later := by
  have each (link : LinkId) (queue' : LinkQueue Rat)
      (present' : traffic'.roads.queue? link = some queue') :
      (∃ attributes, network.link? link = some attributes ∧ 0 < attributes.flowCapacity ∧
        queue'.Metered attributes table secs) ∧
      Happening.drawn pcuOf link later ≤ queue'.accumulator + Quantity.slack := by
    obtain ⟨queue, present, -⟩ := Roads.site_eq_of_sites step.sites present'
    obtain ⟨again, found, turns⟩ := step.turns stocked.labelled present
    cases found.symm.trans present'
    obtain ⟨attributes, known, positive, metered⟩ := stocked.metered link queue present
    have gives := LinkQueue.Gives.of_turns turns
      (stocked.weighs.aboard_of_queue stocked.labelled present)
    obtain ⟨metered', covers⟩ :=
      gives.covers metered stocked.nonneg (stocked.covers link queue present)
    exact ⟨⟨attributes, known, positive, metered'⟩, covers⟩
  exact ⟨step.labelled stocked.labelled, stocked.weighs.step stocked.labelled step,
    fun link queue' present => (each link queue' present).1,
    fun link queue' present => (each link queue' present).2⟩

theorem steps (stocked : traffic.Stocked network table secs pcuOf (happenings ++ later))
    (steps : Steps table context traffic happenings traffic') :
    traffic'.Stocked network table secs pcuOf later := by
  induction steps with
  | nil => exact stocked
  | cons step _ ih => exact ih (stocked.step step)

/-- Also while the vehicle of an order is off the road. -/
theorem solvent_off {move : Move} {vehicle : Vehicle Rat}
    (stocked : traffic.Stocked network table secs pcuOf (.ofMove move :: later)) (lasts : 0 < secs)
    (off : traffic.takeOff move.source move.agent move.movesOn = .ok (vehicle, traffic'))
    (present : traffic'.roads.queue? link = some queue) : queue.Solvent table := by
  obtain ⟨old, opened, aboard, rfl⟩ := takeOff_eq_ok.mp off
  rw [Traffic.setQueue, Roads.queue?_setQueue opened] at present
  split at present
  next same =>
    cases present
    have loses : old.Loses move.source (.ofMove move) (old.releasing vehicle move.movesOn) := by
      rw [← Happening.movesOn_ofMove]
      refine .left (Happening.leaves?_ofMove move) ?_
      rwa [Happening.agent_ofMove]
    have gives := LinkQueue.Gives.of_loses loses
      (stocked.weighs.aboard_of_queue stocked.labelled opened)
    obtain ⟨attributes, -, positive, metered⟩ := stocked.metered _ _ opened
    obtain ⟨metered', -⟩ := gives.covers metered stocked.nonneg (stocked.covers _ _ opened)
    refine metered'.solvent positive lasts fun other member => ?_
    exact (stocked.solvent lasts opened).fits other (List.mem_of_mem_eraseP member)
  next => exact stocked.solvent lasts present

end Stocked

end Traffic

namespace World

variable {world world' : World Rat} {first network : Network Rat} {table : ModeTable Rat}
  {secs : Nat} {pcuOf : AgentId → Rat} {link : LinkId} {queue : LinkQueue Rat}

theorem Measured.changes {changes : List (NetworkChange Rat)}
    (measured : world.Measured table secs pcuOf) (charted : world.Charted first secs)
    (made : changes.foldlM applyChange world = .ok world') :
    world'.roads.Metered world'.network table secs ∧ world'.roads.Like world.roads := by
  have kept := foldlM_applyChange_preserves
    (fun network roads => roads.Mirrors secs network ∧ roads.Metered network table secs ∧
      roads.Like world.roads)
    (by
      rintro network roads change network' - ⟨mirrors, metered, like⟩ applied
      rw [measured.rated]
      exact ⟨mirrors.refresh applied table, (metered.refresh mirrors applied).1,
        (roads.refresh_like ..).trans like⟩)
    ⟨charted.mirrors, measured.metered, .refl _⟩ made
  exact kept.2

section Interval

variable {flowPermanent : Bool} {traffic : Traffic Rat} {done later : List Happening}
  {happenings : List Happening} {outcomes : List (AgentId × DepartureOutcome)} {roads : Roads Rat}

theorem Measured.stocked (measured : world.Measured table secs pcuOf)
    (regular : world.Regular first secs) (made : world.applyChanges = .ok world')
    (named : happenings.map Happening.departure? = outcomes.map some) :
    world'.refilled.Stocked world'.network table secs pcuOf happenings := by
  have metered : world'.refilled.roads.Metered world'.network table secs :=
    (measured.changed regular.charted made).1.refill
  refine ⟨?_, measured.refilled made, metered, fun link queue present => ?_⟩
  · exact (refilled_like made).labelled regular.placed.traffic.labelled
  · obtain ⟨attributes, -, -, meter⟩ := metered link queue present
    rw [Happening.drawn_of_named named]
    exact neg_le_iff_add_nonneg.mp meter.lower

theorem Carries.stocked (carries : world.Carries flowPermanent done later traffic)
    (measured : world.Measured table secs pcuOf) (regular : world.Regular first secs)
    (sound : first.Sound) :
    ∃ network, traffic.Stocked network table secs pcuOf later := by
  obtain ⟨changed, outcomes, midway, decisions, made, departed, decided, split, steps⟩ := carries
  obtain ⟨-, happenings, named, departing⟩ := Traffic.departAll_eq_ok.mp departed
  have rated : changed.table = table := (applyChanges_revises made).table.trans measured.rated
  rw [rated] at departing steps
  have begun := measured.stocked regular made named
  rw [← List.append_nil happenings] at begun
  have deciding := begun.steps departing
  have charted := regular.charted.changed made
  have mirrors : midway.roads.Mirrors secs changed.network :=
    departing.preserves (fun traffic => traffic.roads.Mirrors secs changed.network)
      Traffic.Step.mirrors charted.mirrors.refill
  have ordered : midway.Stocked changed.network table secs pcuOf (done ++ later) := by
    refine { deciding with covers := fun link queue present => ?_ }
    obtain ⟨attributes, -, -, metered⟩ := deciding.metered link queue present
    rw [← split]
    exact drawn_orders_le decided (charted.alike.sound sound) mirrors deciding.labelled
      deciding.weighs present metered.lower
  exact ⟨changed.network, ordered.steps steps⟩

/-- At every moment of an interval, each link may let out any of its vehicles in time. -/
theorem Instant.solvent (instant : world.Instant flowPermanent roads)
    (measured : world.Measured table secs pcuOf) (regular : world.Regular first secs)
    (sound : first.Sound) (lasts : 0 < secs) (present : roads.queue? link = some queue) :
    queue.Solvent table := by
  cases instant with
  | changing due done =>
      obtain ⟨metered, like⟩ := measured.changes regular.charted done
      obtain ⟨attributes, -, positive, meter⟩ := metered link queue present
      obtain ⟨before, found, same⟩ := like.queues link queue present
      refine meter.solvent positive lasts fun vehicle member => ?_
      rw [same.vehicles] at member
      rw [measured.weighs.aboard_of_queue regular.placed.traffic.labelled found vehicle member]
      exact measured.weighs.pcuOf_le vehicle.agent
  | departing changes due departed =>
      obtain ⟨-, happenings, named, departing⟩ := Traffic.departAll_eq_ok.mp departed
      rw [(applyChanges_revises changes).table.trans measured.rated] at departing
      have begun := measured.stocked regular changes named
      rw [← List.append_nil happenings] at begun
      exact (begun.steps departing).solvent lasts present
  | moving carries =>
      obtain ⟨network, stocked⟩ := carries.stocked measured regular sound
      exact stocked.solvent lasts present
  | between carries off =>
      obtain ⟨network, stocked⟩ := carries.stocked measured regular sound
      exact stocked.solvent_off lasts off present

end Interval

end World

end MixedTraffic
