import MixedTraffic.Proofs.Road.Storage
import MixedTraffic.Proofs.Run.Moment

namespace MixedTraffic

/-! Through any run, each link holds what its vehicles take up, within its storage. -/

/-- Whether a mode is among those that are let through stopped traffic. -/
def Dynamics.LetsSeep {α : Type} [Quantity α] (dynamics : Dynamics α) (table : ModeTable α)
    (mode : ModeId) : Prop :=
  ∃ seepage type, dynamics.seepage = some seepage ∧ table.get? mode = some type ∧
    type.name ∈ seepage.modes

namespace Dynamics

theorem fraction_pos {dynamics : Dynamics Rat} {table : ModeTable Rat}
    {seepage : Seepage Rat} (checked : dynamics.check table = .ok ())
    (given : dynamics.seepage = some seepage) : 0 < seepage.fraction := by
  simp only [check, given, Attempt.bind_eq_ok, ConfigError.require_eq_ok,
    decide_eq_true_eq] at checked
  obtain ⟨_, _, _, _, _, ⟨fraction, _⟩, _⟩ := checked
  exact fraction

end Dynamics

namespace Roads

theorem seeps_eq_true_iff {α : Type} [Quantity α] {network : Network α}
    {dynamics : Dynamics α} {table : ModeTable α} {tickSecs : Nat} {roads : Roads α}
    {mode : ModeId} (opened : ofNetwork network dynamics table tickSecs = .ok roads) :
    roads.seeps mode = true ↔ dynamics.LetsSeep table mode := by
  obtain ⟨-, rfl⟩ := ofNetwork_eq_ok.mp opened
  simp only [Roads.seeps, Dynamics.seepFlags, Array.getElem?_map, Dynamics.LetsSeep,
    ModeTable.get?]
  cases table.types[mode.index]? with
  | none => simp
  | some type =>
      cases dynamics.seepage with
      | none => simp
      | some seepage => simp

def Accounted (roads : Roads Rat) : Prop :=
  ∀ link queue, roads.queue? link = some queue → queue.Accounted roads.seeps

namespace Accounted

variable {roads roads' : Roads Rat} {link : LinkId} {queue new : LinkQueue Rat}

theorem setQueue (accounted : roads.Accounted) (present : roads.queue? link = some queue)
    (updated : new.Accounted roads.seeps) : (roads.setQueue link new).Accounted := by
  intro other queue' found
  rw [queue?_setQueue present] at found
  split at found
  · cases found
    exact updated
  · exact accounted other queue' found

theorem of_like (accounted : roads.Accounted) (like : roads'.Like roads) :
    roads'.Accounted := by
  intro link queue' found
  obtain ⟨queue, present, same⟩ := like.queues link queue' found
  have seeps : roads'.seeps = roads.seeps := funext (seeps_eq_of_rules like.rules)
  rw [seeps]
  exact (accounted link queue present).of_like same

theorem releasing (accounted : roads.Accounted) {agent : AgentId} {vehicle : Vehicle Rat}
    (present : roads.queue? link = some queue)
    (aboard : queue.vehicles.find? (·.agent == agent) = some vehicle) (movesOn : Bool) :
    (roads.setQueue link (queue.releasing vehicle movesOn)).Accounted :=
  accounted.setQueue present ((accounted link queue present).releasing aboard movesOn)

theorem step {table : ModeTable Rat} {context : RouteContext} {traffic traffic' : Traffic Rat}
    {happening : Happening} (accounted : traffic.roads.Accounted)
    (step : Traffic.Step table context traffic happening traffic') :
    traffic'.roads.Accounted := by
  cases step with
  | skipped | turnedAway | gaveUp => exact accounted
  | departed _ _ _ _ present built taken =>
      rw [← Vehicle.mode_of_new? built] at taken
      have positive := (Vehicle.isOf_of_new? built).pcu_pos
      exact accounted.setQueue present ((accounted _ _ present).holding positive taken)
  | transferred present aboard reached taken =>
      -- The vehicle is off the road in between, also if both links are the same.
      have left := accounted.releasing present aboard true
      have positive := (accounted _ _ present).positive _ (List.mem_of_find?_eq_some aboard)
      exact left.setQueue reached ((left _ _ reached).holding positive taken)
  | arrived present aboard | removed present aboard => exact accounted.releasing present aboard _
  | heldUp present =>
      exact accounted.of_like (setQueue_like present (LinkQueue.markBlocked_like ..))

theorem enduring : Enduring Roads.Accounted where
  like := of_like
  step := step
  off accounted present aboard := accounted.releasing present aboard _

end Accounted

theorem accounted_ofLink {dynamics : Dynamics Rat} {table : ModeTable Rat}
    (checked : dynamics.check table = .ok ()) (key : LinkId) (link : Link Rat)
    (tickSecs : Nat) (seeps : ModeId → Bool) :
    (LinkQueue.ofLink key link dynamics table tickSecs).Accounted seeps := by
  have storage : 0 ≤ (LinkQueue.ofLink key link dynamics table tickSecs).storage :=
    table.maxPcu_nonneg.trans (Quantity.le_larger_right _ _)
  have empty : (LinkQueue.ofLink key link dynamics table tickSecs).vehicles = [] := rfl
  refine ⟨rfl, rfl, ?_, ?_, by simp [empty], by simp [empty]⟩
  · exact storage.trans (le_add_of_nonneg_right Quantity.slack_pos.le)
  · refine le_add_of_le_of_nonneg ?_ Quantity.slack_pos.le
    cases given : dynamics.seepage with
    | none =>
        have closed : (LinkQueue.ofLink key link dynamics table tickSecs).seepStorage = 0 := by
          simp only [LinkQueue.ofLink, LinkQueue.setFlow, given]
          rfl
        exact closed.ge
    | some seepage =>
        have part : (LinkQueue.ofLink key link dynamics table tickSecs).seepStorage =
            (LinkQueue.ofLink key link dynamics table tickSecs).storage *
              seepage.fraction := by
          simp only [LinkQueue.ofLink, LinkQueue.setFlow, given]
          rfl
        rw [part]
        exact mul_nonneg storage (Dynamics.fraction_pos checked given).le

theorem accounted_ofNetwork {network : Network Rat} {dynamics : Dynamics Rat}
    {table : ModeTable Rat} {tickSecs : Nat} {roads : Roads Rat}
    (opened : ofNetwork network dynamics table tickSecs = .ok roads) : roads.Accounted := by
  intro link queue present
  rw [queue?_of_ofNetwork opened, Option.map_eq_some_iff] at present
  obtain ⟨attributes, -, rfl⟩ := present
  exact accounted_ofLink (ofNetwork_eq_ok.mp opened).1 ..

end Roads

theorem Sim.Run.seeps_iff {α σ : Type} [Quantity α] {setup : SimSetup α σ} {start sim : Sim α σ}
    {history : List (Interval α)} (built : setup.build = .ok start)
    (run : Sim.Run start history sim) (mode : ModeId) :
    sim.world.roads.seeps mode = true ↔ setup.dynamics.LetsSeep setup.table mode := by
  rw [Roads.seeps_eq_of_rules ((Enduring.rules start.world.roads).run rfl run.world)]
  exact Roads.seeps_eq_true_iff (SimSetup.build_eq_ok built).opened

/-- At every moment of every run, what is held on a link in either pool is what its vehicles
take up, within the capacity that the link was opened with up to one slack, whatever the
number of admissions. Only modes that are let through seep, and a release never meets the
clamp at zero. -/
theorem Sim.Run.storage_accounted {σ : Type} {setup : SimSetup Rat σ} {start sim : Sim Rat σ}
    {history : List (Interval Rat)} (built : setup.build = .ok start)
    (run : Sim.Run start history sim) {roads : Roads Rat}
    (moment : sim.world.Moment sim.flowPermanent roads) {link : LinkId}
    {queue : LinkQueue Rat} (present : roads.queue? link = some queue) :
    (∃ attributes, setup.network.link? link = some attributes ∧
      queue.storage = Quantity.larger (attributes.storageFor setup.dynamics.cell)
        setup.table.maxPcu ∧
      queue.seepStorage =
        setup.dynamics.seepage.elim 0 fun seepage => queue.storage * seepage.fraction) ∧
    queue.occupied = LinkQueue.held false queue.vehicles ∧
    queue.occupied ≤ queue.storage + 1 / 10 ^ 9 ∧
    queue.seepOccupied = LinkQueue.held true queue.vehicles ∧
    queue.seepOccupied ≤ queue.seepStorage + 1 / 10 ^ 9 ∧
    ∀ vehicle ∈ queue.vehicles,
      (vehicle.seeping = true → setup.dynamics.LetsSeep setup.table vehicle.mode) ∧
      LinkQueue.release (if vehicle.seeping then queue.seepOccupied else queue.occupied)
          vehicle.pcu =
        (if vehicle.seeping then queue.seepOccupied else queue.occupied) - vehicle.pcu := by
  obtain ⟨opened, made, world⟩ := (SimSetup.build_eq_ok built).world
  have enduring := Roads.Accounted.enduring.and
    ((Enduring.rules opened).and (Enduring.sites opened))
  have initial : start.world.roads.Accounted ∧
      start.world.roads.rules = opened.rules ∧ start.world.roads.sites = opened.sites := by
    rw [world]
    exact ⟨Roads.accounted_ofNetwork made, rfl, rfl⟩
  obtain ⟨all, rules, sites⟩ := enduring.moment (enduring.run initial run.world) moment
  have accounted := all link queue present
  obtain ⟨first, opening, site⟩ := Roads.site_eq_of_sites sites present
  rw [Roads.queue?_of_ofNetwork made, Option.map_eq_some_iff] at opening
  obtain ⟨attributes, known, rfl⟩ := opening
  have slack : (Quantity.slack : Rat) = 1 / 10 ^ 9 := by
    norm_num [Quantity.slack, Quantity.fraction]
  have storage : queue.storage =
      Quantity.larger (attributes.storageFor setup.dynamics.cell) setup.table.maxPcu :=
    congrArg Site.storage site
  have seepStorage : queue.seepStorage =
      setup.dynamics.seepage.elim 0 fun seepage => queue.storage * seepage.fraction := by
    rw [storage]
    exact congrArg Site.seepStorage site
  refine ⟨⟨attributes, known, storage, seepStorage⟩,
    accounted.occupied, slack ▸ accounted.within, accounted.seepOccupied,
    slack ▸ accounted.seepWithin, fun vehicle member => ⟨fun seeping => ?_,
      accounted.release_eq member⟩⟩
  have flagged := accounted.seeping vehicle member seeping
  rw [Roads.seeps_eq_of_rules rules] at flagged
  exact (Roads.seeps_eq_true_iff made).mp flagged

/-- The regular storage is taken up by three narrow vehicles, so a wide one seeps. -/
theorem Bottleneck.storage_accounted_of_seeping :
    ∃ network population start sim history queue, draft.build = .ok network ∧
      (crowd [(narrow, 0, [exit]), (narrow, 0, [exit]), (narrow, 0, [exit]),
        (wide, 0, [exit])]).build table = .ok population ∧
      (setup network population).build = .ok start ∧
      Sim.Run start history sim ∧ sim.world.roads.queue? exit = some queue ∧
      LinkQueue.held false queue.vehicles = 3 ∧ LinkQueue.held true queue.vehicles = 2 ∧
      queue.occupied ≤ queue.storage + 1 / 10 ^ 9 ∧
      queue.seepOccupied ≤ queue.seepStorage + 1 / 10 ^ 9 := by
  have ran : drive? draft [(narrow, 0, [exit]), (narrow, 0, [exit]), (narrow, 0, [exit]),
      (wide, 0, [exit])] setup 1 (fun _ _ _ sim =>
        (sim.world.roads.queue? exit).map fun queue => (queue.occupied, queue.seepOccupied)) =
      some (3, 2) := by decide +kernel
  obtain ⟨network, population, start, sim, history, drafted, populated, built, -, run, seen⟩ :=
    exists_of_drive? ran
  simp only [Option.map_eq_some_iff, Prod.mk.injEq] at seen
  obtain ⟨queue, present, regular, seepage⟩ := seen
  obtain ⟨-, occupied, within, seeping, seepWithin, -⟩ :=
    Sim.Run.storage_accounted built run (sim.world.moment_roads sim.flowPermanent) present
  exact ⟨network, population, start, sim, _, queue, drafted, populated, built, run, present,
    occupied.symm.trans regular, seeping.symm.trans seepage, within, seepWithin⟩

end MixedTraffic
