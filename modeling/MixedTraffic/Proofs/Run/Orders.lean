import MixedTraffic.Proofs.Road.Plan
import MixedTraffic.Proofs.Run.Whereabouts

namespace MixedTraffic

variable {α : Type}

/-! The orders that all nodes give in one interval. No agent is ordered twice, so that each
of them finds its agent as the nodes have seen it. -/

namespace Happening

/-- The agent, unless its trip and its vehicle stay as they are. -/
def touched? : Happening → Option AgentId
  | heldUp .. => none
  | happening => some happening.agent

theorem agent_ofMove (move : Move) : (ofMove move).agent = move.agent := by
  cases move <;> rfl

theorem touched?_ofMove (move : Move) : (ofMove move).touched? = some move.agent := by
  cases move <;> rfl

end Happening

theorem NodeDecision.touched_orders (decision : NodeDecision) :
    decision.orders.filterMap Happening.touched? = decision.moves.map Move.agent := by
  have moved : (decision.moves.map .ofMove).filterMap Happening.touched? =
      decision.moves.map Move.agent := by
    rw [List.filterMap_map, ← List.filterMap_eq_map]
    congr 1
    funext move
    exact Happening.touched?_ofMove move
  have marked : (decision.blocked.map .ofMark).filterMap Happening.touched? = [] := by
    rw [List.filterMap_map, List.filterMap_eq_nil_iff]
    intro entry _
    rfl
  rw [orders, List.filterMap_append, moved, marked, List.append_nil]

namespace Traffic

variable {traffic traffic' before : Traffic α} {pending : List AgentId}

/-- That nothing has happened to an agent since. -/
structure Untouched (traffic before : Traffic α) (id : AgentId) : Prop where
  agent : traffic.population.get? id = before.population.get? id
  vehicle : ∀ {entry}, entry.2.agent = id →
    (entry ∈ traffic.roads.fleet ↔ entry ∈ before.roads.fleet)

theorem Untouched.refl (traffic : Traffic α) (id : AgentId) : traffic.Untouched traffic id :=
  ⟨rfl, fun _ => .rfl⟩

theorem Placed.nodup_riders (placed : traffic.Placed pending) : traffic.roads.riders.Nodup := by
  rw [List.nodup_iff_count_le_one]
  intro id
  by_cases rides : id ∈ traffic.roads.riders
  · obtain ⟨agent, found⟩ := Option.isSome_iff_exists.mp (placed.known (.inr rides))
    obtain ⟨place, shows⟩ := placed.shown found
    obtain ⟨entry, member, own⟩ := List.mem_map.mp rides
    exact Nat.le_of_eq (shows.enRoute_of_mem member own).2.2
  · rw [List.count_eq_zero.mpr rides]
    exact Nat.zero_le 1

theorem Placed.eq_of_agent_eq (placed : traffic.Placed pending)
    {entry other : LinkId × Vehicle α} (member : entry ∈ traffic.roads.fleet)
    (member' : other ∈ traffic.roads.fleet) (same : entry.2.agent = other.2.agent) :
    entry = other :=
  List.inj_on_of_nodup_map placed.nodup_riders member member' same

theorem Placed.find?_of_mem (placed : traffic.Placed pending) {link : LinkId}
    {vehicle : Vehicle α} (member : (link, vehicle) ∈ traffic.roads.fleet) :
    ∃ queue, traffic.roads.queue? link = some queue ∧ vehicle ∈ queue.vehicles ∧
      queue.vehicles.find? (·.agent == vehicle.agent) = some vehicle := by
  obtain ⟨queue, present, aboard⟩ := (Roads.mem_fleet placed.labelled).mp member
  refine ⟨queue, present, aboard, ?_⟩
  cases found : queue.vehicles.find? (·.agent == vehicle.agent) with
  | none =>
      have other := List.find?_eq_none.mp found vehicle aboard
      simp at other
  | some first =>
      have own : first.agent = vehicle.agent := by simpa using List.find?_some found
      have there : (link, first) ∈ traffic.roads.fleet :=
        (Roads.mem_fleet placed.labelled).mpr ⟨queue, present, List.mem_of_find?_eq_some found⟩
      cases placed.eq_of_agent_eq there member own
      rfl

variable [Quantity α] {table : ModeTable α} {context : RouteContext} {happening : Happening}
  {happenings : List Happening}

theorem Untouched.step {id : AgentId} (untouched : traffic.Untouched before id)
    (other : id ∉ happening.touched?)
    (step : Step table context traffic happening traffic') : traffic'.Untouched before id := by
  have kept : traffic'.Untouched traffic id := by
    cases happening with
    | heldUp agent link =>
        obtain ⟨like, population⟩ := step.like_of_heldUp
        exact ⟨by rw [population], fun _ => like.fleet.mem_iff⟩
    | departed | skipped | turnedAway | gaveUp | transferred | arrived | removed =>
        have different : id ≠ Happening.agent _ := fun same => other (same ▸ rfl)
        exact ⟨step.get?_other different, fun own => step.mem_fleet_other (own ▸ different)⟩
  exact ⟨kept.agent.trans untouched.agent, fun own =>
    (kept.vehicle own).trans (untouched.vehicle own)⟩

/-- What holds before some happenings and is kept by each of them, which finds its agent as
it was before all of them, holds after them. -/
theorem Steps.preserves_untouched (holds : List Happening → Traffic α → Prop)
    (each : ∀ {done traffic happening traffic'}, happening ∈ happenings →
      (∀ id ∈ happening.touched?, Untouched traffic before id) → holds done traffic →
        Step table context traffic happening traffic' → holds (done ++ [happening]) traffic')
    (distinct : (happenings.filterMap Happening.touched?).Nodup) (start : holds [] before)
    (steps : Steps table context before happenings traffic') : holds happenings traffic' := by
  have both := steps.accumulates
    (fun done traffic => holds done traffic ∧
      ∀ id ∉ done.filterMap Happening.touched?, traffic.Untouched before id)
    (by
      intro done rest happening traffic traffic' parts held step
      obtain ⟨held, untouched⟩ := held
      have own : ∀ id ∈ happening.touched?, id ∉ done.filterMap Happening.touched? := by
        intro id touched earlier
        rw [parts, List.filterMap_append, List.filterMap_cons_some touched] at distinct
        exact (List.nodup_append.mp distinct).2.2 id earlier id List.mem_cons_self rfl
      have member : happening ∈ happenings :=
        parts ▸ List.mem_append_right done List.mem_cons_self
      refine ⟨each member (fun id touched => untouched id (own id touched)) held step, ?_⟩
      intro id later
      rw [List.filterMap_append, List.mem_append, not_or] at later
      refine (untouched id later.1).step (fun touched => later.2 ?_) step
      rw [List.filterMap_cons_some touched]
      exact List.mem_cons_self)
    ⟨start, fun id _ => .refl before id⟩
  exact both.1

end Traffic

namespace Roads

variable {roads : Roads α} {links : List LinkId}

theorem mem_queueing (labelled : roads.Labelled) {link : LinkId} {id : AgentId} :
    id ∈ roads.queueing link ↔ ∃ vehicle, (link, vehicle) ∈ roads.fleet ∧ vehicle.agent = id := by
  simp only [mem_fleet labelled, queueing]
  cases roads.queue? link with
  | none => simp
  | some queue => simp

theorem nodup_queueing (labelled : roads.Labelled) (distinct : roads.riders.Nodup)
    (once : links.Nodup) : (links.flatMap roads.queueing).Nodup := by
  rw [List.nodup_flatMap]
  constructor
  · intro link _
    unfold queueing
    cases present : roads.queue? link with
    | none => exact List.nodup_nil
    | some queue =>
        have part : queue.load.Sublist roads.fleet := by
          unfold fleet
          rw [List.flatMap_def]
          apply List.sublist_flatten_of_mem
          exact List.mem_map_of_mem (Array.mem_toList_iff.mpr (Array.mem_of_getElem? present))
        have agents : (queue.load.map (·.2.agent)).Nodup := distinct.sublist (part.map _)
        rw [LinkQueue.load, List.map_map] at agents
        exact agents
  · refine once.imp fun {link other} different => ?_
    intro id here there
    obtain ⟨vehicle, member, own⟩ := (mem_queueing labelled).mp here
    obtain ⟨vehicle', member', own'⟩ := (mem_queueing labelled).mp there
    have same := List.inj_on_of_nodup_map distinct member member' (own.trans own'.symm)
    exact different (Prod.mk.inj same).1

def servedLinks (roads : Roads α) (network : Network α) : List LinkId :=
  network.nodeKeys.flatMap fun node => (roads.inbound? node).getD []

theorem nodup_servedLinks {network : Network α} {tickSecs : Nat} (sound : network.Sound)
    (mirrors : roads.Mirrors tickSecs network) : (roads.servedLinks network).Nodup := by
  have row (node : NodeId) : ((roads.inbound? node).getD []).Nodup ∧
      ∀ link ∈ (roads.inbound? node).getD [],
        ∃ attributes, network.link? link = some attributes ∧ attributes.finish = node := by
    have ranked := mirrors.inbound node
    generalize filed : network.incoming? node = row at ranked
    generalize roads.inbound? node = served at ranked
    cases ranked with
    | none => simp
    | some perm =>
        refine ⟨perm.nodup_iff.mpr (sound.nodup_incoming filed), fun link member => ?_⟩
        exact (sound.mem_incoming filed).mp (perm.mem_iff.mp member)
  unfold servedLinks
  rw [List.nodup_flatMap]
  constructor
  · exact fun node _ => (row node).1
  · refine (Key.nodup_map_range network.nodes.size).imp
      fun {node other} different link here there => ?_
    obtain ⟨attributes, found, finish⟩ := (row node).2 link here
    obtain ⟨again, refound, finish'⟩ := (row other).2 link there
    cases found.symm.trans refound
    exact different (finish.symm.trans finish')

end Roads

variable [Quantity α]

theorem Traffic.Step.mirrors {table : ModeTable α} {context : RouteContext}
    {traffic traffic' : Traffic α} {happening : Happening} {network : Network α}
    {tickSecs : Nat} (mirrors : traffic.roads.Mirrors tickSecs network)
    (step : Traffic.Step table context traffic happening traffic') :
    traffic'.roads.Mirrors tickSecs network := by
  refine mirrors.congr (step.queues_map ?_ ?_ ?_) step.inbound
  · exact fun _ _ => rfl
  · exact fun _ _ _ => rfl
  · intro queue agent now
    unfold LinkQueue.markBlocked
    split <;> rfl

/-- The roads are in step with a network that has the links and nodes of the first. -/
structure World.Charted (first : Network α) (tickSecs : Nat) (world : World α) : Prop where
  alike : world.network.Alike first
  mirrors : world.roads.Mirrors tickSecs world.network

namespace World.Charted

variable {first : Network α} {tickSecs : Nat} {world world' : World α}

theorem of_build {σ : Type} {setup : SimSetup α σ} {start : Sim α σ}
    (built : setup.build = .ok start) :
    start.world.Charted setup.network setup.config.tickSecs := by
  obtain ⟨roads, opened, world⟩ := (SimSetup.build_eq_ok built).world
  rw [world]
  exact ⟨.refl _, .of_ofNetwork opened⟩

theorem changes {changes : List (NetworkChange α)} (charted : world.Charted first tickSecs)
    (made : changes.foldlM applyChange world = .ok world') : world'.Charted first tickSecs := by
  have kept := foldlM_applyChange_preserves
    (fun network roads => network.Alike first ∧ roads.Mirrors tickSecs network)
    (fun _ _ _ _ _ held applied =>
      ⟨(Network.alike_apply applied).trans held.1, held.2.refresh applied _⟩)
    ⟨charted.alike, charted.mirrors⟩ made
  exact ⟨kept.1, kept.2⟩

theorem changed (charted : world.Charted first tickSecs)
    (made : world.applyChanges = .ok world') : world'.Charted first tickSecs := by
  exact charted.changes made

theorem interval {flowPermanent : Bool} {interval : Interval α}
    (charted : world.Charted first tickSecs)
    (simulated : world.interval flowPermanent = .ok interval) :
    interval.next.Charted first tickSecs := by
  obtain ⟨course, follows, rfl⟩ := World.interval_eq_ok.mp simulated
  obtain ⟨alike, mirrors⟩ := charted.changed follows.changed
  exact ⟨alike, Traffic.Steps.preserves
    (fun traffic => traffic.roads.Mirrors tickSecs course.changed.network)
    Traffic.Step.mirrors mirrors.refill follows.steps⟩

end World.Charted

namespace World

variable {network : Network α} {context : RouteContext} {traffic : Traffic α}
  {decisions : List NodeDecision} {pending : List AgentId} {tickSecs : Nat}

theorem decideAll_eq_ok :
    decideAll network context traffic = .ok decisions ↔
      List.Forall₂ (fun node decision =>
        traffic.roads.decide network traffic.population context node = .ok decision)
        network.nodeKeys decisions :=
  Attempt.mapM_eq_ok

theorem nodup_touched (decided : decideAll network context traffic = .ok decisions)
    (sound : network.Sound) (mirrors : traffic.roads.Mirrors tickSecs network)
    (placed : traffic.Placed pending) :
    ((decisions.flatMap (·.orders)).filterMap Happening.touched?).Nodup := by
  have served := Roads.nodup_queueing placed.labelled placed.nodup_riders
    (Roads.nodup_servedLinks sound mirrors)
  refine served.sublist ?_
  rw [List.filterMap_flatMap, Roads.servedLinks]
  have each := decideAll_eq_ok.mp decided
  clear decided
  generalize network.nodeKeys = nodes at each
  induction each with
  | nil => exact List.nil_sublist _
  | cons decided _ ih =>
      obtain ⟨outgoing, inbound, rooms, decides⟩ := Roads.decides_of_decide decided
      obtain ⟨rooms', chooses⟩ := decides.chosen
      rw [List.flatMap_cons, List.flatMap_cons, List.flatMap_append,
        NodeDecision.touched_orders, decides.coming]
      exact chooses.agents_sublist.append ih

/-- An order is given on grounds that its node has seen. -/
theorem grounds_of_mem_orders (decided : decideAll network context traffic = .ok decisions)
    (sound : network.Sound) (mirrors : traffic.roads.Mirrors tickSecs network)
    (placed : traffic.Placed pending) {happening : Happening}
    (member : happening ∈ decisions.flatMap (·.orders)) :
    (∃ id link, happening = .heldUp id link ∧ (traffic.roads.queue? link).isSome) ∨
      ∃ move vehicle agent, happening = .ofMove move ∧
        traffic.roads.Grounds network traffic.population context move vehicle agent := by
  obtain ⟨decision, listed, order⟩ := List.mem_flatMap.mp member
  obtain ⟨node, -, decided⟩ := Attempt.exists_of_mem_mapM decided listed
  obtain ⟨outgoing, inbound, rooms, decides⟩ := Roads.decides_of_decide decided
  obtain moved | marked := List.mem_append.mp order
  · obtain ⟨move, chosen, rfl⟩ := List.mem_map.mp moved
    obtain ⟨vehicle, agent, grounds⟩ := decides.grounds sound mirrors placed.labelled chosen
    exact .inr ⟨move, vehicle, agent, rfl, grounds⟩
  · obtain ⟨⟨link, id⟩, turned, rfl⟩ := List.mem_map.mp marked
    exact .inl ⟨id, link, rfl, decides.blocked _ turned⟩

end World

end MixedTraffic
