import Mathlib.Algebra.Order.Archimedean.Basic
import MixedTraffic.Proofs.Run.Conditions
import MixedTraffic.Proofs.Run.Instant

namespace MixedTraffic

/-! Through any run, each link lets out whoever is at its front in time, however large, and has
room for everybody when it is empty. -/

namespace Happening

variable {link : LinkId} {front : Vehicle Rat} {happening : Happening}

/-- That a happening takes nobody off a link but an agent who is removed and is not the one at its
front. -/
def Spares (link : LinkId) (front : Vehicle Rat) (happening : Happening) : Prop :=
  happening.leaves? = some link → happening.agent ≠ front.agent ∧ happening.movesOn = false

theorem spares_of_departure? (due : happening.departure? ≠ none) :
    happening.Spares link front := by
  intro leaves
  cases happening <;> simp [leaves?, departure?] at due leaves

theorem spares_of_events {now : Tick}
    (quiet : ∀ event ∈ happening.events now, event.link = link →
      event.kind ≠ .linkLeft ∧ (event.kind = .stuck → event.agent ≠ front.agent)) :
    happening.Spares link front := by
  intro leaves
  cases happening with
  | transferred | arrived =>
      cases leaves
      exact absurd rfl (quiet _ List.mem_cons_self rfl).1
  | removed =>
      cases leaves
      exact ⟨(quiet _ List.mem_cons_self rfl).2 rfl, rfl⟩
  | _ => cases leaves

end Happening

namespace LinkQueue.Saves

variable {queue queue' : LinkQueue Rat} {front : Vehicle Rat} {tick now : Tick} {saved : Rat}
  {link : LinkId} {happening : Happening} {traffic : Traffic Rat}

theorem loses (saves : queue.Saves front tick saved) (loses : queue.Loses link happening queue')
    (spares : happening.Spares link front) : queue'.Saves front tick saved := by
  cases loses with
  | same => exact saves
  | left leaves aboard =>
      obtain ⟨apart, stays⟩ := spares leaves
      have own := List.find?_some aboard
      rw [beq_iff_eq] at own
      rw [stays]
      exact saves.releasing (own ▸ apart)

theorem admits (saves : queue.Saves front tick saved)
    (admits : queue.Admits link now happening traffic queue') (later : tick ≤ now) :
    queue'.Saves front tick saved := by
  cases admits with
  | same => exact saves
  | joined => exact saves.holding later ..

theorem notes (saves : queue.Saves front tick saved)
    (notes : queue.Notes link now happening queue') : queue'.Saves front tick saved := by
  cases notes with
  | same => exact saves
  | marked => exact saves.markBlocked ..

theorem turns {context : RouteContext} (saves : queue.Saves front tick saved)
    (turns : traffic.Turns context happening link queue queue') (later : tick ≤ context.now)
    (spares : happening.Spares link front) : queue'.Saves front tick saved := by
  obtain ⟨loses, admits, notes⟩ := turns
  exact ((saves.loses loses spares).admits admits later).notes notes

end LinkQueue.Saves

theorem Traffic.Steps.saves {table : ModeTable Rat} {context : RouteContext}
    {traffic traffic' : Traffic Rat} {happenings : List Happening} {link : LinkId}
    {front : Vehicle Rat} {tick : Tick} {saved : Rat} {queue : LinkQueue Rat}
    (steps : Steps table context traffic happenings traffic') (labelled : traffic.roads.Labelled)
    (present : traffic.roads.queue? link = some queue) (saves : queue.Saves front tick saved)
    (later : tick ≤ context.now)
    (spares : ∀ happening ∈ happenings, happening.Spares link front) :
    ∃ queue', traffic'.roads.queue? link = some queue' ∧ queue'.Saves front tick saved := by
  induction steps generalizing queue with
  | nil => exact ⟨queue, present, saves⟩
  | cons step _ ih =>
      obtain ⟨first, others⟩ := List.forall_mem_cons.mp spares
      obtain ⟨between, found, turns⟩ := step.turns labelled present
      exact ih (step.labelled labelled) found (saves.turns turns later first) others

/-- That whoever leaves a link in an interval is removed, and is not the one at its front. -/
def Interval.Keeps (interval : Interval Rat) (link : LinkId) (front : Vehicle Rat) : Prop :=
  ∀ event ∈ interval.events.toList, event.link = link →
    event.kind ≠ .linkLeft ∧ (event.kind = .stuck → event.agent ≠ front.agent)

theorem Course.Follows.carries {α : Type} [Quantity α] {course : Course α} {world : World α}
    {flowPermanent : Bool} (follows : course.Follows world flowPermanent) :
    world.Carries flowPermanent course.orders [] course.final :=
  ⟨_, _, _, _, follows.changed,
    Traffic.departAll_eq_ok.mpr ⟨follows.due, _, follows.named, follows.departed⟩,
    follows.decided, (List.append_nil _).symm, follows.committed⟩

namespace World

variable {world world' : World Rat} {first : Network Rat} {table : ModeTable Rat} {secs : Nat}
  {pcuOf : AgentId → Rat} {link : LinkId} {front : Vehicle Rat} {tick : Tick} {saved : Rat}
  {queue : LinkQueue Rat} {flowPermanent : Bool}

theorem Measured.saves_changed (measured : world.Measured table secs pcuOf)
    (charted : world.Charted first secs) (made : world.applyChanges = .ok world')
    (present : world.roads.queue? link = some queue) (saves : queue.Saves front tick saved)
    (fits : front.pcu ≤ table.maxPcu) :
    ∃ queue', world'.roads.queue? link = some queue' ∧ queue'.Saves front tick saved := by
  have kept := foldlM_applyChange_preserves
    (fun network roads => roads.Mirrors secs network ∧ roads.Metered network table secs ∧
      ∃ queue', roads.queue? link = some queue' ∧ queue'.Saves front tick saved)
    (by
      rintro network roads change network' - ⟨mirrors, metered, queue, present, saves⟩ applied
      rw [measured.rated]
      refine ⟨mirrors.refresh applied table, (metered.refresh mirrors applied).1, ?_⟩
      obtain ⟨old, revised, opened, -, positive, queues⟩ :=
        metered.exists_refreshed mirrors applied
      rw [queues]
      split
      next own =>
        cases opened.symm.trans (own ▸ present)
        exact ⟨_, rfl, saves.refresh fits (Link.flowBudget_nonneg positive)⟩
      next => exact ⟨queue, present, saves⟩)
    ⟨charted.mirrors, measured.metered, queue, present, saves⟩ made
  exact kept.2.2

/-- In an interval, a link saves what it gains at its beginning. -/
theorem Carries.saves {done later : List Happening} {traffic : Traffic Rat}
    (carries : world.Carries flowPermanent done later traffic)
    (measured : world.Measured table secs pcuOf) (regular : world.Regular first secs)
    (present : world.roads.queue? link = some queue) (saves : queue.Saves front tick saved)
    (fits : front.pcu ≤ table.maxPcu) (past : tick ≤ world.clock.now)
    (spares : ∀ happening ∈ done, happening.Spares link front) :
    ∃ queue', traffic.roads.queue? link = some queue' ∧
      queue'.Saves front tick (saved + queue'.flowBudget) := by
  obtain ⟨changed, outcomes, midway, decisions, made, departed, -, -, steps⟩ := carries
  obtain ⟨-, departures, named, departing⟩ := Traffic.departAll_eq_ok.mp departed
  have revises := applyChanges_revises made
  rw [revises.table.trans measured.rated] at departing steps
  obtain ⟨before, found, kept⟩ :=
    measured.saves_changed regular.charted made present saves fits
  have opened : changed.refilled.roads.queue? link = some before.refill :=
    Roads.queue?_refill found
  have placed := regular.placed.traffic.of_perm (.refl _) (refilled_like made)
    revises.population
  have all := departing.append steps
  have now : tick ≤ (changed.context flowPermanent).now :=
    past.trans_eq (congrArg Clock.now revises.clock).symm
  have spared : ∀ happening ∈ departures ++ done, happening.Spares link front := by
    refine List.forall_mem_append.mpr ⟨fun happening due => ?_, spares⟩
    exact Happening.spares_of_departure? (Happening.departure?_ne_none named happening due)
  obtain ⟨queue', final, result⟩ := all.saves placed.labelled opened kept.refill now spared
  obtain ⟨again, final', gives⟩ := all.gives placed (measured.refilled made) opened
  cases final.symm.trans final'
  refine ⟨queue', final, ?_⟩
  rw [gives.flowBudget]
  exact result

theorem Run.now_le {history : List (Interval Rat)} (run : World.Run world history world') :
    world.clock.now ≤ world'.clock.now := by
  rw [run.clock]
  exact Nat.le_add_right ..

theorem Run.saves {history : List (Interval Rat)} (run : World.Run world history world')
    (measured : world.Measured table secs pcuOf) (regular : world.Regular first secs)
    (sound : first.Sound) (present : world.roads.queue? link = some queue)
    (saves : queue.Saves front tick saved) (fits : front.pcu ≤ table.maxPcu)
    (past : tick ≤ world.clock.now) (keeps : ∀ interval ∈ history, interval.Keeps link front) :
    ∃ queue', world'.roads.queue? link = some queue' ∧
      queue'.Saves front tick (saved + (history.map (·.flowBudget link)).sum) := by
  induction run with
  | start => exact ⟨queue, present, by simpa using saves⟩
  | @step history middle flowPermanent interval before simulated ih =>
      obtain ⟨earlier, own⟩ := List.forall_mem_append.mp keeps
      obtain ⟨between, found, kept⟩ := ih earlier
      obtain ⟨course, follows, rfl⟩ := World.interval_eq_ok.mp simulated
      have spares : ∀ happening ∈ course.orders, happening.Spares link front := by
        intro happening ordered
        refine Happening.spares_of_events fun event
          (heard : event ∈ happening.events course.changed.clock.now) => ?_
        refine own _ (List.mem_singleton_self _) event ?_
        rw [follows.events, Course.happenings]
        exact List.mem_flatMap.mpr ⟨happening, List.mem_append_right _ ordered, heard⟩
      obtain ⟨queue', final, result⟩ := follows.carries.saves (measured.run regular sound before)
        (regular.run before) found kept fits (past.trans before.now_le) spares
      have gained : course.interval.flowBudget link = queue'.flowBudget := by
        have here : course.interval.world.roads.queue? link = some queue' := final
        rw [Interval.flowBudget, here]
        rfl
      refine ⟨queue', final, ?_⟩
      rw [List.map_append, List.sum_append, List.map_singleton, List.sum_singleton, gained,
        ← add_assoc]
      exact result

end World

/-- At every moment of every run, each link is accounted for and holds the largest vehicle. -/
theorem Sim.Run.accounted_of_moment {σ : Type} {setup : SimSetup Rat σ} {start sim : Sim Rat σ}
    {history : List (Interval Rat)} (built : setup.build = .ok start)
    (run : Sim.Run start history sim) {roads : Roads Rat}
    (moment : sim.world.Moment sim.flowPermanent roads) {link : LinkId} {queue : LinkQueue Rat}
    (present : roads.queue? link = some queue) :
    queue.Accounted roads.seeps ∧ setup.table.maxPcu ≤ queue.storage := by
  obtain ⟨opened, made, world⟩ := (SimSetup.build_eq_ok built).world
  have enduring := Roads.Accounted.enduring.and (Enduring.sites opened)
  have initial : start.world.roads.Accounted ∧ start.world.roads.sites = opened.sites := by
    rw [world]
    exact ⟨Roads.accounted_ofNetwork made, rfl⟩
  obtain ⟨accounted, sites⟩ := enduring.moment (enduring.run initial run.world) moment
  obtain ⟨first, opening, site⟩ := Roads.site_eq_of_sites sites present
  rw [Roads.queue?_of_ofNetwork made, Option.map_eq_some_iff] at opening
  obtain ⟨attributes, -, rfl⟩ := opening
  have storage : queue.storage =
      Quantity.larger (attributes.storageFor setup.dynamics.cell) setup.table.maxPcu :=
    congrArg Site.storage site
  exact ⟨accounted link queue present, storage ▸ Quantity.le_larger_right ..⟩

/-- No vehicle is too large to move, however small its link is. At every moment of every run, an
empty link admits a vehicle of any mode to its regular storage. Where the vehicle at the front is
ready, it comes first among those that could leave as soon as the link has gained what the vehicle
counts for, whatever is done with the link in between, unless someone moves on from it or its
capacity changes. In the run itself the capacity may change as well. -/
theorem Sim.Run.nobody_too_large {σ : Type} {setup : SimSetup Rat σ} {start sim : Sim Rat σ}
    {history : List (Interval Rat)} {plan : NetworkDraft Rat} {draft : PopulationDraft}
    {table : ModeTable Rat} (connected : plan.build = .ok setup.network)
    (drafted : draft.Drafted) (populated : draft.build table = .ok setup.population)
    (built : setup.build = .ok start) (run : Sim.Run start history sim) (link : LinkId) :
    (∀ roads queue, sim.world.Instant sim.flowPermanent roads → roads.queue? link = some queue →
      (queue.vehicles = [] → ∀ vehicle : Vehicle Rat, vehicle.IsOf setup.table →
        ∀ now maySeep, queue.accept vehicle now maySeep =
          .ok (now + queue.travelTicks vehicle.maxSpeed,
            queue.holding (queue.stamped vehicle now false))) ∧
      ∀ front behind tick, queue.vehicles = front :: behind → front.exitTick ≤ tick →
        (∃ refills : Nat, front.pcu ≤ refills * queue.flowBudget) ∧
        ∀ uses : List (LinkQueue.Use Rat),
          (∀ use ∈ uses, use.Spares queue setup.table front tick) →
          front.pcu ≤ uses.countP (·.isRefill) * queue.flowBudget →
          ∀ now, tick ≤ now →
            ∃ others, (Ledger.after { queue } uses).queue.ready now = front.agent :: others) ∧
    ∀ later last queue front behind, Sim.Run sim later last →
      sim.world.roads.queue? link = some queue → queue.vehicles = front :: behind →
      front.exitTick ≤ sim.now → (∀ interval ∈ later, interval.Keeps link front) →
      ∀ orders traffic, last.world.Carries last.flowPermanent [] orders traffic →
        ∃ queue', traffic.roads.queue? link = some queue' ∧
          (front.pcu ≤ (later.map (·.flowBudget link)).sum + queue'.flowBudget →
            ∃ others, queue'.ready last.now = front.agent :: others) := by
  have sound := Network.sound_of_build connected
  have fresh := drafted.fresh_of_build populated
  have regular := (World.Regular.of_build built fresh).run run.world
  have measured :=
    (World.Measured.of_build connected built).run (.of_build built fresh) sound run.world
  have lasts := RunConfig.tickSecs_pos (SimSetup.build_eq_ok built).config
  constructor
  · intro roads queue instant present
    have solvent := instant.solvent measured regular sound lasts present
    refine ⟨fun empty vehicle typed now maySeep => ?_, fun front behind tick leads ready => ?_⟩
    · obtain ⟨accounted, storage⟩ := run.accounted_of_moment built instant.moment present
      exact accounted.accept_of_empty empty storage typed now maySeep
    · obtain ⟨refills, enough⟩ := exists_nat_ge (front.pcu / queue.flowBudget)
      refine ⟨⟨refills, (div_le_iff₀ solvent.budget).mp enough⟩, ?_⟩
      intro uses spares enough now later
      have saves : (Ledger.after { queue } uses).queue.Saves front tick
          (0 + uses.countP (·.isRefill) * queue.flowBudget) :=
        Ledger.saves_after (.of_solvent solvent leads ready)
          (solvent.fits front (leads ▸ List.mem_cons_self)) ⟨rfl, rfl⟩ spares
      rw [zero_add] at saves
      exact saves.carries enough later
  · intro later last queue front behind window present leads ready keeps orders traffic carries
    have instant : sim.world.Instant sim.flowPermanent sim.world.roads :=
      .changing (List.nil_append _).symm rfl
    have solvent := instant.solvent measured regular sound lasts present
    have fits := solvent.fits front (leads ▸ List.mem_cons_self)
    obtain ⟨between, found, kept⟩ := window.world.saves measured regular sound present
      (.of_solvent solvent leads ready) fits le_rfl keeps
    have past : sim.now ≤ last.now := window.world.now_le
    obtain ⟨queue', final, saves⟩ := carries.saves (measured.run regular sound window.world)
      (regular.run window.world) found kept fits past (List.forall_mem_nil _)
    refine ⟨queue', final, fun enough => saves.carries ?_ past⟩
    rwa [zero_add]

namespace Bottleneck

/-- The way out is shorter than a vehicle and gains half a wide one in an interval. -/
def strait : NetworkDraft Rat :=
  { draft with
    links := #[{ link "out" 1 0 (1 / 10) with flowCapacity := 3600 }, link "in" 2 1 10] }

/-- The second of two wide vehicles waits for an interval at the front of a link that the first one
has left dry. -/
theorem nobody_too_large_of_two :
    ∃ network population start sim history opened queue front one last orders traffic midway,
      strait.build = .ok network ∧
      (crowd [(wide, 0, [exit]), (wide, 0, [exit])]).build table = .ok population ∧
      (setup network population).build = .ok start ∧ Sim.Run start history sim ∧
      start.world.roads.queue? exit = some opened ∧ opened.vehicles = [] ∧
      (∀ vehicle : Vehicle Rat, vehicle.IsOf table → opened.accept vehicle 0 false =
        .ok (opened.travelTicks vehicle.maxSpeed,
          opened.holding (opened.stamped vehicle 0 false))) ∧
      sim.world.roads.queue? exit = some queue ∧ queue.vehicles.head? = some front ∧ front.pcu = 2 ∧
      queue.flowBudget = 1 ∧ queue.ready 2 = [] ∧
      (∃ others, (Ledger.after { queue } [.refill, .markBlocked ⟨1⟩ 3, .refill]).queue.ready 3 =
        front.agent :: others) ∧
      Sim.Run sim [one] last ∧ last.world.Carries last.flowPermanent [] orders traffic ∧
      traffic.roads.queue? exit = some midway ∧
      ∃ others, midway.ready last.now = front.agent :: others := by
  have ran : drive? strait [(wide, 0, [exit]), (wide, 0, [exit])] setup 2 (fun _ _ start sim =>
        (start.world.roads.queue? exit).bind fun (opened : LinkQueue Rat) =>
        (sim.world.roads.queue? exit).bind fun (queue : LinkQueue Rat) =>
        queue.vehicles.head?.bind fun (front : Vehicle Rat) =>
        (sim.world.interval sim.flowPermanent).toOption.bind fun (one : Interval Rat) =>
        (sim.step {}).toOption.bind fun (stop, last) =>
        last.world.applyChanges.toOption.bind fun (changed : World Rat) =>
        (changed.refilled.departAll changed.table (changed.context last.flowPermanent)
          (changed.departures.drain changed.clock.now).1).toOption.bind fun (outcomes, traffic) =>
        (World.decideAll changed.network (changed.context last.flowPermanent)
          traffic).toOption.bind fun (decisions : List NodeDecision) =>
        (traffic.roads.queue? exit).map fun (midway : LinkQueue Rat) =>
          (opened.vehicles.isEmpty && (queue.ready 2).isEmpty && one.events.isEmpty,
            [front.exitTick, sim.now],
            [front.pcu, queue.flowBudget, one.flowBudget exit, midway.flowBudget])) =
      some (true, [1, 2], [2, 1, 1, 1]) := by decide +kernel
  obtain ⟨network, population, start, sim, history, connected, populated, built, -, run, seen⟩ :=
    exists_of_drive? ran
  simp only [Option.bind_eq_some_iff, Option.map_eq_some_iff, Attempt.toOption_eq_some,
    Prod.mk.injEq, Prod.exists, List.cons.injEq, and_true, Bool.and_eq_true,
    List.isEmpty_iff, Array.isEmpty_iff] at seen
  obtain ⟨opened, empty, queue, present, front, leads, one, simulated, stop, last, stepped,
    changed, made, outcomes, traffic, departed, decisions, decided, midway, deciding,
    ⟨⟨nobody, dry⟩, silent⟩, ⟨ready, now⟩, large, budget, gained, gains⟩ := seen
  have window : Sim.Run sim [one] last := Sim.Run.start.step simulated stepped
  have carries : last.world.Carries last.flowPermanent [] (decisions.flatMap (·.orders)) traffic :=
    ⟨changed, outcomes, traffic, decisions, made, departed, decided, rfl, .nil⟩
  obtain ⟨behind, line⟩ := List.head?_eq_some_iff.mp leads
  obtain ⟨starting, -⟩ :=
    Sim.Run.nobody_too_large connected (crowd_drafted _) populated built .start exit
  obtain ⟨waiting, running⟩ :=
    Sim.Run.nobody_too_large connected (crowd_drafted _) populated built run exit
  obtain ⟨admits, -⟩ := starting _ opened (.changing (List.nil_append _).symm rfl) empty
  obtain ⟨-, leaves⟩ := waiting _ queue (.changing (List.nil_append _).symm rfl) present
  obtain ⟨-, carried⟩ := leaves front behind 2 line (ready.trans_le (by decide))
  refine ⟨network, population, start, sim, history, opened, queue, front, one, last, _, traffic,
    midway, connected, populated, built, run, empty, nobody, ?_, present, leads,
    large, budget, dry, ?_, window, carries, deciding, ?_⟩
  · intro vehicle typed
    simpa using admits nobody vehicle typed 0 false
  · refine carried _ ?_ ?_ 3 (by decide)
    · simp [LinkQueue.Use.Spares]
    · norm_num [LinkQueue.Use.isRefill, large, budget]
  · have keeps : ∀ interval ∈ [one], interval.Keeps exit front := by
      simp [Interval.Keeps, silent]
    obtain ⟨queue', final, front'⟩ := running [one] last queue front behind window present line
      (ready.trans_le (now ▸ by decide)) keeps _ traffic carries
    cases deciding.symm.trans final
    exact front' (by norm_num [large, gained, gains])

end Bottleneck

end MixedTraffic
