import Mathlib.Tactic.Ring
import MixedTraffic.Proofs.Road.Ledger
import MixedTraffic.Proofs.Road.Meter

namespace MixedTraffic

/-! Nobody is too large for a link. An empty one has room for everybody, and while the vehicle at
the front waits for flow, its link saves up what carries it. -/

namespace LinkQueue

variable {queue : LinkQueue Rat} {table : ModeTable Rat} {front vehicle : Vehicle Rat}
  {tick now : Tick} {saved : Rat}

/-- That a queue gains as much in an interval as another, in intervals of the same length. -/
def Steady (queue' queue : LinkQueue Rat) : Prop :=
  queue'.flowBudget = queue.flowBudget ∧ queue'.tickSecs = queue.tickSecs

/-- That a link may let out any of its vehicles in time: it gains flow up to at least the largest
vehicle, and owes no more than one slack. -/
structure Solvent (queue : LinkQueue Rat) (table : ModeTable Rat) : Prop where
  budget : 0 < queue.flowBudget
  ceiling : table.maxPcu ≤ queue.flowCeiling
  lower : -Quantity.slack ≤ queue.accumulator
  fits : ∀ vehicle ∈ queue.vehicles, vehicle.pcu ≤ table.maxPcu

theorem Metered.solvent {attributes : Link Rat} {secs : Nat}
    (metered : queue.Metered attributes table secs) (positive : 0 < attributes.flowCapacity)
    (lasts : 0 < secs) (fits : ∀ vehicle ∈ queue.vehicles, vehicle.pcu ≤ table.maxPcu) :
    queue.Solvent table where
  budget := by
    rw [metered.budget]
    exact div_pos (mul_pos positive (Nat.cast_pos.mpr lasts)) (by norm_num)
  ceiling := metered.ceiling ▸ le_max_right ..
  lower := metered.lower
  fits := fits

theorem ready_cons {behind : List (Vehicle Rat)} (leads : queue.vehicles = front :: behind)
    (ready : front.exitTick ≤ now) (carried : front.pcu ≤ queue.accumulator + Quantity.slack) :
    ∃ others, queue.ready now = front.agent :: others := by
  rw [LinkQueue.ready, leads, readyAgents, if_pos ⟨ready, carried⟩]
  exact ⟨_, rfl⟩

/-- That a vehicle stands ready at the front of a link which has saved so much of what carries
it, up to one slack. -/
structure Saves (queue : LinkQueue Rat) (front : Vehicle Rat) (tick : Tick) (saved : Rat) :
    Prop where
  leads : ∃ behind, queue.vehicles = front :: behind
  ready : front.exitTick ≤ tick
  budget : 0 ≤ queue.flowBudget
  ceiling : front.pcu ≤ queue.flowCeiling
  saved : min saved front.pcu ≤ queue.accumulator + Quantity.slack

namespace Saves

theorem of_solvent {behind : List (Vehicle Rat)} (solvent : queue.Solvent table)
    (leads : queue.vehicles = front :: behind) (ready : front.exitTick ≤ tick) :
    queue.Saves front tick 0 where
  leads := ⟨behind, leads⟩
  ready := ready
  budget := solvent.budget.le
  ceiling := (solvent.fits front (leads ▸ List.mem_cons_self)).trans solvent.ceiling
  saved := (min_le_left ..).trans (neg_le_iff_add_nonneg.mp solvent.lower)

variable (saves : queue.Saves front tick saved)

include saves

theorem carries (enough : front.pcu ≤ saved) (later : tick ≤ now) :
    ∃ others, queue.ready now = front.agent :: others := by
  obtain ⟨behind, leads⟩ := saves.leads
  refine ready_cons leads (saves.ready.trans later) ?_
  rw [← min_eq_right enough]
  exact saves.saved

/-- A new interval adds the budget. What the ceiling cuts off is not needed. -/
theorem refill : queue.refill.Saves front tick (saved + queue.flowBudget) where
  leads := saves.leads
  ready := saves.ready
  budget := saves.budget
  ceiling := saves.ceiling
  saved := by
    have accumulator : queue.refill.accumulator =
        min (queue.accumulator + queue.flowBudget) queue.flowCeiling :=
      Quantity.smaller_eq_min ..
    rw [accumulator, ← min_add_add_right]
    refine le_min ?_ ?_
    · calc
        min (saved + queue.flowBudget) front.pcu
        _ ≤ min (saved + queue.flowBudget) (front.pcu + queue.flowBudget) :=
          min_le_min_left _ (le_add_of_nonneg_right saves.budget)
        _ = min saved front.pcu + queue.flowBudget := min_add_add_right ..
        _ ≤ queue.accumulator + queue.flowBudget + Quantity.slack := by linarith [saves.saved]
    · calc
        min (saved + queue.flowBudget) front.pcu
        _ ≤ queue.flowCeiling := (min_le_right ..).trans saves.ceiling
        _ ≤ queue.flowCeiling + Quantity.slack := le_add_of_nonneg_right Quantity.slack_pos.le

/-- A changed capacity may lower the ceiling, but never below the largest vehicle. -/
theorem refresh {attributes : Link Rat} (fits : front.pcu ≤ table.maxPcu)
    (nonneg : 0 ≤ attributes.flowBudget queue.tickSecs) :
    (queue.refresh attributes table).Saves front tick saved := by
  have ceiling : (queue.refresh attributes table).flowCeiling =
      attributes.flowCeiling table queue.tickSecs := Quantity.larger_eq_max ..
  have fits : front.pcu ≤ (queue.refresh attributes table).flowCeiling :=
    ceiling ▸ fits.trans (le_max_right ..)
  refine ⟨saves.leads, saves.ready, nonneg, fits, ?_⟩
  have accumulator : (queue.refresh attributes table).accumulator =
      min queue.accumulator (queue.refresh attributes table).flowCeiling :=
    Quantity.smaller_eq_min ..
  rw [accumulator, ← min_add_add_right]
  refine le_min saves.saved ?_
  exact ((min_le_right ..).trans fits).trans (le_add_of_nonneg_right Quantity.slack_pos.le)

/-- Whoever comes now may leave only later, and gets its place behind. -/
theorem holding (later : tick ≤ now) (vehicle : Vehicle Rat) (seeping : Bool) :
    (queue.holding (queue.stamped vehicle now seeping)).Saves front tick saved := by
  refine ⟨?_, saves.ready, saves.budget, saves.ceiling, saves.saved⟩
  obtain ⟨behind, leads⟩ := saves.leads
  change ∃ others, queue.place (queue.stamped vehicle now seeping) = front :: others
  rw [place, leads]
  split
  · have sooner : front.exitTick < (queue.stamped vehicle now seeping).exitTick :=
      (saves.ready.trans later).trans_lt (queue.lt_exitTick_stamped vehicle now seeping)
    have ahead : front.isAhead (queue.stamped vehicle now seeping) = true := by
      simp [Vehicle.isAhead, sooner]
    rw [List.takeWhile_cons, if_pos ahead]
    exact ⟨_, rfl⟩
  · exact ⟨_, rfl⟩

theorem releasing (apart : vehicle.agent ≠ front.agent) :
    (queue.releasing vehicle false).Saves front tick saved := by
  refine ⟨?_, saves.ready, saves.budget, saves.ceiling, saves.saved⟩
  obtain ⟨behind, leads⟩ := saves.leads
  change ∃ others, queue.vehicles.eraseP (·.agent == vehicle.agent) = front :: others
  rw [leads, List.eraseP_cons_of_neg (by simpa using apart.symm)]
  exact ⟨_, rfl⟩

theorem charged (occupied seepOccupied : Rat) :
    Saves { queue with occupied, seepOccupied } front tick saved :=
  ⟨saves.leads, saves.ready, saves.budget, saves.ceiling, saves.saved⟩

theorem markBlocked (agent : AgentId) (now : Tick) :
    (queue.markBlocked agent now).Saves front tick saved := by
  obtain ⟨blocked, same⟩ := queue.exists_markBlocked agent now
  rw [same]
  exact ⟨saves.leads, saves.ready, saves.budget, saves.ceiling, saves.saved⟩

end Saves

namespace Use

def isRefill : Use Rat → Bool
  | refill => true
  | _ => false

/-- That a use comes no sooner than a tick, leaves a link the flow that it gains in an interval,
and takes nobody off it but an agent who is removed and is not the one at the front. -/
def Spares (queue : LinkQueue Rat) (table : ModeTable Rat) (front : Vehicle Rat) (tick : Tick) :
    Use Rat → Prop
  | accept _ now _ => tick ≤ now
  | take agent movesOn => agent ≠ front.agent ∧ movesOn = false
  | refresh attributes others =>
      others = table ∧ attributes.flowBudget queue.tickSecs = queue.flowBudget
  | refill | markBlocked .. => True

end Use

end LinkQueue

namespace Ledger

variable {ledger : Ledger Rat} {queue : LinkQueue Rat} {table : ModeTable Rat}
  {front : Vehicle Rat} {tick : Tick} {saved : Rat}

theorem saves_serve (saves : ledger.queue.Saves front tick saved)
    (fits : front.pcu ≤ table.maxPcu) (steady : ledger.queue.Steady queue)
    {use : LinkQueue.Use Rat} (spares : use.Spares queue table front tick) :
    (ledger.serve use).queue.Saves front tick
        (saved + if use.isRefill then queue.flowBudget else 0) ∧
      (ledger.serve use).queue.Steady queue := by
  cases use with
  | refill =>
      refine ⟨?_, steady⟩
      have refilled := saves.refill
      rwa [steady.1] at refilled
  | accept vehicle now maySeep =>
      simp only [LinkQueue.Use.isRefill, Bool.false_eq_true, if_false, add_zero, serve]
      split
      next accepted =>
        obtain ⟨seeping, room, -, -, -, rfl⟩ := LinkQueue.accept_eq_ok.mp accepted
        exact ⟨saves.holding spares vehicle seeping, steady⟩
      next failed =>
        obtain ⟨occupied, seepOccupied, same⟩ := LinkQueue.exists_of_accept_error failed
        rw [same]
        exact ⟨saves.charged occupied seepOccupied, steady⟩
  | take agent movesOn =>
      obtain ⟨apart, rfl⟩ := spares
      simp only [LinkQueue.Use.isRefill, Bool.false_eq_true, if_false, add_zero, serve]
      split
      next vehicle left removed =>
        obtain ⟨found, rfl⟩ := LinkQueue.take_eq_ok.mp removed
        have own : vehicle.agent = agent := by simpa using List.find?_some found
        exact ⟨saves.releasing (own ▸ apart), steady⟩
      next failed =>
        obtain ⟨-, rfl⟩ := LinkQueue.take_eq_error.mp failed
        exact ⟨saves, steady⟩
  | refresh attributes others =>
      obtain ⟨rfl, same⟩ := spares
      rw [← steady.1, ← steady.2] at same
      simp only [LinkQueue.Use.isRefill, Bool.false_eq_true, if_false, add_zero, serve]
      exact ⟨saves.refresh fits (same ▸ saves.budget), same.trans steady.1, steady.2⟩
  | markBlocked agent now =>
      obtain ⟨blocked, same⟩ := ledger.queue.exists_markBlocked agent now
      have marked := saves.markBlocked agent now
      simp only [LinkQueue.Use.isRefill, Bool.false_eq_true, if_false, add_zero, serve]
      refine ⟨marked, ?_⟩
      rw [same]
      exact steady

theorem saves_after (saves : ledger.queue.Saves front tick saved)
    (fits : front.pcu ≤ table.maxPcu) (steady : ledger.queue.Steady queue)
    {uses : List (LinkQueue.Use Rat)} (spares : ∀ use ∈ uses, use.Spares queue table front tick) :
    (ledger.after uses).queue.Saves front tick
      (saved + uses.countP (·.isRefill) * queue.flowBudget) := by
  induction uses generalizing ledger saved with
  | nil => simpa [after] using saves
  | cons use rest ih =>
      obtain ⟨first, others⟩ := List.forall_mem_cons.mp spares
      obtain ⟨served, steady⟩ := saves_serve saves fits steady first
      have count : saved + (if use.isRefill then queue.flowBudget else 0) +
          rest.countP (·.isRefill) * queue.flowBudget =
            saved + (use :: rest).countP (·.isRefill) * queue.flowBudget := by
        rw [List.countP_cons]
        split <;> push_cast <;> ring
      rw [← count]
      exact ih served steady others

end Ledger

namespace LinkQueue

variable {queue : LinkQueue Rat} {table : ModeTable Rat} {vehicle : Vehicle Rat}

/-- An empty link whose storage holds the largest vehicle admits any to the regular pool. -/
theorem Accounted.accept_of_empty {seeps : ModeId → Bool} (accounted : queue.Accounted seeps)
    (empty : queue.vehicles = []) (storage : table.maxPcu ≤ queue.storage)
    (typed : vehicle.IsOf table) (now : Tick) (maySeep : Bool) :
    queue.accept vehicle now maySeep = .ok (now + queue.travelTicks vehicle.maxSpeed,
      queue.holding (queue.stamped vehicle now false)) := by
  obtain ⟨type, listed, pcu, -⟩ := typed
  have occupied : queue.occupied = 0 := by
    rw [accounted.occupied, empty]
    rfl
  have fits : vehicle.pcu ≤ queue.room.regular + Quantity.slack := by
    have small : vehicle.pcu ≤ queue.storage := pcu ▸ (ModeTable.pcu_le_maxPcu listed).trans storage
    rw [room, occupied, sub_zero]
    exact small.trans (le_add_of_nonneg_right Quantity.slack_pos.le)
  exact accept_eq_ok.mpr ⟨false, _, Room.take?_eq_some.mpr (.inl ⟨rfl, fits, rfl⟩),
    dates_rat .., rfl, rfl⟩

end LinkQueue

end MixedTraffic
