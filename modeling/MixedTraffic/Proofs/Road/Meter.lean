import MixedTraffic.Proofs.Road.Mirror
import MixedTraffic.Proofs.Road.Service
import MixedTraffic.Proofs.Road.Storage

namespace MixedTraffic

/-! The flow accumulator of a link in exact amounts. It never exceeds its ceiling, and a
service draws no more from it than it holds, up to one slack. -/

theorem Quantity.smaller_eq_min (x y : Rat) : smaller x y = min x y := by
  rw [min_def]
  rfl

namespace Link

def flowBudget (attributes : Link Rat) (secs : Nat) : Rat :=
  attributes.flowCapacity * secs / 3600

def flowCeiling (attributes : Link Rat) (table : ModeTable Rat) (secs : Nat) : Rat :=
  max (attributes.flowBudget secs) table.maxPcu

variable {attributes : Link Rat} {secs : Nat}

theorem flowBudget_nonneg (positive : 0 < attributes.flowCapacity) :
    0 ≤ attributes.flowBudget secs :=
  div_nonneg (mul_nonneg positive.le (Nat.cast_nonneg secs)) (by norm_num)

theorem flowCeiling_nonneg (attributes : Link Rat) (table : ModeTable Rat) (secs : Nat) :
    0 ≤ attributes.flowCeiling table secs :=
  table.maxPcu_nonneg.trans (le_max_right ..)

end Link

namespace LinkQueue

/-- That a queue is metered as the attributes of its link say. -/
structure Metered (queue : LinkQueue Rat) (attributes : Link Rat) (table : ModeTable Rat)
    (secs : Nat) : Prop where
  tickSecs : queue.tickSecs = secs
  budget : queue.flowBudget = attributes.flowBudget secs
  ceiling : queue.flowCeiling = attributes.flowCeiling table secs
  lower : -Quantity.slack ≤ queue.accumulator
  upper : queue.accumulator ≤ attributes.flowCeiling table secs

variable {queue : LinkQueue Rat} {attributes attributes' : Link Rat} {table : ModeTable Rat}
  {secs : Nat}

theorem metered_setFlow (attributes : Link Rat) (table : ModeTable Rat)
    (tickSecs : queue.tickSecs = secs) (lower : -Quantity.slack ≤ queue.accumulator) :
    (queue.setFlow attributes.flowCapacity table.maxPcu).Metered attributes table secs := by
  subst tickSecs
  have ceiling : (queue.setFlow attributes.flowCapacity table.maxPcu).flowCeiling =
      attributes.flowCeiling table queue.tickSecs := Quantity.larger_eq_max ..
  have accumulator : (queue.setFlow attributes.flowCapacity table.maxPcu).accumulator =
      min queue.accumulator (attributes.flowCeiling table queue.tickSecs) := by
    rw [← ceiling, ← Quantity.smaller_eq_min]
    rfl
  refine ⟨rfl, rfl, ceiling, ?_, ?_⟩ <;> rw [accumulator]
  · refine le_min lower ?_
    exact (neg_nonpos.mpr Quantity.slack_pos.le).trans (attributes.flowCeiling_nonneg ..)
  · exact min_le_right ..

theorem metered_ofLink (key : LinkId) (attributes : Link Rat) (dynamics : Dynamics Rat)
    (table : ModeTable Rat) (secs : Nat) :
    (ofLink key attributes dynamics table secs).Metered attributes table secs := by
  have ceiling : (ofLink key attributes dynamics table secs).flowCeiling =
      attributes.flowCeiling table secs := Quantity.larger_eq_max ..
  have full : (ofLink key attributes dynamics table secs).accumulator =
      attributes.flowCeiling table secs := ceiling
  refine ⟨rfl, rfl, ceiling, ?_, full.le⟩
  rw [full]
  exact (neg_nonpos.mpr Quantity.slack_pos.le).trans (attributes.flowCeiling_nonneg ..)

namespace Metered

theorem refresh (metered : queue.Metered attributes table secs) (attributes' : Link Rat) :
    (queue.refresh attributes' table).Metered attributes' table secs :=
  @metered_setFlow { queue with freeSpeed := attributes'.freeSpeed } secs attributes' table
    metered.tickSecs metered.lower

theorem refresh_le (queue : LinkQueue Rat) (attributes : Link Rat) (table : ModeTable Rat) :
    (queue.refresh attributes table).accumulator ≤ queue.accumulator := by
  simp only [LinkQueue.refresh, setFlow, Quantity.smaller_eq_min]
  exact min_le_left ..

theorem refill (metered : queue.Metered attributes table secs)
    (positive : 0 < attributes.flowCapacity) : queue.refill.Metered attributes table secs := by
  have accumulator : queue.refill.accumulator =
      min (queue.accumulator + queue.flowBudget) queue.flowCeiling :=
    Quantity.smaller_eq_min ..
  refine ⟨metered.tickSecs, metered.budget, metered.ceiling, ?_, ?_⟩ <;>
    rw [accumulator, metered.budget, metered.ceiling]
  · refine le_min ?_ ?_
    · exact metered.lower.trans (le_add_of_nonneg_right (Link.flowBudget_nonneg positive))
    · exact (neg_nonpos.mpr Quantity.slack_pos.le).trans (attributes.flowCeiling_nonneg ..)
  · exact min_le_right ..

theorem refill_le (metered : queue.Metered attributes table secs) :
    queue.refill.accumulator ≤ queue.accumulator + attributes.flowBudget secs := by
  rw [← metered.budget]
  exact (Quantity.smaller_eq_min ..).trans_le (min_le_left ..)

end Metered

end LinkQueue

namespace Roads

/-- That every link is metered as the network says. -/
def Metered (roads : Roads Rat) (network : Network Rat) (table : ModeTable Rat) (secs : Nat) :
    Prop :=
  ∀ link queue, roads.queue? link = some queue → ∃ attributes,
    network.link? link = some attributes ∧ 0 < attributes.flowCapacity ∧
      queue.Metered attributes table secs

variable {roads : Roads Rat} {network network' : Network Rat} {table : ModeTable Rat} {secs : Nat}

theorem metered_ofNetwork {dynamics : Dynamics Rat}
    (opened : ofNetwork network dynamics table secs = .ok roads)
    (positive : ∀ link attributes, network.link? link = some attributes →
      0 < attributes.flowCapacity) : roads.Metered network table secs := by
  intro link queue present
  rw [queue?_of_ofNetwork opened, Option.map_eq_some_iff] at present
  obtain ⟨attributes, found, rfl⟩ := present
  exact ⟨attributes, found, positive link attributes found, LinkQueue.metered_ofLink ..⟩

/-- What a change of the network makes of the links: the one that is changed gets another
positive capacity. -/
theorem Metered.exists_refreshed (metered : roads.Metered network table secs)
    (mirrors : roads.Mirrors secs network) {change : NetworkChange Rat}
    (applied : network.apply change = .ok network') :
    ∃ old attributes, roads.queue? change.link = some old ∧
      network'.link? change.link = some attributes ∧ 0 < attributes.flowCapacity ∧
      ∀ other, (roads.refresh change.link network' table).queue? other =
        if other = change.link then some (old.refresh attributes table)
        else roads.queue? other := by
  have links := Network.link?_apply applied
  obtain ⟨exists', -, flows⟩ := Network.check_eq_ok.mp (Network.apply_eq_ok.mp applied).1
  obtain ⟨old, present⟩ :=
    Option.isSome_iff_exists.mp ((mirrors.isSome_queue? change.link).trans exists')
  obtain ⟨attributes, found, positive, -⟩ := metered change.link old present
  have revised : network'.link? change.link = some (change.revise attributes) := by
    simp [links, found]
  refine ⟨old, _, present, revised, ?_, queue?_refresh present revised⟩
  change 0 < change.flowCapacity.getD attributes.flowCapacity
  cases given : change.flowCapacity with
  | none => exact positive
  | some value => exact Quantity.pos_of_isPositive (flows value given)

theorem Metered.refresh (metered : roads.Metered network table secs)
    (mirrors : roads.Mirrors secs network) {change : NetworkChange Rat}
    (applied : network.apply change = .ok network') :
    (roads.refresh change.link network' table).Metered network' table secs ∧
      ∀ link queue, roads.queue? link = some queue →
        ∃ queue', (roads.refresh change.link network' table).queue? link = some queue' ∧
          queue'.accumulator ≤ queue.accumulator := by
  have links := Network.link?_apply applied
  obtain ⟨old, revised, present, known, positive, queues⟩ :=
    metered.exists_refreshed mirrors applied
  constructor
  · intro link queue here
    rw [queues] at here
    split at here
    · rename_i own
      cases here
      obtain ⟨_, _, _, meter⟩ := metered change.link old present
      exact ⟨_, own ▸ known, positive, meter.refresh _⟩
    · rename_i other
      obtain ⟨attributes, known, positive, meter⟩ := metered link queue here
      exact ⟨attributes, by simp [links, known, other], positive, meter⟩
  · intro link queue here
    rw [queues]
    split
    · rename_i own
      cases present.symm.trans (own ▸ here)
      exact ⟨_, rfl, LinkQueue.Metered.refresh_le ..⟩
    · exact ⟨queue, here, le_rfl⟩

end Roads

namespace Network

theorem flowCapacity_pos_of_build {draft : NetworkDraft Rat} {network : Network Rat}
    (built : draft.build = .ok network) {key : LinkId} {attributes : Link Rat}
    (found : network.link? key = some attributes) : 0 < attributes.flowCapacity :=
  Quantity.pos_of_isPositive (isPositive_of_build built found
    ("flow capacity", attributes.flowCapacity) (by simp [NetworkDraft.attributes]))

end Network

namespace Roads

variable {roads : Roads Rat} {junction : Junction Rat} {queue : LinkQueue Rat}
  {accumulator : Rat} {held : Bool} {rooms rooms' : Rooms Rat} {vehicles : List (Vehicle Rat)}
  {plan : LinkPlan} {refused : List (Vehicle Rat)}

/-- The vehicles that a service lets move on draw no more than the accumulator holds, up to
one slack. -/
theorem Serves.draws (serves : roads.Serves junction queue accumulator held rooms vehicles plan
    refused rooms') (lower : -Quantity.slack ≤ accumulator) :
    ∃ passed : List (Vehicle Rat), passed.Sublist vehicles ∧
      passed.map (·.agent) = (plan.moves.filter Move.movesOn).map Move.agent ∧
      -Quantity.slack ≤ accumulator - (passed.map (·.pcu)).sum := by
  -- A vehicle moves on only if what is left is enough for it with the slack, so that the bound
  -- is carried along with the accumulator.
  induction serves with
  | done | early | dry | stuck | last => exact ⟨[], List.nil_sublist _, rfl, by simpa using lower⟩
  | behind _ _ _ ih | first _ _ _ _ _ ih | again _ _ _ ih =>
      obtain ⟨passed, part, agents, enough⟩ := ih lower
      exact ⟨passed, part.cons _, agents, enough⟩
  | @arrive accumulator _ _ _ vehicle _ _ _ calls _ _ ih
  | @transfer accumulator _ _ _ vehicle _ _ _ _ _ _ _ calls _ _ _ _ ih =>
      have carried : vehicle.pcu ≤ accumulator + Quantity.slack := not_lt.mp calls.carried
      obtain ⟨passed, part, agents, enough⟩ := ih (by linarith)
      refine ⟨vehicle :: passed, part.cons_cons _, ?_, ?_⟩
      · rw [List.map_cons, agents]
        rfl
      · rw [List.map_cons, List.sum_cons]
        linarith

end Roads

end MixedTraffic
