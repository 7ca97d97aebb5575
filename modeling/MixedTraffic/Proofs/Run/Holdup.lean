import Mathlib.Order.Bounds.Basic
import MixedTraffic.Proofs.Lists
import MixedTraffic.Proofs.Run.Precedence
import MixedTraffic.Proofs.Run.Accounts

namespace MixedTraffic

/-! The record that a link keeps of the vehicle held up at its front, and who is taken off it
for having been held up too long. -/

namespace Happening

variable {link : LinkId} {now : Tick} {happening : Happening} {happenings : List Happening}
  {moves : List Move}

theorem record_of_served? (apart : happening.served? ≠ some link)
    (blocked : Option (AgentId × Tick)) : record link now blocked happening = blocked := by
  cases happening <;> simp_all [record, served?, leaves?, marks?]

theorem foldl_record_filter (blocked : Option (AgentId × Tick)) :
    (happenings.filter (·.served? = some link)).foldl (record link now) blocked =
      happenings.foldl (record link now) blocked := by
  induction happenings generalizing blocked with
  | nil => rfl
  | cons happening rest ih =>
      rw [List.filter_cons, List.foldl_cons, ← ih]
      split
      · rfl
      · rename_i apart
        rw [record_of_served? (by simpa using apart)]

theorem foldl_record_moves (isLocal : ∀ move ∈ moves, move.source = link)
    (blocked : Option (AgentId × Tick)) :
    (moves.map ofMove).foldl (record link now) blocked =
      blocked.filter (·.1 ∉ moves.map Move.agent) := by
  induction moves generalizing blocked with
  | nil => cases blocked <;> rfl
  | cons move rest ih =>
      obtain ⟨own, later⟩ := List.forall_mem_cons.mp isLocal
      have leaves : (ofMove move).leaves? = some link := own ▸ leaves?_ofMove move
      have unmarked : (ofMove move).marks? = none := by cases move <;> rfl
      rw [List.map_cons, List.foldl_cons, ih later, record, agent_ofMove, leaves, unmarked]
      cases blocked with
      | none => simp
      | some entry => by_cases same : entry.1 = move.agent <;> simp [same, Option.filter]

theorem foldl_record_of_remains {id : AgentId} {since : Tick}
    (stays : Remains link happenings id)
    (only : ∀ other, heldUp other link ∈ happenings → other = id) :
    happenings.foldl (record link now) (some (id, since)) = some (id, since) := by
  induction happenings with
  | nil => rfl
  | cons happening rest ih =>
      obtain ⟨first, later⟩ := List.forall_mem_cons.mp stays
      have kept : record link now (some (id, since)) happening = some (id, since) := by
        rw [record, if_neg, if_neg]
        · rintro ⟨marks, different⟩
          cases happening with
          | heldUp other link' =>
              cases marks
              exact different (congrArg some (only other List.mem_cons_self).symm)
          | _ => cases marks
        · rintro ⟨leaves, own⟩
          exact first leaves (Option.some.inj own).symm
      rw [List.foldl_cons, kept]
      exact ih later fun other marked => only other (List.mem_cons_of_mem _ marked)

theorem record_heldUp {moved : List AgentId} {id : AgentId} (stays : id ∉ moved)
    (blocked : Option (AgentId × Tick)) :
    record link now (blocked.filter (·.1 ∉ moved)) (heldUp id link) =
      if blocked.map (·.1) = some id then blocked else some (id, now) := by
  have marks : ((heldUp id link).marks? = some link) = True := eq_true rfl
  have leaves : (heldUp id link).leaves? ≠ some link := nofun
  rw [record, if_neg fun both => leaves both.1]
  simp only [marks, true_and, ne_eq, ite_not, agent]
  cases blocked with
  | none => rfl
  | some entry =>
      by_cases gone : entry.1 ∈ moved
      · have different : entry.1 ≠ id := fun same => stays (same ▸ gone)
        simp [Option.filter, gone, different]
      · simp [Option.filter, gone]

end Happening

variable {α : Type}

theorem LinkQueue.Ordered.ahead_or_ahead {queue : LinkQueue α} {vehicle other : Vehicle α}
    (ordered : queue.Ordered) (member : vehicle ∈ queue.vehicles)
    (member' : other ∈ queue.vehicles) (different : vehicle ≠ other) :
    queue.Ahead vehicle other ∨ queue.Ahead other vehicle :=
  rel_or_rel_of_pairwise ordered.sorted member member' different

variable [Quantity α]

namespace Passage

variable {passage : Passage α} {first : Network α} {tickSecs : Nat} {link : LinkId}
  {queue queue' : LinkQueue α} {vehicle other : Vehicle α}

/-- That a vehicle is held up on a link that some agents leave in a passage: it is the first to
be turned away there, and all ahead of it leave. -/
structure Holds (passage : Passage α) (link : LinkId) (moved : List AgentId)
    (queue : LinkQueue α) (vehicle : Vehicle α) : Prop where
  turned : passage.TurnsFirst link vehicle
  only : ∀ other, passage.TurnsFirst link other → other = vehicle
  stays : vehicle.agent ∉ moved
  ahead : ∀ other ∈ queue.vehicles, queue.Ahead other vehicle → other.agent ∈ moved

/-- What a passage makes of the record of a link that some agents leave in it. Either the
record stays unless its agent leaves, or it is that of a vehicle held up. -/
inductive Records (passage : Passage α) (link : LinkId) (moved : List AgentId)
    (queue : LinkQueue α) : Option (AgentId × Tick) → Prop where
  | passed (gone : ∀ vehicle, passage.TurnsFirst link vehicle → vehicle.agent ∈ moved) :
      Records passage link moved queue (queue.blocked.filter (·.1 ∉ moved))
  | held {vehicle : Vehicle α} (holds : passage.Holds link moved queue vehicle) :
      Records passage link moved queue
        (if queue.blocked.map (·.1) = some vehicle.agent then queue.blocked
          else some (vehicle.agent, passage.tick))

/-- What a passage makes of the queue of a link that some agents leave in it. -/
structure Turnover (passage : Passage α) (link : LinkId) (moved : List AgentId)
    (queue queue' : LinkQueue α) : Prop where
  passing : queue'.passing = queue.passing
  stays : ∀ vehicle ∈ queue.vehicles, vehicle.agent ∉ moved → vehicle ∈ queue'.vehicles
  known : ∀ vehicle ∈ queue'.vehicles,
    vehicle ∈ queue.vehicles ∧ vehicle.agent ∉ moved ∨ queue.Newcomer passage.tick vehicle
  turned : ∀ vehicle, passage.TurnsFirst link vehicle →
    vehicle ∈ queue.vehicles ∧ vehicle.exitTick ≤ passage.tick
  records : passage.Records link moved queue queue'.blocked

/-- The intervals in which a vehicle was the first of a link to be turned away. -/
def turnedAt (passages : List (Passage α)) (link : LinkId) (vehicle : Vehicle α) : Set Tick :=
  {tick | ∃ passage ∈ passages, passage.tick = tick ∧ passage.TurnsFirst link vehicle}

variable {passages : List (Passage α)}

theorem turnedAt_append :
    turnedAt (passages ++ [passage]) link vehicle = turnedAt passages link vehicle ∪
      {tick | passage.tick = tick ∧ passage.TurnsFirst link vehicle} := by
  ext tick
  simp only [turnedAt, List.mem_append, List.mem_singleton, or_and_right, exists_or,
    exists_eq_left, Set.mem_ofPred_eq, Set.mem_union]

/-- That the record of a link names the vehicle, if any, that was turned away first, and the
first interval in which it was. Then nobody stands ahead of that vehicle. -/
structure Recalls (passages : List (Passage α)) (link : LinkId) (queue : LinkQueue α) :
    Prop where
  front : ∀ {id since}, queue.blocked = some (id, since) →
    ∃ vehicle ∈ queue.vehicles, vehicle.agent = id ∧
      (∀ other ∈ queue.vehicles, ¬queue.Ahead other vehicle) ∧ vehicle.exitTick ≤ since ∧
        IsLeast (turnedAt passages link vehicle) since
  named : ∀ vehicle ∈ queue.vehicles, (turnedAt passages link vehicle).Nonempty →
    queue.blocked.map (·.1) = some vehicle.agent
  past : ∀ vehicle tick, tick ∈ turnedAt passages link vehicle → vehicle.exitTick ≤ tick

namespace Recalls

variable {moved : List AgentId}

theorem front_of_turnedAt (recalls : Recalls passages link queue)
    (turnover : passage.Turnover link moved queue queue')
    (earlier : ∀ before ∈ passages, before.tick < passage.tick)
    (member : vehicle ∈ queue'.vehicles) (turned : (turnedAt passages link vehicle).Nonempty) :
    vehicle ∈ queue.vehicles ∧ vehicle.agent ∉ moved := by
  obtain old | newcomer := turnover.known vehicle member
  · exact old
  · obtain ⟨tick, turned⟩ := turned
    have ready := recalls.past vehicle tick turned
    obtain ⟨before, listed, rfl, -⟩ := turned
    exact absurd (ready.trans_lt (earlier before listed)) newcomer.later.not_gt

theorem not_ahead (ordered : queue.Ordered)
    (turnover : passage.Turnover link moved queue queue') (member : vehicle ∈ queue.vehicles)
    (ready : vehicle.exitTick ≤ passage.tick)
    (ahead : ∀ other ∈ queue.vehicles, queue.Ahead other vehicle → other.agent ∈ moved) :
    ∀ other ∈ queue'.vehicles, ¬queue'.Ahead other vehicle := by
  intro other member' before
  rw [LinkQueue.Ahead.congr turnover.passing] at before
  obtain ⟨old, stays⟩ | newcomer := turnover.known other member'
  · exact stays (ahead other old before)
  · exact LinkQueue.Ahead.not_of_newcomer ready
      ((ordered.numbered vehicle member).trans_le newcomer.numbered) newcomer.later before

/-- The vehicle that is held up is the one that the record names, unless that one leaves. -/
theorem eq_of_holds (recalls : Recalls passages link queue) (ordered : queue.Ordered)
    (holds : passage.Holds link moved queue vehicle) (member : vehicle ∈ queue.vehicles)
    {id : AgentId} {since : Tick} (blocked : queue.blocked = some (id, since))
    (stays : id ∉ moved) : vehicle.agent = id := by
  obtain ⟨front, listed, rfl, foremost, -⟩ := recalls.front blocked
  by_contra other
  have different : front ≠ vehicle := fun same => other (same ▸ rfl)
  obtain before | behind := ordered.ahead_or_ahead listed member different
  · exact stays (holds.ahead front listed before)
  · exact foremost vehicle member behind

theorem kept (recalls : Recalls passages link queue) (ordered : queue.Ordered)
    (turnover : passage.Turnover link moved queue queue')
    (earlier : ∀ before ∈ passages, before.tick < passage.tick) {id : AgentId} {since : Tick}
    (blocked : queue.blocked = some (id, since)) (stays : id ∉ moved) :
    ∃ vehicle ∈ queue'.vehicles, vehicle.agent = id ∧
      (∀ other ∈ queue'.vehicles, ¬queue'.Ahead other vehicle) ∧ vehicle.exitTick ≤ since ∧
        IsLeast (turnedAt (passages ++ [passage]) link vehicle) since := by
  obtain ⟨vehicle, member, rfl, front, ready, first, least⟩ := recalls.front blocked
  have before : since < passage.tick := by
    obtain ⟨before, listed, rfl, -⟩ := first
    exact earlier before listed
  refine ⟨vehicle, turnover.stays vehicle member stays, rfl,
    not_ahead ordered turnover member (ready.trans before.le) fun other old ahead =>
      absurd ahead (front other old), ready, ?_⟩
  rw [turnedAt_append]
  refine ⟨.inl first, fun tick turned => ?_⟩
  obtain old | ⟨rfl, -⟩ := turned
  · exact least old
  · exact before.le

theorem front_of_turnover (recalls : Recalls passages link queue) (ordered : queue.Ordered)
    (turnover : passage.Turnover link moved queue queue')
    (earlier : ∀ before ∈ passages, before.tick < passage.tick) {id : AgentId} {since : Tick}
    (blocked : queue'.blocked = some (id, since)) :
    ∃ vehicle ∈ queue'.vehicles, vehicle.agent = id ∧
      (∀ other ∈ queue'.vehicles, ¬queue'.Ahead other vehicle) ∧ vehicle.exitTick ≤ since ∧
        IsLeast (turnedAt (passages ++ [passage]) link vehicle) since := by
  have records := turnover.records
  rw [blocked] at records
  generalize same : some (id, since) = record at records
  cases records with
  | passed =>
      obtain ⟨blocked, stays⟩ := Option.filter_eq_some_iff.mp same.symm
      exact recalls.kept ordered turnover earlier blocked (by simpa using stays)
  | @held vehicle holds =>
      split at same
      · rename_i own
        rw [← same, Option.map_some, Option.some.injEq] at own
        obtain rfl : id = vehicle.agent := own
        exact recalls.kept ordered turnover earlier same.symm holds.stays
      · -- The record begins anew. It has not named this vehicle, which then has not been turned
        -- away before.
        rename_i other
        cases same
        obtain ⟨member, ready⟩ := turnover.turned vehicle holds.turned
        refine ⟨vehicle, turnover.stays vehicle member holds.stays, rfl,
          not_ahead ordered turnover member ready holds.ahead, ready, ?_⟩
        rw [turnedAt_append]
        refine ⟨.inr ⟨rfl, holds.turned⟩, fun tick turned => ?_⟩
        obtain old | ⟨rfl, -⟩ := turned
        · exact absurd (recalls.named vehicle member ⟨tick, old⟩) other
        · exact le_rfl

theorem named_of_turnover (recalls : Recalls passages link queue) (ordered : queue.Ordered)
    (turnover : passage.Turnover link moved queue queue')
    (earlier : ∀ before ∈ passages, before.tick < passage.tick)
    (member : vehicle ∈ queue'.vehicles)
    (turned : (turnedAt (passages ++ [passage]) link vehicle).Nonempty) :
    queue'.blocked.map (·.1) = some vehicle.agent := by
  have records := turnover.records
  generalize queue'.blocked = blocked at records
  rw [turnedAt_append] at turned
  obtain ⟨tick, old | ⟨-, now⟩⟩ := turned
  · obtain ⟨there, stays⟩ := recalls.front_of_turnedAt turnover earlier member ⟨tick, old⟩
    have named := recalls.named vehicle there ⟨tick, old⟩
    obtain ⟨⟨id, since⟩, record, same⟩ := Option.map_eq_some_iff.mp named
    obtain rfl : id = vehicle.agent := same
    cases records with
    | passed => simp [record, stays]
    | @held other holds =>
        have own := recalls.eq_of_holds ordered holds (turnover.turned other holds.turned).1
          record stays
        rw [if_pos (named.trans (congrArg some own.symm)), named]
  · obtain ⟨-, ready⟩ := turnover.turned vehicle now
    cases records with
    | passed gone =>
        obtain ⟨-, stays⟩ | newcomer := turnover.known vehicle member
        · exact absurd (gone vehicle now) stays
        · exact absurd ready newcomer.later.not_ge
    | held holds =>
        obtain rfl := holds.only vehicle now
        split
        · assumption
        · rfl

/-- What the record of a link says stays right through a passage. -/
theorem step (recalls : Recalls passages link queue) (ordered : queue.Ordered)
    (turnover : passage.Turnover link moved queue queue')
    (earlier : ∀ before ∈ passages, before.tick < passage.tick) :
    Recalls (passages ++ [passage]) link queue' where
  front := recalls.front_of_turnover ordered turnover earlier
  named _ := recalls.named_of_turnover ordered turnover earlier
  past vehicle tick turned := by
    rw [turnedAt_append] at turned
    obtain old | ⟨rfl, now⟩ := turned
    · exact recalls.past vehicle tick old
    · exact (turnover.turned vehicle now).2

end Recalls

theorem foldl_record (regular : passage.world.Regular first tickSecs) (sound : first.Sound)
    {service : Service α} (listed : service ∈ passage.services)
    (blocked : Option (AgentId × Tick)) :
    passage.course.happenings.foldl (Happening.record service.link passage.tick) blocked =
      (service.marks.map .ofMark).foldl (Happening.record service.link passage.tick)
        (blocked.filter (·.1 ∉ service.plan.moves.map Move.agent)) := by
  rw [← Happening.foldl_record_filter, filter_happenings regular sound listed, Service.orders,
    List.foldl_append, Happening.foldl_record_moves (isLocal regular listed)]

/-- A link through a passage: its service, and its queue as its node has seen it and as it is
at the end. -/
structure Tracks (passage : Passage α) (service : Service α) (queue seen queue' : LinkQueue α) :
    Prop where
  listed : service ∈ passage.services
  midway : passage.course.midway.roads.queue? service.link = some seen
  final : passage.interval.next.roads.queue? service.link = some queue'
  becoming : queue.Becomes service.link passage.tick passage.course.departures seen
  becomes : queue.Becomes service.link passage.tick passage.course.happenings queue'

theorem exists_tracks (regular : passage.world.Regular first tickSecs) (sound : first.Sound)
    (present : passage.world.roads.queue? link = some queue) :
    ∃ service seen queue', service.link = link ∧ passage.Tracks service queue seen queue' := by
  obtain ⟨old, found, lineup⟩ :=
    Roads.lineup_of_lineups (World.refilled_lineups passage.follows.changed).symm present
  have begins {happenings : List Happening} {later : LinkQueue α}
      (becomes : old.Becomes link passage.tick happenings later) :
      queue.Becomes link passage.tick happenings later := by
    simp only [LinkQueue.lineup, Lineup.mk.injEq] at lineup
    obtain ⟨passing, nextSeq, vehicles, blocked⟩ := lineup
    exact ⟨becomes.passing.trans passing.symm, nextSeq ▸ becomes.nextSeq,
      vehicles ▸ becomes.stays, fun vehicle member => by
        obtain known | newcomer := becomes.known vehicle member
        · exact .inl (vehicles ▸ known)
        · exact .inr ⟨newcomer.later, nextSeq ▸ newcomer.numbered⟩, blocked ▸ becomes.blocked⟩
  obtain ⟨seen, midway, becoming⟩ :=
    passage.follows.departed.becomes (passage.placed regular) found
  obtain ⟨queue', final, becomes⟩ :=
    passage.follows.steps.becomes (passage.placed regular) found
  rw [passage.context_now] at becoming becomes
  obtain ⟨service, listed, rfl⟩ := exists_service_of_queue regular sound midway
  exact ⟨service, seen, queue', rfl, listed, midway, final, begins becoming, begins becomes⟩

namespace Tracks

variable {service : Service α} {seen : LinkQueue α}

theorem exists_serving (tracks : passage.Tracks service queue seen queue')
    (regular : passage.world.Regular first tickSecs) :
    ∃ gone rest leading trailing, passage.Serving service seen gone rest leading trailing := by
  obtain ⟨again, gone, rest, leading, trailing, serving⟩ :=
    Passage.exists_serving regular tracks.listed
  cases tracks.midway.symm.trans serving.present
  exact ⟨gone, rest, leading, trailing, serving⟩

theorem midway_blocked (tracks : passage.Tracks service queue seen queue') :
    seen.blocked = queue.blocked := by
  rw [tracks.becoming.blocked, ← Happening.foldl_record_filter, filter_departures]
  rfl

theorem turnsFirst_iff (tracks : passage.Tracks service queue seen queue')
    (regular : passage.world.Regular first tickSecs) (sound : first.Sound)
    (vehicle : Vehicle α) :
    passage.TurnsFirst service.link vehicle ↔ service.refused.head? = some vehicle := by
  constructor
  · rintro ⟨again, listed, same, turned⟩
    cases List.inj_on_of_nodup_map (nodup_links regular sound) listed tracks.listed same
    exact turned
  · intro turned
    exact ⟨service, tracks.listed, rfl, turned⟩

theorem turned (tracks : passage.Tracks service queue seen queue')
    (regular : passage.world.Regular first tickSecs) (sound : first.Sound)
    (turned : passage.TurnsFirst service.link vehicle) :
    vehicle ∈ queue.vehicles ∧ vehicle.exitTick ≤ passage.tick := by
  have head := (tracks.turnsFirst_iff regular sound vehicle).mp turned
  obtain ⟨gone, rest, leading, trailing, serving⟩ := tracks.exists_serving regular
  obtain ⟨-, -, -, vehicles, -, -, -, ends⟩ := serving
  generalize service.plan.blocked = blocked, service.refused = refused at ends head
  have ready : vehicle ∈ seen.vehicles ∧ vehicle.exitTick ≤ passage.tick := by
    rw [vehicles]
    cases ends with
    | quiet => cases head
    | stuck ready | held ready =>
        cases head
        exact ⟨List.mem_append_right _ List.mem_cons_self, ready⟩
  exact ⟨(tracks.becoming.old_of_ready ready.1 ready.2).1, ready.2⟩

theorem marks (tracks : passage.Tracks service queue seen queue')
    (regular : passage.world.Regular first tickSecs) (sound : first.Sound) :
    (service.marks = [] ∧ ∀ vehicle, passage.TurnsFirst service.link vehicle →
      vehicle.agent ∈ service.plan.moves.map Move.agent) ∨
    ∃ vehicle, service.marks = [(service.link, vehicle.agent)] ∧
      passage.Holds service.link (service.plan.moves.map Move.agent) queue vehicle := by
  have turnsFirst := tracks.turnsFirst_iff regular sound
  obtain ⟨gone, rest, leading, trailing, serving⟩ := tracks.exists_serving regular
  have whole := serving
  obtain ⟨-, ordered, -, vehicles, moves, agents, -, ends⟩ := serving
  rw [Service.marks]
  generalize service.plan.blocked = blocked, service.refused = refused at ends turnsFirst ⊢
  cases ends with
  | quiet => exact .inl ⟨rfl, fun vehicle turned => by cases (turnsFirst vehicle).mp turned⟩
  | stuck =>
      refine .inl ⟨rfl, fun vehicle turned => ?_⟩
      cases (turnsFirst vehicle).mp turned
      rw [moves, List.map_append]
      exact List.mem_append_right _ List.mem_cons_self
  | @held front behind turned _ _ _ seeping =>
      refine .inr ⟨front, rfl, (turnsFirst front).mpr rfl, fun other turned => ?_, ?_, ?_⟩
      · cases (turnsFirst other).mp turned
        rfl
      · refine whole.agent_notMem_moves fun move trails => ?_
        obtain ⟨-, other, listed, named, -⟩ := seeping move trails
        exact ⟨other, listed, named⟩
      · intro other member ahead
        have there := tracks.becoming.stays other member
          (passage.remains_departures service.link other.agent)
        have before := ordered.mem_of_ahead vehicles there
          ((LinkQueue.Ahead.congr tracks.becoming.passing).mpr ahead)
        rw [moves, List.map_append, agents]
        exact List.mem_append_left _ (List.mem_map_of_mem before)

theorem records (tracks : passage.Tracks service queue seen queue')
    (regular : passage.world.Regular first tickSecs) (sound : first.Sound) :
    passage.Records service.link (service.plan.moves.map Move.agent) queue queue'.blocked := by
  rw [tracks.becomes.blocked, foldl_record regular sound tracks.listed]
  obtain ⟨marks, gone⟩ | ⟨vehicle, marks, holds⟩ := tracks.marks regular sound
  · rw [marks]
    exact .passed gone
  · rw [marks, List.map_singleton, List.foldl_cons, List.foldl_nil, Happening.ofMark,
      Happening.record_heldUp holds.stays]
    exact .held holds

theorem turnover (tracks : passage.Tracks service queue seen queue')
    (regular : passage.world.Regular first tickSecs) (sound : first.Sound) :
    passage.Turnover service.link (service.plan.moves.map Move.agent) queue queue' := by
  have remains := passage.remains_iff (isLocal regular tracks.listed)
    (filter_orders regular sound tracks.listed)
  refine ⟨tracks.becomes.passing, fun vehicle member stays => ?_, fun vehicle member => ?_,
    fun vehicle turned => tracks.turned regular sound turned, tracks.records regular sound⟩
  · exact tracks.becomes.stays vehicle member ((remains _).mpr stays)
  · obtain ⟨old, stays⟩ | newcomer := tracks.becomes.known vehicle member
    · exact .inl ⟨old, (remains _).mp stays⟩
    · exact .inr newcomer

/-- Whoever is held up has been preceded by all that leave the link in the passage. -/
theorem heldUp (tracks : passage.Tracks service queue seen queue')
    (regular : passage.world.Regular first tickSecs) (sound : first.Sound)
    {done : List Happening} (within : done <+: passage.course.happenings) {id : AgentId}
    (marked : .heldUp id service.link ∈ done) :
    (∃ vehicle, vehicle.agent = id ∧
      passage.Holds service.link (service.plan.moves.map Move.agent) queue vehicle) ∧
      ∀ move ∈ service.plan.moves, .ofMove move ∈ done := by
  have part := within.filter (·.served? = some service.link)
  rw [filter_happenings regular sound tracks.listed, Service.orders] at part
  have served : .heldUp id service.link ∈ done.filter (·.served? = some service.link) :=
    List.mem_filter.mpr ⟨marked, decide_eq_true rfl⟩
  have unmoved {moves : List Move} : .heldUp id service.link ∉ moves.map Happening.ofMove := by
    intro moved
    obtain ⟨move, -, same⟩ := List.mem_map.mp moved
    cases move <;> cases same
  obtain ⟨marks, -⟩ | ⟨vehicle, marks, holds⟩ := tracks.marks regular sound
  · rw [marks, List.map_nil, List.append_nil] at part
    exact absurd (part.mem served) unmoved
  · rw [marks, List.map_singleton, Happening.ofMark, List.prefix_concat_iff] at part
    obtain whole | part := part
    · rw [whole, List.mem_append, List.mem_singleton, or_iff_right unmoved] at served
      cases served
      refine ⟨⟨vehicle, rfl, holds⟩, fun move listed => ?_⟩
      refine List.mem_of_mem_filter (p := (·.served? = some service.link)) ?_
      rw [whole]
      exact List.mem_append_left _ (List.mem_map_of_mem listed)
    · exact absurd (part.mem served) unmoved

/-- Until its agent leaves, a record stays as it is. -/
theorem keeps (tracks : passage.Tracks service queue seen queue')
    (regular : passage.world.Regular first tickSecs) (sound : first.Sound)
    (recalls : Recalls passages service.link queue) (ordered : queue.Ordered)
    {done : List Happening} (within : done <+: passage.course.happenings) {id : AgentId}
    {since : Tick} (blocked : queue.blocked = some (id, since))
    (stays : Happening.Remains service.link done id) :
    done.foldl (Happening.record service.link passage.tick) queue.blocked = some (id, since) := by
  rw [blocked]
  refine Happening.foldl_record_of_remains stays fun other marked => ?_
  obtain ⟨⟨vehicle, rfl, holds⟩, moved⟩ := tracks.heldUp regular sound within marked
  refine recalls.eq_of_holds ordered holds (tracks.turned regular sound holds.turned).1 blocked ?_
  intro gone
  obtain ⟨move, listed, rfl⟩ := List.mem_map.mp gone
  refine stays _ (moved move listed) ?_ (Happening.agent_ofMove move)
  rw [Happening.leaves?_ofMove, isLocal regular tracks.listed move listed]

end Tracks

end Passage

end MixedTraffic
