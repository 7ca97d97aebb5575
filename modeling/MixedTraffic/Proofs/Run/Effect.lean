import MixedTraffic.Proofs.Road.Line
import MixedTraffic.Proofs.Run.Orders

namespace MixedTraffic

variable {α : Type}

/-! What happenings do to the queue of one link. A happening takes at most one vehicle off it,
then puts at most one on it, or it records the first vehicle turned away. -/

namespace Happening

def leaves? : Happening → Option LinkId
  | transferred _ source _ => some source
  | arrived _ link | removed _ link => some link
  | _ => none

def enters? : Happening → Option LinkId
  | departed _ link => some link
  | transferred _ _ target => some target
  | _ => none

def marks? : Happening → Option LinkId
  | heldUp _ link => some link
  | _ => none

/-- Whether the vehicle leaves its link by itself and is not just taken off it. -/
def movesOn : Happening → Bool
  | transferred .. | arrived .. => true
  | _ => false

/-- The record of a link after a happening: it is cleared when its agent leaves the link, and
made for another agent that is turned away. -/
def record (link : LinkId) (now : Tick) (blocked : Option (AgentId × Tick))
    (happening : Happening) : Option (AgentId × Tick) :=
  if happening.leaves? = some link ∧ blocked.map (·.1) = some happening.agent then none
  else if happening.marks? = some link ∧ blocked.map (·.1) ≠ some happening.agent then
    some (happening.agent, now)
  else blocked

/-- That an agent does not leave a link in some happenings. -/
def Remains (link : LinkId) (happenings : List Happening) (id : AgentId) : Prop :=
  ∀ happening ∈ happenings, happening.leaves? = some link → happening.agent ≠ id

theorem remains_append {link : LinkId} {first second : List Happening} {id : AgentId} :
    Remains link (first ++ second) id ↔ Remains link first id ∧ Remains link second id :=
  List.forall_mem_append

end Happening

namespace LinkQueue

variable [Quantity α]

inductive Loses (link : LinkId) (happening : Happening) (queue : LinkQueue α) :
    LinkQueue α → Prop where
  | same (apart : happening.leaves? ≠ some link) : Loses link happening queue queue
  | left {vehicle : Vehicle α} (leaves : happening.leaves? = some link)
      (aboard : queue.vehicles.find? (·.agent == happening.agent) = some vehicle) :
      Loses link happening queue (queue.releasing vehicle happening.movesOn)

inductive Admits (link : LinkId) (now : Tick) (happening : Happening) (traffic : Traffic α)
    (queue : LinkQueue α) : LinkQueue α → Prop where
  | same (apart : happening.enters? ≠ some link) : Admits link now happening traffic queue queue
  | joined {rider : Vehicle α} {seeping : Bool} {room : Room α}
      (enters : happening.enters? = some link) (own : rider.agent = happening.agent)
      (taken : queue.room.take? rider.pcu (traffic.roads.seeps rider.mode) =
        some (seeping, room))
      (comes : ∀ source ∈ happening.leaves?, (source, rider) ∈ traffic.roads.fleet) :
      Admits link now happening traffic queue
        (queue.holding (queue.stamped rider now seeping))

inductive Notes (link : LinkId) (now : Tick) (happening : Happening) (queue : LinkQueue α) :
    LinkQueue α → Prop where
  | same (apart : happening.marks? ≠ some link) : Notes link now happening queue queue
  | marked (marks : happening.marks? = some link) :
      Notes link now happening queue (queue.markBlocked happening.agent now)

end LinkQueue

namespace Traffic

variable {traffic traffic' : Traffic α} {link : LinkId} {queue : LinkQueue α}
  {pending : List AgentId}

theorem Placed.nodup_agents (placed : traffic.Placed pending)
    (present : traffic.roads.queue? link = some queue) :
    (queue.vehicles.map (·.agent)).Nodup := by
  have distinct := Roads.nodup_queueing placed.labelled placed.nodup_riders
    (List.nodup_singleton link)
  simpa [Roads.queueing, present] using distinct

variable [Quantity α] {table : ModeTable α} {context : RouteContext} {happening : Happening}
  {happenings : List Happening}

/-- What a happening makes of the queue of a link. -/
inductive Turns (context : RouteContext) (traffic : Traffic α) (happening : Happening)
    (link : LinkId) (queue : LinkQueue α) : LinkQueue α → Prop where
  | intro {left joined queue' : LinkQueue α} (loses : queue.Loses link happening left)
      (admits : left.Admits link context.now happening traffic joined)
      (notes : joined.Notes link context.now happening queue') :
      Turns context traffic happening link queue queue'

theorem Step.turns (step : Step table context traffic happening traffic')
    (labelled : traffic.roads.Labelled) (present : traffic.roads.queue? link = some queue) :
    ∃ queue', traffic'.roads.queue? link = some queue' ∧
      Turns context traffic happening link queue queue' := by
  have updated {other : LinkId} {old new : LinkQueue α}
      (opened : traffic.roads.queue? other = some old)
      (here : other = link → old = queue → Turns context traffic happening link queue new)
      (elsewhere : some other ≠ some link → Turns context traffic happening link queue queue) :
      ∃ queue', (traffic.roads.setQueue other new).queue? link = some queue' ∧
        Turns context traffic happening link queue queue' := by
    rw [Roads.queue?_setQueue opened]
    split
    · rename_i same
      subst same
      exact ⟨new, rfl, here rfl (Option.some.inj (opened.symm.trans present))⟩
    · rename_i different
      exact ⟨queue, present, elsewhere fun same => different (Option.some.inj same).symm⟩
  cases step with
  | skipped | turnedAway | gaveUp =>
      exact ⟨queue, present, .intro (.same nofun) (.same nofun) (.same nofun)⟩
  | departed found _ _ _ opened built taken =>
      rw [← Vehicle.mode_of_new? built] at taken
      refine updated opened (fun same equal => ?_)
        fun apart => .intro (.same nofun) (.same apart) (.same nofun)
      subst same equal
      exact .intro (.same nofun) (.joined rfl (Vehicle.agent_of_new? built) taken nofun)
        (.same nofun)
  | @transferred id source target _ _ old next vehicle _ _ opened aboard reached taken =>
      have own : vehicle.agent = id := by simpa using List.find?_some aboard
      have there : (source, vehicle) ∈ traffic.roads.fleet :=
        (Roads.mem_fleet labelled).mpr ⟨old, opened, List.mem_of_find?_eq_some aboard⟩
      have comes : ∀ other ∈ (Happening.transferred id source target).leaves?,
          (other, vehicle) ∈ traffic.roads.fleet := by
        rintro other ⟨⟩
        exact there
      obtain ⟨left, released, loses⟩ : ∃ left,
          (traffic.roads.setQueue source (old.releasing vehicle true)).queue? link = some left ∧
            queue.Loses link (.transferred id source target) left := by
        rw [Roads.queue?_setQueue opened]
        split
        · rename_i same
          subst same
          cases opened.symm.trans present
          exact ⟨_, rfl, .left rfl aboard⟩
        · rename_i different
          exact ⟨queue, present, .same fun same => different (Option.some.inj same).symm⟩
      change ∃ queue', (Roads.setQueue _ target _).queue? link = some queue' ∧ _
      rw [Roads.queue?_setQueue reached]
      split
      · rename_i same
        subst same
        cases reached.symm.trans released
        exact ⟨_, rfl, .intro loses (.joined rfl own taken comes) (.same nofun)⟩
      · rename_i different
        exact ⟨left, released, .intro loses
          (.same fun same => different (Option.some.inj same).symm) (.same nofun)⟩
  | arrived opened aboard | removed opened aboard =>
      refine updated opened (fun same equal => ?_)
        fun apart => .intro (.same apart) (.same nofun) (.same nofun)
      subst same equal
      exact .intro (.left rfl aboard) (.same nofun) (.same nofun)
  | heldUp opened =>
      refine updated opened (fun same equal => ?_)
        fun apart => .intro (.same nofun) (.same nofun) (.same apart)
      subst same equal
      exact .intro (.same nofun) (.same nofun) (.marked rfl)

theorem Step.inLine (inLine : traffic.roads.InLine)
    (step : Step table context traffic happening traffic') : traffic'.roads.InLine := by
  cases step with
  | skipped | turnedAway | gaveUp => exact inLine
  | departed _ _ _ _ present =>
      exact inLine.setQueue present ((inLine _ _ present).holding ..)
  | @transferred _ _ _ _ _ _ _ vehicle _ _ present _ reached =>
      have left := inLine.setQueue present ((inLine _ _ present).releasing vehicle true)
      exact left.setQueue reached ((left _ _ reached).holding ..)
  | arrived present | removed present =>
      exact inLine.setQueue present ((inLine _ _ present).releasing ..)
  | heldUp present => exact inLine.setQueue present ((inLine _ _ present).markBlocked ..)

end Traffic

namespace LinkQueue

variable {link : LinkId} {now : Tick} {happening : Happening}
  {first second : List Happening} {queue queue' queue'' : LinkQueue α} {vehicle : Vehicle α}

theorem isSome_blockedSince? {agent : AgentId} :
    (queue.blockedSince? agent).isSome = true ↔ queue.blocked.map (·.1) = some agent := by
  unfold blockedSince?
  cases queue.blocked with
  | none => simp
  | some record => by_cases same : record.1 = agent <;> simp [same]

/-- That a vehicle has come onto a link in an interval, when `queue` was there before. -/
structure Newcomer (queue : LinkQueue α) (now : Tick) (vehicle : Vehicle α) : Prop where
  later : now < vehicle.exitTick
  numbered : queue.nextSeq ≤ vehicle.seq

/-- What some happenings of an interval make of the queue of a link. -/
structure Becomes (link : LinkId) (now : Tick) (happenings : List Happening)
    (queue queue' : LinkQueue α) : Prop where
  passing : queue'.passing = queue.passing
  nextSeq : queue.nextSeq ≤ queue'.nextSeq
  stays : ∀ vehicle ∈ queue.vehicles, Happening.Remains link happenings vehicle.agent →
    vehicle ∈ queue'.vehicles
  known : ∀ vehicle ∈ queue'.vehicles,
    vehicle ∈ queue.vehicles ∧ Happening.Remains link happenings vehicle.agent ∨
      queue.Newcomer now vehicle
  blocked : queue'.blocked = happenings.foldl (Happening.record link now) queue.blocked

theorem Notes.frame {now : Tick} (notes : queue.Notes link now happening queue') :
    queue'.passing = queue.passing ∧ queue'.nextSeq = queue.nextSeq ∧
      queue'.vehicles = queue.vehicles := by
  cases notes with
  | same => exact ⟨rfl, rfl, rfl⟩
  | marked =>
      unfold markBlocked
      split <;> exact ⟨rfl, rfl, rfl⟩

theorem Notes.blocked {now : Tick} (notes : queue.Notes link now happening queue') :
    queue'.blocked =
      if happening.marks? = some link ∧ queue.blocked.map (·.1) ≠ some happening.agent then
        some (happening.agent, now)
      else queue.blocked := by
  cases notes with
  | same apart => rw [if_neg fun both => apart both.1]
  | marked marks =>
      simp only [markBlocked, isSome_blockedSince?, marks, true_and, ne_eq, ite_not]
      split <;> rfl

section Parts

variable [Quantity α] {traffic : Traffic α}

theorem Loses.mem_iff (loses : queue.Loses link happening queue')
    (distinct : (queue.vehicles.map (·.agent)).Nodup) :
    vehicle ∈ queue'.vehicles ↔
      vehicle ∈ queue.vehicles ∧ Happening.Remains link [happening] vehicle.agent := by
  simp only [Happening.Remains, List.forall_mem_singleton]
  cases loses with
  | same apart => simp [apart]
  | @left leaving leaves aboard =>
      have own : leaving.agent = happening.agent := by simpa using List.find?_some aboard
      have perm := releasing_perm aboard happening.movesOn
      have others := (perm.map (·.agent)).nodup_iff.mp distinct
      rw [List.map_cons, List.nodup_cons] at others
      rw [perm.mem_iff, List.mem_cons]
      constructor
      · intro kept
        refine ⟨.inr kept, fun _ same => others.1 ?_⟩
        rw [own, same]
        exact List.mem_map_of_mem kept
      · rintro ⟨rfl | kept, remains⟩
        · exact absurd own.symm (remains leaves)
        · exact kept

theorem Loses.frame (loses : queue.Loses link happening queue') :
    queue'.passing = queue.passing ∧ queue'.nextSeq = queue.nextSeq := by
  cases loses <;> exact ⟨rfl, rfl⟩

theorem Loses.blocked (loses : queue.Loses link happening queue') :
    queue'.blocked =
      if happening.leaves? = some link ∧ queue.blocked.map (·.1) = some happening.agent then none
      else queue.blocked := by
  cases loses with
  | same apart => rw [if_neg fun both => apart both.1]
  | @left leaving leaves aboard =>
      have own : leaving.agent = happening.agent := by simpa using List.find?_some aboard
      simp only [releasing, isSome_blockedSince?, own, leaves, true_and]

theorem Admits.frame {now : Tick} (admits : queue.Admits link now happening traffic queue') :
    queue'.passing = queue.passing ∧ queue.nextSeq ≤ queue'.nextSeq ∧
      queue'.blocked = queue.blocked := by
  cases admits with
  | same => exact ⟨rfl, le_rfl, rfl⟩
  | joined => exact ⟨rfl, Nat.le_succ _, rfl⟩

theorem Admits.subset {now : Tick} (admits : queue.Admits link now happening traffic queue')
    (member : vehicle ∈ queue.vehicles) : vehicle ∈ queue'.vehicles := by
  cases admits with
  | same => exact member
  | joined => exact (queue.holding_perm _).mem_iff.mpr (List.mem_cons_of_mem _ member)

theorem Admits.known {now : Tick} (admits : queue.Admits link now happening traffic queue')
    (member : vehicle ∈ queue'.vehicles) :
    vehicle ∈ queue.vehicles ∨ queue.Newcomer now vehicle := by
  cases admits with
  | same => exact .inl member
  | joined =>
      obtain rfl | old := List.mem_cons.mp ((queue.holding_perm _).mem_iff.mp member)
      · exact .inr ⟨Nat.lt_add_of_pos_right (Nat.le_max_right ..), le_rfl⟩
      · exact .inl old

end Parts

namespace Becomes

theorem refl (link : LinkId) (now : Tick) (queue : LinkQueue α) :
    Becomes link now [] queue queue where
  passing := rfl
  nextSeq := le_rfl
  stays _ member _ := member
  known _ member := .inl ⟨member, List.forall_mem_nil _⟩
  blocked := rfl

theorem trans (before : Becomes link now first queue queue')
    (after : Becomes link now second queue' queue'') :
    Becomes link now (first ++ second) queue queue'' where
  passing := after.passing.trans before.passing
  nextSeq := before.nextSeq.trans after.nextSeq
  stays vehicle member remains := by
    obtain ⟨first, second⟩ := Happening.remains_append.mp remains
    exact after.stays vehicle (before.stays vehicle member first) second
  known vehicle member := by
    obtain ⟨earlier, second⟩ | newcomer := after.known vehicle member
    · obtain ⟨old, first⟩ | newcomer := before.known vehicle earlier
      · exact .inl ⟨old, Happening.remains_append.mpr ⟨first, second⟩⟩
      · exact .inr newcomer
    · exact .inr ⟨newcomer.later, before.nextSeq.trans newcomer.numbered⟩
  blocked := by rw [after.blocked, before.blocked, List.foldl_append]

theorem of_turns [Quantity α] {context : RouteContext} {traffic : Traffic α}
    (turns : traffic.Turns context happening link queue queue')
    (distinct : (queue.vehicles.map (·.agent)).Nodup) :
    Becomes link context.now [happening] queue queue' := by
  obtain ⟨loses, admits, notes⟩ := turns
  obtain ⟨passing, nextSeq⟩ := loses.frame
  obtain ⟨passing', nextSeq', blocked'⟩ := admits.frame
  obtain ⟨passing'', nextSeq'', vehicles⟩ := notes.frame
  refine ⟨passing''.trans (passing'.trans passing), ?_, ?_, ?_, ?_⟩
  · rw [nextSeq'', ← nextSeq]
    exact nextSeq'
  · intro vehicle member remains
    rw [vehicles]
    exact admits.subset ((loses.mem_iff distinct).mpr ⟨member, remains⟩)
  · intro vehicle member
    rw [vehicles] at member
    obtain old | newcomer := admits.known member
    · exact .inl ((loses.mem_iff distinct).mp old)
    · exact .inr ⟨newcomer.later, nextSeq ▸ newcomer.numbered⟩
  · -- Who leaves the link is not turned away on it in the same happening.
    have apart : happening.leaves? = some link → happening.marks? ≠ some link := by
      cases happening <;> simp [Happening.leaves?, Happening.marks?]
    rw [notes.blocked, blocked', loses.blocked, List.foldl_cons, List.foldl_nil,
      Happening.record]
    split
    · rename_i leaving
      rw [if_neg fun both => apart leaving.1 both.1]
    · rfl

end Becomes

end LinkQueue

namespace Traffic

variable [Quantity α] {table : ModeTable α} {context : RouteContext}
  {traffic traffic' : Traffic α} {happenings : List Happening} {link : LinkId}
  {queue : LinkQueue α} {pending : List AgentId}

theorem Steps.becomes (steps : Steps table context traffic happenings traffic')
    (placed : traffic.Placed pending) (present : traffic.roads.queue? link = some queue) :
    ∃ queue', traffic'.roads.queue? link = some queue' ∧
      queue.Becomes link context.now happenings queue' := by
  induction steps generalizing queue pending with
  | nil => exact ⟨queue, present, .refl ..⟩
  | cons step _ ih =>
      obtain ⟨middle, found, turns⟩ := step.turns placed.labelled present
      obtain ⟨queue', last, later⟩ := ih (placed.step step) found
      exact ⟨queue', last,
        (LinkQueue.Becomes.of_turns turns (placed.nodup_agents present)).trans later⟩

end Traffic

end MixedTraffic
