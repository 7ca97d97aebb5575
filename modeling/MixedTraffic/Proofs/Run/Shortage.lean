import MixedTraffic.Proofs.Run.Preparation
import MixedTraffic.Proofs.Run.Progress

namespace MixedTraffic

variable {α : Type} [Quantity α]

/-! Room is the only thing that an interval can be short of, as long as the intervals can be
counted. -/

/-- That there was no room, or no interval to name. -/
def RoadError.IsShortage (cause : RoadError α) : Prop :=
  cause.isCapacity = true ∨ cause.Uncounted

namespace Traffic

variable {network : Network α} {table : ModeTable α} {context : RouteContext}
  {traffic before : Traffic α} {tickSecs : Nat} {pending : List AgentId}
  {orders : List Happening} {stopped : Interrupted (RoadError α) (Traffic α)}

theorem isShortage_of_putOn {link : LinkId} {queue : LinkQueue α} {vehicle : Vehicle α} {now : Tick}
    (present : traffic.roads.queue? link = some queue)
    (failed : traffic.putOn link vehicle now = .error stopped) : stopped.cause.IsShortage := by
  simp only [putOn, orStop, Roads.queue, present, Option.elim_some, Attempt.bind_eq_error,
    Attempt.mapError_eq_error, Attempt.mapError_eq_ok, Attempt.pure_ne_error, and_false,
    false_and, exists_false, or_false, false_or, reduceCtorEq, LinkQueue.accept_eq_error] at failed
  obtain ⟨_, same, _, ⟨-, rfl⟩ | ⟨_, _, -, late, rfl⟩, rfl⟩ := failed
  · exact .inl rfl
  · exact .inr ⟨_, rfl, LinkQueue.not_dates.mp late⟩

theorem Ready.isShortage_of_move {move : Move} {vehicle : Vehicle α} {agent : Agent}
    (table : ModeTable α)
    (ready : traffic.Ready before network tickSecs pending (.ofMove move :: orders))
    (grounds : before.roads.Grounds network before.population context move vehicle agent)
    (failed : Traffic.move context.now traffic move = .error stopped) :
    stopped.cause.IsShortage := by
  cases goes : move.target? with
  | none =>
      obtain ⟨-, -, -, -, traffic', step, -⟩ := ready.exists_step_of_stays table grounds goes
      rw [move_eq_ok.mpr step] at failed
      cases failed
  | some target =>
      cases move with
      | arrive | stuck => cases goes
      | transfer source id =>
          cases goes
          obtain ⟨queue, next, trip, present, -, find, reached, found, acts⟩ :=
            ready.reaches grounds
          have left : traffic.takeOff source id true = .ok (vehicle, { traffic with
              roads := traffic.roads.setQueue source (queue.releasing vehicle true) }) :=
            takeOff_eq_ok.mpr ⟨queue, present, find, rfl⟩
          simp only [Traffic.move, left, Attempt.bind_eq_error, Attempt.pure_ne_error,
            and_false, exists_false, or_false, reduceCtorEq, false_or, Except.ok.injEq,
            Prod.exists, Prod.mk.injEq] at failed
          obtain ⟨_, off, ⟨rfl, rfl⟩, failed⟩ := failed
          obtain full | ⟨on, entered, failed⟩ := failed
          · exact isShortage_of_putOn reached full
          · obtain ⟨_, _, _, _, _, _, rfl⟩ := putOn_eq_ok.mp entered
            cases failed.symm.trans (act_eq_ok.mpr ⟨agent, trip, found, acts, rfl⟩)

inductive Fails (context : RouteContext) (traffic : Traffic α)
    (stopped : Interrupted (RoadError α) (Traffic α)) : Happening → Prop where
  | moving {move : Move} (failed : Traffic.move context.now traffic move = .error stopped) :
      Fails context traffic stopped (.ofMove move)
  | marking {link : LinkId} {id : AgentId}
      (failed : mark context.now traffic (link, id) = .error stopped) :
      Fails context traffic stopped (.heldUp id link)

/-- That some orders can be carried out up to one of them. -/
def FailsAmong (table : ModeTable α) (context : RouteContext) (traffic : Traffic α)
    (stopped : Interrupted (RoadError α) (Traffic α)) (orders : List Happening) : Prop :=
  ∃ done happening rest middle, orders = done ++ happening :: rest ∧
    Steps table context traffic done middle ∧ Fails context middle stopped happening

namespace FailsAmong

variable {first second : List Happening} {middle : Traffic α}

theorem append_left (fails : FailsAmong table context traffic stopped first) :
    FailsAmong table context traffic stopped (first ++ second) := by
  obtain ⟨done, happening, rest, middle, rfl, steps, failed⟩ := fails
  exact ⟨done, happening, rest ++ second, middle, by simp, steps, failed⟩

theorem append_right (steps : Steps table context traffic first middle)
    (fails : FailsAmong table context middle stopped second) :
    FailsAmong table context traffic stopped (first ++ second) := by
  obtain ⟨done, happening, rest, last, rfl, later, failed⟩ := fails
  exact ⟨first ++ done, happening, rest, last, by simp, steps.append later, failed⟩

end FailsAmong

theorem failsAmong_of_commit (table : ModeTable α) {decision : NodeDecision}
    (failed : commit context.now traffic decision = .error stopped) :
    FailsAmong table context traffic stopped decision.orders := by
  rw [commit, Attempt.bind_eq_error] at failed
  rw [NodeDecision.orders]
  obtain failed | ⟨moved, moves, failed⟩ := failed
  · obtain ⟨done, move, rest, middle, parts, finished, failed⟩ :=
      Attempt.exists_of_foldlM_error failed
    refine FailsAmong.append_left ⟨done.map .ofMove, .ofMove move, rest.map .ofMove, middle,
      ?_, moves_eq_ok.mp finished, .moving failed⟩
    rw [parts, List.map_append, List.map_cons]
  · obtain ⟨done, entry, rest, middle, parts, finished, failed⟩ :=
      Attempt.exists_of_foldlM_error failed
    refine FailsAmong.append_right (moves_eq_ok.mp moves) ⟨_, .ofMark entry,
      rest.map .ofMark, middle, ?_, marks_eq_ok.mp finished, .marking failed⟩
    rw [parts, List.map_append, List.map_cons]

theorem failsAmong_of_commits (table : ModeTable α) {decisions : List NodeDecision}
    (failed : decisions.foldlM (commit context.now) traffic = .error stopped) :
    FailsAmong table context traffic stopped (decisions.flatMap (·.orders)) := by
  obtain ⟨done, decision, rest, middle, rfl, finished, failed⟩ :=
    Attempt.exists_of_foldlM_error failed
  rw [List.flatMap_append, List.flatMap_cons]
  exact .append_right (commits_eq_ok.mp finished) (failsAmong_of_commit table failed).append_left

/-- Of orders that are still to be carried out, one fails only where a link is full or a vehicle
would stay beyond all counting. -/
theorem Ready.isShortage (ready : traffic.Ready before network tickSecs pending orders)
    (warranted : ∀ happening ∈ orders, before.Warranted network context happening)
    (fails : FailsAmong table context traffic stopped orders) : stopped.cause.IsShortage := by
  obtain ⟨done, happening, rest, middle, rfl, steps, failed⟩ := fails
  obtain ⟨pending, ready⟩ := ready.steps steps
  have known := warranted happening (List.mem_append_right done List.mem_cons_self)
  cases failed with
  | @moving move failed =>
      obtain ⟨id, link, same, -⟩ | ⟨other, vehicle, agent, same, grounds⟩ := known
      · cases move <;> cases same
      · have equal : move = other := by
          cases move <;> cases other <;> cases same <;> rfl
        rw [← equal] at grounds
        exact ready.isShortage_of_move table grounds failed
  | @marking link id failed =>
      obtain ⟨id, link, same, exists'⟩ | ⟨other, vehicle, agent, same, -⟩ := known
      · cases same
        obtain ⟨queue, present⟩ := Option.isSome_iff_exists.mp
          ((ready.mirrors.isSome_queue? link).trans exists')
        have step : Step table context middle (.heldUp id link) _ := .heldUp present
        cases failed.symm.trans (mark_eq_ok.mpr step)
      · cases other <;> cases same

end Traffic

namespace World

variable {world : World α} {tickSecs : Nat} {flowPermanent : Bool} {course : Course α}

theorem Prepares.isShortage (prepares : world.Prepares flowPermanent tickSecs course)
    {stopped : Interrupted (RunError α) (World α)}
    (failed : world.interval flowPermanent = .error stopped) :
    ∃ cause, stopped.cause = .road cause ∧ cause.IsShortage := by
  obtain ⟨made, counted, due, named, departed, decided, sound, mirrors, ⟨pending, placed⟩, -⟩ :=
    prepares
  have clock : world.clock = course.changed.clock := (applyChanges_revises made).clock.symm
  have left : ({ course.changed with
      roads := course.changed.roads.refill } : World α).departures?
      (course.changed.context flowPermanent) =
        .ok (course.outcomes, course.midway, course.calendar) :=
    departures?_eq_ok.mpr ⟨counted, due, ⟨course.departures, named, departed⟩, rfl⟩
  have ordered := ready_orders decided sound mirrors placed
  have warranted := warranted_of_mem_orders decided sound mirrors placed
  unfold World.interval at failed
  simp only [made, Attempt.bind_eq_error, reduceCtorEq, false_or, Except.ok.injEq,
    exists_eq_left', Prod.exists, Attempt.mapError_eq_error, Attempt.mapError_eq_ok,
    clock] at failed
  obtain fails | ⟨outcomes, midway, calendar, done, failed⟩ := failed
  · cases left.symm.trans fails
  cases left.symm.trans done
  obtain ⟨_, fails, -⟩ | ⟨decisions, again, failed⟩ := failed
  · cases decided.symm.trans fails
  cases decided.symm.trans again
  obtain ⟨halted, fails, rfl⟩ | ⟨_, -, done⟩ := failed
  · have among : Traffic.FailsAmong course.changed.table
        (course.changed.context flowPermanent) course.midway halted
        (course.decisions.flatMap (·.orders)) := Traffic.failsAmong_of_commits _ fails
    exact ⟨_, rfl, ordered.isShortage warranted among⟩
  · exact absurd done Attempt.pure_ne_error

end World

end MixedTraffic
