import MixedTraffic.Proofs.Run.Success
import MixedTraffic.Proofs.Sweep.Point

namespace MixedTraffic

/-! The way of a circling driver on the test track, from `home` round the ring, and out to `work`
once flow is permanent. -/

/-- The links of a trip that is on `start` first, each driver's choice being made in a context of
its own. No link where the trip is over. -/
def Ring.walk (ring : Ring) (start : LinkId) (contexts : Nat → RouteContext) : Nat → Option LinkId
  | 0 => some start
  | count + 1 => (ring.walk start contexts count).bind fun current =>
      ring.next? current (contexts count)

namespace TestTrack

section Ring

variable {subdivision position : Nat} {context : RouteContext}

@[simp] theorem next?_exit : (ringOf subdivision).next? (ringOf subdivision).exit context = none :=
  if_pos rfl

theorem getElem?_loop (inside : position < 3 * subdivision) :
    (ringOf subdivision).loop[position]? = some ⟨position⟩ := by
  simp [ringOf, inside]

theorem next?_home (positive : 0 < subdivision) :
    (ringOf subdivision).next? (ringOf subdivision).home context = some ⟨0⟩ := by
  have inside : (ringOf subdivision).home ≠ (ringOf subdivision).exit := by simp [ringOf]
  rw [Ring.next?, if_neg inside, if_pos rfl]
  exact List.head?_eq_getElem?.trans (getElem?_loop (by omega))

theorem idxOf?_loop (inside : position < 3 * subdivision) :
    (ringOf subdivision).loop.idxOf? ⟨position⟩ = some position := by
  rw [List.idxOf?_eq_some_iff]
  refine ⟨by simpa [ringOf] using inside, by simp [ringOf], fun earlier before => ?_⟩
  simp [ringOf, before.ne]

theorem next?_loop (inside : position < 3 * subdivision) :
    (ringOf subdivision).next? ⟨position⟩ context =
      if position = subdivision - 1 ∧ context.flowPermanent then some (ringOf subdivision).exit
      else some ⟨(position + 1) % (3 * subdivision)⟩ := by
  have notExit : (⟨position⟩ : LinkId) ≠ (ringOf subdivision).exit := by
    simp only [ringOf, ne_eq, Key.mk.injEq]
    omega
  have notHome : (⟨position⟩ : LinkId) ≠ (ringOf subdivision).home := by
    simp only [ringOf, ne_eq, Key.mk.injEq]
    omega
  have length : (ringOf subdivision).loop.length = 3 * subdivision := by simp [ringOf]
  have onward : (position + 1) % (3 * subdivision) < 3 * subdivision := Nat.mod_lt _ (by omega)
  rw [Ring.next?, if_neg notExit, if_neg notHome, idxOf?_loop inside, length]
  simp only [ringOf, Key.mk.injEq]
  split
  · rfl
  · exact getElem?_loop onward

inductive OnTrack (subdivision : Nat) : LinkId → Prop
  | home : OnTrack subdivision (ringOf subdivision).home
  | loop {position : Nat} (inside : position < 3 * subdivision) : OnTrack subdivision ⟨position⟩
  | exit : OnTrack subdivision (ringOf subdivision).exit

theorem OnTrack.exists_next (positive : 0 < subdivision) {current : LinkId}
    (on : OnTrack subdivision current) (context : RouteContext) :
    current = (ringOf subdivision).exit ∨
      ∃ next, (ringOf subdivision).next? current context = some next ∧
        OnTrack subdivision next := by
  cases on with
  | home => exact .inr ⟨_, next?_home positive, .loop (by omega)⟩
  | loop inside =>
      rw [next?_loop inside]
      split
      · exact .inr ⟨_, rfl, .exit⟩
      · exact .inr ⟨_, rfl, .loop (Nat.mod_lt _ (by omega))⟩
  | exit => exact .inl rfl

theorem OnTrack.next (positive : 0 < subdivision) {current next : LinkId}
    (on : OnTrack subdivision current)
    (chosen : (ringOf subdivision).next? current context = some next) :
    OnTrack subdivision next := by
  obtain rfl | ⟨other, same, stays⟩ := on.exists_next positive context
  · simp at chosen
  · cases chosen.symm.trans same
    exact stays

theorem OnTrack.next?_eq_none_iff (positive : 0 < subdivision) {current : LinkId}
    (on : OnTrack subdivision current) :
    (ringOf subdivision).next? current context = none ↔ current = (ringOf subdivision).exit := by
  constructor
  · intro ended
    obtain same | ⟨next, chosen, -⟩ := on.exists_next positive context
    · exact same
    · cases ended.symm.trans chosen
  · rintro rfl
    exact next?_exit

end Ring

section Network

variable {α : Type} [Quantity α] {config : TrackConfig α} {track : TestTrack α} {position : Nat}

structure Built (config : TrackConfig α) (track : TestTrack α) : Prop where
  subdivision : 0 < config.subdivision
  network : (draft config).build = .ok track.network
  ring : track.ring = ringOf config.subdivision

theorem built_of_build (done : TestTrack.build config = .ok track) : Built config track := by
  simp only [TestTrack.build, TrackConfig.check, Attempt.bind_eq_ok, Attempt.mapError_eq_ok,
    Attempt.pure_eq_ok, ConfigError.require_eq_ok, bne_iff_ne] at done
  obtain ⟨_, ⟨_, divided, -⟩, network, connected, rfl⟩ := done
  exact ⟨Nat.pos_of_ne_zero divided, connected, rfl⟩

namespace Built

variable (built : Built config track)
include built

theorem link?_eq (key : LinkId) : track.network.link? key =
    ((List.range (3 * config.subdivision)).map (ringLink config) ++
      [linkBetween config "home" (3 * config.subdivision) 0 (some bufferStorage),
        linkBetween config "work" config.subdivision (3 * config.subdivision + 1)
          (some bufferStorage)])[key.index]? := by
  obtain ⟨-, -, -, network⟩ := NetworkDraft.build_eq_ok.mp built.network
  rw [Network.link?, ← network]
  exact (Array.getElem?_toList).symm

theorem link?_ring (inside : position < 3 * config.subdivision) :
    track.network.link? ⟨position⟩ = some (ringLink config position) := by
  rw [built.link?_eq, List.getElem?_append_left (by simpa using inside)]
  simp [inside]

theorem link?_home : track.network.link? track.ring.home =
    some (linkBetween config "home" (3 * config.subdivision) 0 (some bufferStorage)) := by
  rw [built.link?_eq, built.ring]
  simp [ringOf]

theorem link?_work : track.network.link? track.ring.exit =
    some (linkBetween config "work" config.subdivision (3 * config.subdivision + 1)
      (some bufferStorage)) := by
  rw [built.link?_eq, built.ring]
  simp [ringOf]

theorem exists_link? {current : LinkId} (on : OnTrack config.subdivision current) :
    (track.network.link? current).isSome := by
  cases on with
  | home => exact Option.isSome_of_eq_some (built.ring ▸ built.link?_home)
  | loop inside => exact Option.isSome_of_eq_some (built.link?_ring inside)
  | exit => exact Option.isSome_of_eq_some (built.ring ▸ built.link?_work)

theorem isSuccessor?_next {context : RouteContext} {current next : LinkId}
    (on : OnTrack config.subdivision current)
    (chosen : track.ring.next? current context = some next) :
    track.network.isSuccessor? current next = some true := by
  have positive := built.subdivision
  have home := built.link?_home
  have work := built.link?_work
  rw [built.ring] at chosen home work
  rw [Network.isSuccessor?_eq_true]
  cases on with
  | home =>
      rw [next?_home positive] at chosen
      cases chosen
      exact ⟨_, _, home, built.link?_ring (by omega), rfl⟩
  | exit => simp at chosen
  | @loop position inside =>
      rw [next?_loop inside] at chosen
      split at chosen
      · rename_i last
        cases chosen
        refine ⟨_, _, built.link?_ring inside, work, ?_⟩
        -- The exit leaves from the end of the base, which is not the last node of the ring.
        simp only [ringLink, linkBetween, last.1, Key.mk.injEq]
        rw [Nat.sub_add_cancel positive, Nat.mod_eq_of_lt (by omega)]
      · cases chosen
        exact ⟨_, _, built.link?_ring inside, built.link?_ring (Nat.mod_lt _ (by omega)), rfl⟩

end Built

end Network

section Walk

variable {subdivision position count : Nat} {contexts : Nat → RouteContext}

theorem walk_onTrack (positive : 0 < subdivision) {start current : LinkId}
    (on : OnTrack subdivision start)
    (reached : (ringOf subdivision).walk start contexts count = some current) :
    OnTrack subdivision current := by
  induction count generalizing current with
  | zero =>
      cases reached
      exact on
  | succ count ih =>
      obtain ⟨before, walked, chosen⟩ := Option.bind_eq_some_iff.mp reached
      exact (ih walked).next positive chosen

/-- A trip goes round the ring as long as it does not come to the end of the base while flow is
permanent. -/
theorem walk_loop (inside : position < 3 * subdivision)
    (stays : ∀ earlier < count, ¬((position + earlier) % (3 * subdivision) = subdivision - 1 ∧
      (contexts earlier).flowPermanent = true)) :
    (ringOf subdivision).walk ⟨position⟩ contexts count =
      some ⟨(position + count) % (3 * subdivision)⟩ := by
  induction count with
  | zero => rw [Ring.walk, Nat.add_zero, Nat.mod_eq_of_lt inside]
  | succ count ih =>
      have onward : (position + count) % (3 * subdivision) < 3 * subdivision :=
        Nat.mod_lt _ (by omega)
      rw [Ring.walk, ih fun earlier before => stays earlier (by omega), Option.bind_some,
        next?_loop onward, if_neg (stays count (by omega)), Nat.mod_add_mod, Nat.add_assoc]

theorem walk_succ (ring : Ring) (start : LinkId) (contexts : Nat → RouteContext) (count : Nat) :
    ring.walk start contexts (count + 1) = (ring.next? start (contexts 0)).bind fun second =>
      ring.walk second (fun query => contexts (query + 1)) count := by
  induction count with
  | zero => simp [Ring.walk]
  | succ count ih =>
      rw [Ring.walk, ih, Option.bind_assoc]
      rfl

/-- Until flow is permanent, the links of the ring come one after the other, again and again. -/
theorem walk_home (positive : 0 < subdivision)
    (circles : ∀ earlier ≤ count, (contexts earlier).flowPermanent = false) :
    (ringOf subdivision).walk (ringOf subdivision).home contexts (count + 1) =
      some ⟨count % (3 * subdivision)⟩ := by
  rw [walk_succ, next?_home positive, Option.bind_some, walk_loop (by omega), Nat.zero_add]
  rintro earlier before ⟨-, permanent⟩
  rw [circles (earlier + 1) before] at permanent
  cases permanent

theorem exists_distance (inside : position < 3 * subdivision) :
    ∃ distance < 3 * subdivision, (position + distance) % (3 * subdivision) = subdivision - 1 ∧
      ∀ earlier < distance, (position + earlier) % (3 * subdivision) ≠ subdivision - 1 := by
  by_cases base : position < subdivision
  · refine ⟨subdivision - 1 - position, by omega, ?_, fun earlier before => ?_⟩
    · rw [Nat.mod_eq_of_lt (by omega)]
      omega
    · rw [Nat.mod_eq_of_lt (by omega)]
      omega
  · -- From the other branches the ring is closed on the way.
    refine ⟨4 * subdivision - 1 - position, by omega, ?_, fun earlier before => ?_⟩
    · rw [Nat.mod_eq_sub_mod (by omega), Nat.mod_eq_of_lt (by omega)]
      omega
    · by_cases closed : position + earlier < 3 * subdivision
      · rw [Nat.mod_eq_of_lt closed]
        omega
      · rw [Nat.mod_eq_sub_mod (by omega), Nat.mod_eq_of_lt (by omega)]
        omega

/-- Once flow is permanent, a trip on the ring leaves it before it has been round once more. -/
theorem walk_leaves (inside : position < 3 * subdivision)
    (leaves : ∀ query, (contexts query).flowPermanent = true) :
    ∃ queries ≤ 3 * subdivision, 0 < queries ∧
      (∀ earlier < queries, (ringOf subdivision).walk ⟨position⟩ contexts earlier =
        some ⟨(position + earlier) % (3 * subdivision)⟩) ∧
      (ringOf subdivision).walk ⟨position⟩ contexts queries = some (ringOf subdivision).exit ∧
      (ringOf subdivision).walk ⟨position⟩ contexts (queries + 1) = none := by
  obtain ⟨distance, near, last, first⟩ := exists_distance inside
  have circles (count : Nat) (within : count ≤ distance) :
      (ringOf subdivision).walk ⟨position⟩ contexts count =
        some ⟨(position + count) % (3 * subdivision)⟩ :=
    walk_loop inside fun earlier before both =>
      first earlier (Nat.lt_of_lt_of_le before within) both.1
  have onward : (position + distance) % (3 * subdivision) < 3 * subdivision :=
    Nat.mod_lt _ (by omega)
  have exit : (ringOf subdivision).walk ⟨position⟩ contexts (distance + 1) =
      some (ringOf subdivision).exit := by
    rw [Ring.walk, circles distance le_rfl, Option.bind_some, next?_loop onward,
      if_pos ⟨last, leaves distance⟩]
  refine ⟨distance + 1, near, Nat.succ_pos _, fun earlier before => ?_, exit, ?_⟩
  · exact circles earlier (Nat.le_of_lt_succ before)
  · rw [Ring.walk, exit, Option.bind_some, next?_exit]

end Walk

section Driver

variable {α : Type} [Quantity α] {config : TrackConfig α} {track : TestTrack α}

theorem Built.orderly (built : Built config track) (agent : AgentId) :
    (Driver.circling track.ring).Orderly track.network agent := by
  have onTrack {link : LinkId} {step : Nat}
      (reaches : (Driver.circling track.ring).Reaches agent link step) :
      OnTrack config.subdivision link := by
    induction reaches with
    | first departs chosen =>
        cases chosen
        exact built.ring ▸ .home
    | next reached chosen ih => exact ih.next built.subdivision (built.ring ▸ chosen)
  constructor
  · intro context link departs chosen
    cases chosen
    exact built.exists_link? (built.ring ▸ .home)
  · intro context link next step reaches chosen
    exact built.isSuccessor?_next (onTrack reaches) chosen

theorem Built.sensible {sweep : Sweep α} {agents : List Nat} {population : Population}
    (built : Built config sweep.track) (peoples : sweep.Peoples agents population) :
    (sweep.setup population).Sensible where
  connected := ⟨draft config, built.network⟩
  populated := peoples.populated
  orderly id agent found := by
    rw [peoples.circling agent (Array.mem_of_getElem? found)]
    exact built.orderly id

/-- Where a run of a point fails on the roads, a link is full, a setting is not valid, or the
intervals run out. -/
theorem Built.cause_of_runPoint {sweep : Sweep α} {agents : List Nat} {cause : RoadError α}
    (built : Built config sweep.track)
    (failed : sweep.runPoint agents = .error (.run (.road cause))) :
    cause.IsShortage ∨ ∃ invalid, cause = .config invalid := by
  obtain ⟨population, made, failed | ⟨start, history, sim, stopped, ready, run, failed, same⟩⟩ :=
    Sweep.runPoint_eq_error failed
  · exact .inr (SimSetup.config_of_build failed)
  · obtain ⟨short, given, shortage⟩ := run.isShortage_of_step
      (built.sensible (Sweep.peoples_of_population made)) ready failed
    cases same.symm.trans given
    exact .inl shortage

end Driver

/-- A circling driver only makes legal moves, whenever flow becomes permanent. From `home` on, each
link exists, each next one leaves the node where it ends, and only `work` is the last. Until flow
is permanent the ring is gone round, link by link. Once it is, a trip on the ring comes to `work`
within one round, and ends there. So no run of a point can fail because of a link that a driver has
asked for. -/
theorem circling_legal {α : Type} [Quantity α] {config : TrackConfig α} {track : TestTrack α}
    (done : TestTrack.build config = .ok track) :
    (∀ contexts count current, track.ring.walk track.ring.home contexts count = some current →
      (track.network.link? current).isSome ∧
        (∀ next, track.ring.next? current (contexts count) = some next →
          track.network.isSuccessor? current next = some true) ∧
        (track.ring.next? current (contexts count) = none ↔ current = track.ring.exit)) ∧
      track.ring.loop.length = 3 * config.subdivision ∧
      (∀ contexts count, (∀ earlier ≤ count, (contexts earlier).flowPermanent = false) →
        ∃ link, track.ring.loop[count % (3 * config.subdivision)]? = some link ∧
          track.ring.walk track.ring.home contexts (count + 1) = some link) ∧
      (∀ contexts, (∀ query, (contexts query).flowPermanent = true) →
        ∀ current ∈ track.ring.loop, ∃ queries ≤ 3 * config.subdivision, 0 < queries ∧
          (∀ earlier < queries, ∃ link ∈ track.ring.loop,
            track.ring.walk current contexts earlier = some link) ∧
          track.ring.walk current contexts queries = some track.ring.exit ∧
          track.ring.walk current contexts (queries + 1) = none) ∧
      ∀ sweep : Sweep α, sweep.track = track → ∀ agents agent next node,
        sweep.runPoint agents ≠ .error (.run (.road (.notOutgoing agent next node))) ∧
          sweep.runPoint agents ≠ .error (.run (.road (.unknownLink agent next))) := by
  have built := built_of_build done
  have positive := built.subdivision
  have ring := built.ring
  refine ⟨?legal, ?length, ?circles, ?leaves, ?sound⟩
  case legal =>
    intro contexts count current reached
    have on : OnTrack config.subdivision current := by
      rw [ring] at reached
      exact walk_onTrack positive .home reached
    refine ⟨built.exists_link? on, fun next chosen => built.isSuccessor?_next on chosen, ?_⟩
    rw [ring]
    exact on.next?_eq_none_iff positive
  case length => simp [ring, ringOf]
  case circles =>
    intro contexts count circles
    rw [ring]
    exact ⟨_, getElem?_loop (Nat.mod_lt _ (by omega)), walk_home positive circles⟩
  case leaves =>
    intro contexts leaves current member
    rw [ring] at member ⊢
    obtain ⟨position, inside, rfl⟩ := List.mem_map.mp member
    obtain ⟨queries, within, entered, circles, exit, ended⟩ :=
      walk_leaves (List.mem_range.mp inside) leaves
    refine ⟨queries, within, entered, fun earlier before => ⟨_, ?_, circles earlier before⟩, exit,
      ended⟩
    exact List.mem_map_of_mem (List.mem_range.mpr (Nat.mod_lt _ (by omega)))
  case sound =>
    rintro sweep rfl agents agent next node
    constructor
    · intro failed
      obtain (⟨⟨⟩⟩ | ⟨tick, ⟨⟩, -⟩) | ⟨invalid, ⟨⟩⟩ := built.cause_of_runPoint failed
    · intro failed
      obtain (⟨⟨⟩⟩ | ⟨tick, ⟨⟩, -⟩) | ⟨invalid, ⟨⟩⟩ := built.cause_of_runPoint failed

/-- A track of six links, on which flow becomes permanent when a trip has begun its second round. -/
theorem circling_legal_of_six :
    ∃ (track : TestTrack Rat) (queries : Nat), TestTrack.build { subdivision := 2 } = .ok track ∧
      track.ring.walk track.ring.home (fun query => { flowPermanent := decide (9 ≤ query) }) 9 =
        some ⟨2⟩ ∧
      0 < queries ∧ queries ≤ 6 ∧
      track.ring.walk ⟨2⟩ (fun _ => { flowPermanent := true }) queries = some track.ring.exit ∧
      track.ring.walk ⟨2⟩ (fun _ => { flowPermanent := true }) (queries + 1) = none ∧
      track.network.isSuccessor? track.ring.home ⟨0⟩ = some true := by
  have made : ((TestTrack.build { subdivision := 2 } : Except (SweepError Rat) _).toOption.map
      fun track => (track.ring.loop, track.ring.next? track.ring.home {})) =
        some ([⟨0⟩, ⟨1⟩, ⟨2⟩, ⟨3⟩, ⟨4⟩, ⟨5⟩], some ⟨0⟩) := by decide +kernel
  simp only [Option.map_eq_some_iff, Attempt.toOption_eq_some, Prod.mk.injEq] at made
  obtain ⟨track, done, loop, first⟩ := made
  obtain ⟨legal, -, circles, leaves, -⟩ := circling_legal done
  obtain ⟨link, here, walked⟩ := circles (fun query => { flowPermanent := decide (9 ≤ query) }) 8
    fun earlier before => decide_eq_false (by omega)
  rw [loop] at here
  cases here
  obtain ⟨queries, within, entered, -, exit, ended⟩ := leaves (fun _ => { flowPermanent := true })
    (fun _ => rfl) ⟨2⟩ (by rw [loop]; decide)
  exact ⟨track, queries, done, walked, entered, within, exit, ended,
    (legal (fun _ => {}) 0 _ rfl).2.1 _ first⟩

end TestTrack

end MixedTraffic
