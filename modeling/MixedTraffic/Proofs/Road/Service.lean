import Mathlib.Algebra.GroupWithZero.Nat
import MixedTraffic.Proofs.Attempt
import MixedTraffic.Road.Decision

namespace MixedTraffic

/-! How a node serves its inbound links, with all that its decision depends on: the state of
the accumulator, who is held up behind whom, and who is turned away. -/

namespace Move

def agent : Move → AgentId
  | transfer _ agent _ | arrive _ agent | stuck _ agent => agent

def source : Move → LinkId
  | transfer source _ _ | arrive source _ | stuck source _ => source

def target? : Move → Option LinkId
  | transfer _ _ target => some target
  | _ => none

/-- Whether the vehicle leaves its link by itself and is not just taken off it. -/
def movesOn : Move → Bool
  | stuck .. => false
  | _ => true

end Move

namespace Rooms

variable {α : Type} {rooms : Rooms α} {link other : LinkId}

theorem lookup_set_of_ne (different : other ≠ link) (room : Room α) :
    (rooms.set link room).lookup other = rooms.lookup other := by
  induction rooms with
  | nil => rfl
  | cons entry rest ih =>
      obtain ⟨key, free⟩ := entry
      change List.lookup other ((if key = link then (link, room) else (key, free)) ::
        Rooms.set rest link room) = _
      by_cases same : key = link
      · subst same
        simp [List.lookup_cons, beq_eq_false_iff_ne.mpr different, ih]
      · simp [List.lookup_cons, same, ih]

theorem lookup_set_self {old : Room α} (present : rooms.lookup link = some old)
    (room : Room α) : (rooms.set link room).lookup link = some room := by
  induction rooms with
  | nil => cases present
  | cons entry rest ih =>
      obtain ⟨key, free⟩ := entry
      change List.lookup link ((if key = link then (link, room) else (key, free)) ::
        Rooms.set rest link room) = _
      by_cases same : key = link
      · simp [same]
      · have apart : (link == key) = false := beq_eq_false_iff_ne.mpr (Ne.symm same)
        rw [List.lookup_cons, apart] at present
        simp [same, apart, List.lookup_cons, ih present]

theorem lookup_set {old : Room α} (present : rooms.lookup link = some old)
    (room : Room α) (other : LinkId) :
    (rooms.set link room).lookup other =
      if other = link then some room else rooms.lookup other := by
  split
  · rename_i same
    rw [same, lookup_set_self present]
  · rename_i different
    exact lookup_set_of_ne different room

theorem isSome_lookup_set {old : Room α} (present : rooms.lookup link = some old)
    (room : Room α) (other : LinkId) :
    ((rooms.set link room).lookup other).isSome = (rooms.lookup other).isSome := by
  rw [lookup_set present]
  split
  · rename_i same
    rw [same, present]
    rfl
  · rfl

end Rooms

namespace Roads

variable {α : Type} {roads : Roads α}

theorem anySeeps_of_seeps {mode : ModeId} (seeps : roads.seeps mode = true) :
    roads.anySeeps = true := by
  obtain flagged | ⟨-, absurd⟩ := Option.getD_eq_iff.mp seeps
  · exact Array.any_eq_true'.mpr ⟨true, Array.mem_of_getElem? flagged, rfl⟩
  · cases absurd

theorem anySeeps_eq_false (nobody : ∀ mode, roads.seeps mode = false) :
    roads.anySeeps = false := by
  refine Bool.eq_false_iff.mpr fun somebody => ?_
  obtain ⟨flag, listed, raised⟩ := Array.any_eq_true'.mp somebody
  obtain ⟨index, found⟩ := Array.getElem?_of_mem listed
  have stays : roads.seeps ⟨index⟩ = false := nobody ⟨index⟩
  rw [seeps, found, Option.getD_some] at stays
  cases raised.symm.trans stays

variable {queue : LinkQueue α} {vehicle : Vehicle α} {vehicles rest refused : List (Vehicle α)}
  {plan : LinkPlan}

/-- How the service of a link ends: with all in their place who have not moved on, with the
foremost of them taken off the link, or with the foremost of them turned away and nobody but
seeping vehicles leaving past it. -/
inductive Ends (roads : Roads α) (now : Tick) (queue : LinkQueue α) :
    List (Vehicle α) → List Move → Option AgentId → List (Vehicle α) → Prop where
  | quiet {rest : List (Vehicle α)} : Ends roads now queue rest [] none []
  | stuck {vehicle : Vehicle α} {behind : List (Vehicle α)} (ready : vehicle.exitTick ≤ now)
      (overdue : roads.isStuck queue vehicle.agent now = true) :
      Ends roads now queue (vehicle :: behind) [.stuck queue.link vehicle.agent] none [vehicle]
  | held {vehicle : Vehicle α} {behind refused : List (Vehicle α)} {moves : List Move}
      (ready : vehicle.exitTick ≤ now)
      (patient : roads.isStuck queue vehicle.agent now = false)
      (seeping : ∀ move ∈ moves, move.movesOn = true ∧
        ∃ other ∈ behind, other.agent = move.agent ∧ roads.seeps other.mode = true)
      (others : ∀ other ∈ refused, other ∈ behind) :
      Ends roads now queue (vehicle :: behind) moves (some vehicle.agent) (vehicle :: refused)

/-- A service split where it comes to its end: up to there the vehicles move on from the front
of the queue. -/
structure Front (roads : Roads α) (now : Tick) (queue : LinkQueue α)
    (vehicles : List (Vehicle α)) (plan : LinkPlan) (refused gone rest : List (Vehicle α))
    (leading trailing : List Move) : Prop where
  vehicles : vehicles = gone ++ rest
  moves : plan.moves = leading ++ trailing
  agents : leading.map Move.agent = gone.map (·.agent)
  on : ∀ move ∈ leading, move.movesOn = true
  ends : roads.Ends now queue rest trailing plan.blocked refused

theorem Front.cons {now : Tick} {gone : List (Vehicle α)} {leading trailing : List Move}
    (front : roads.Front now queue vehicles plan refused gone rest leading trailing)
    {move : Move} (own : move.agent = vehicle.agent) (on : move.movesOn = true) :
    roads.Front now queue (vehicle :: vehicles) (plan.move move) refused (vehicle :: gone) rest
      (move :: leading) trailing where
  vehicles := by rw [front.vehicles, List.cons_append]
  moves := by rw [LinkPlan.move, front.moves, List.cons_append]
  agents := by rw [List.map_cons, List.map_cons, own, front.agents]
  on := List.forall_mem_cons.mpr ⟨on, front.on⟩
  ends := front.ends

variable [Quantity α] {junction : Junction α} {accumulator : α} {held : Bool}
  {rooms rooms' : Rooms α} {requests : List (Request α)}

/-- That the driver of a vehicle is asked where to go. -/
structure Calls (roads : Roads α) (junction : Junction α) (accumulator : α) (held : Bool)
    (vehicle : Vehicle α) : Prop where
  ready : vehicle.exitTick ≤ junction.context.now
  passes : held = true → roads.seeps vehicle.mode = true
  carried : ¬accumulator + Quantity.slack < vehicle.pcu

theorem Calls.foremost (ready : vehicle.exitTick ≤ junction.context.now)
    (carried : ¬accumulator + Quantity.slack < vehicle.pcu) :
    roads.Calls junction accumulator false vehicle :=
  ⟨ready, fun absurd => (Bool.false_ne_true absurd).elim, carried⟩

/-- That a vehicle is turned away by a full downstream link. -/
structure TurnsAway (roads : Roads α) (junction : Junction α) (source : LinkId)
    (rooms : Rooms α) (vehicle : Vehicle α) (next : LinkId) (room : Room α) : Prop where
  asked : junction.ask source vehicle = .ok (some next)
  free : rooms.lookup next = some room
  full : room.take? vehicle.pcu (roads.seeps vehicle.mode) = none

/-- What is planned for some vehicles of a queue, in their order, and which of them are turned
away by a full downstream link. `held` says whether one ahead of them has been. -/
inductive Serves (roads : Roads α) (junction : Junction α) (queue : LinkQueue α) :
    α → Bool → Rooms α → List (Vehicle α) → LinkPlan → List (Vehicle α) → Rooms α → Prop where
  | done {accumulator : α} {held : Bool} {rooms : Rooms α} :
      Serves roads junction queue accumulator held rooms [] {} [] rooms
  | early {accumulator : α} {held : Bool} {rooms : Rooms α} {vehicle : Vehicle α}
      {rest : List (Vehicle α)} (early : junction.context.now < vehicle.exitTick) :
      Serves roads junction queue accumulator held rooms (vehicle :: rest) {} [] rooms
  | behind {accumulator : α} {rooms rooms' : Rooms α} {vehicle : Vehicle α}
      {rest refused : List (Vehicle α)} {plan : LinkPlan}
      (ready : vehicle.exitTick ≤ junction.context.now)
      (stays : roads.seeps vehicle.mode = false)
      (later : Serves roads junction queue accumulator true rooms rest plan refused rooms') :
      Serves roads junction queue accumulator true rooms (vehicle :: rest) plan refused rooms'
  | dry {accumulator : α} {held : Bool} {rooms : Rooms α} {vehicle : Vehicle α}
      {rest : List (Vehicle α)} (ready : vehicle.exitTick ≤ junction.context.now)
      (passes : held = true → roads.seeps vehicle.mode = true)
      (dry : accumulator + Quantity.slack < vehicle.pcu) :
      Serves roads junction queue accumulator held rooms (vehicle :: rest) {} [] rooms
  | arrive {accumulator : α} {held : Bool} {rooms rooms' : Rooms α} {vehicle : Vehicle α}
      {rest refused : List (Vehicle α)} {plan : LinkPlan}
      (calls : roads.Calls junction accumulator held vehicle)
      (asked : junction.ask queue.link vehicle = .ok none)
      (later : Serves roads junction queue (accumulator - vehicle.pcu) held rooms rest plan
        refused rooms') :
      Serves roads junction queue accumulator held rooms (vehicle :: rest)
        (plan.move (.arrive queue.link vehicle.agent)) refused rooms'
  | transfer {accumulator : α} {held : Bool} {rooms rooms' : Rooms α} {vehicle : Vehicle α}
      {rest refused : List (Vehicle α)} {plan : LinkPlan} {next : LinkId} {room room' : Room α}
      {seeping : Bool} (calls : roads.Calls junction accumulator held vehicle)
      (asked : junction.ask queue.link vehicle = .ok (some next))
      (free : rooms.lookup next = some room)
      (taken : room.take? vehicle.pcu (roads.seeps vehicle.mode) = some (seeping, room'))
      (later : Serves roads junction queue (accumulator - vehicle.pcu) held
        (rooms.set next room') rest plan refused rooms') :
      Serves roads junction queue accumulator held rooms (vehicle :: rest)
        (plan.move (.transfer queue.link vehicle.agent next)) refused rooms'
  | stuck {accumulator : α} {rooms : Rooms α} {vehicle : Vehicle α} {rest : List (Vehicle α)}
      {next : LinkId} {room : Room α} (calls : roads.Calls junction accumulator false vehicle)
      (turned : roads.TurnsAway junction queue.link rooms vehicle next room)
      (overdue : roads.isStuck queue vehicle.agent junction.context.now = true) :
      Serves roads junction queue accumulator false rooms (vehicle :: rest)
        (LinkPlan.reject { moves := [.stuck queue.link vehicle.agent] }) [vehicle] rooms
  | last {accumulator : α} {rooms : Rooms α} {vehicle : Vehicle α} {rest : List (Vehicle α)}
      {next : LinkId} {room : Room α} (calls : roads.Calls junction accumulator false vehicle)
      (turned : roads.TurnsAway junction queue.link rooms vehicle next room)
      (patient : roads.isStuck queue vehicle.agent junction.context.now = false)
      (nobody : roads.anySeeps = false) :
      Serves roads junction queue accumulator false rooms (vehicle :: rest)
        { LinkPlan.reject {} with blocked := some vehicle.agent } [vehicle] rooms
  | first {accumulator : α} {rooms rooms' : Rooms α} {vehicle : Vehicle α}
      {rest refused : List (Vehicle α)} {plan : LinkPlan} {next : LinkId} {room : Room α}
      (calls : roads.Calls junction accumulator false vehicle)
      (turned : roads.TurnsAway junction queue.link rooms vehicle next room)
      (patient : roads.isStuck queue vehicle.agent junction.context.now = false)
      (somebody : roads.anySeeps = true)
      (later : Serves roads junction queue accumulator true rooms rest plan refused rooms') :
      Serves roads junction queue accumulator false rooms (vehicle :: rest)
        { plan.reject with blocked := some vehicle.agent } (vehicle :: refused) rooms'
  | again {accumulator : α} {rooms rooms' : Rooms α} {vehicle : Vehicle α}
      {rest refused : List (Vehicle α)} {plan : LinkPlan} {next : LinkId} {room : Room α}
      (calls : roads.Calls junction accumulator true vehicle)
      (turned : roads.TurnsAway junction queue.link rooms vehicle next room)
      (later : Serves roads junction queue accumulator true rooms rest plan refused rooms') :
      Serves roads junction queue accumulator true rooms (vehicle :: rest) plan.reject
        (vehicle :: refused) rooms'

theorem serves_of_early
    (early : ∀ vehicle ∈ vehicles.head?, junction.context.now < vehicle.exitTick) :
    roads.Serves junction queue accumulator held rooms vehicles {} [] rooms := by
  cases vehicles with
  | nil => exact .done
  | cons vehicle rest => exact .early (early vehicle rfl)

theorem exists_serves (heard : roads.hearVehicles junction queue accumulator held rooms
    vehicles = .ok (plan, requests, rooms')) :
    ∃ refused, roads.Serves junction queue accumulator held rooms vehicles plan refused
      rooms' := by
  induction vehicles generalizing accumulator held rooms rooms' plan requests with
  | nil =>
      cases heard
      exact ⟨[], .done⟩
  | cons vehicle rest ih =>
      unfold hearVehicles at heard
      dsimp only at heard
      split at heard
      · rename_i early
        cases heard
        exact ⟨[], .early early⟩
      rename_i ready
      replace ready := Nat.le_of_not_lt ready
      split at heard
      · rename_i behind
        obtain ⟨rfl, stays⟩ : held = true ∧ roads.seeps vehicle.mode = false := by
          simpa using behind
        obtain ⟨refused, later⟩ := ih heard
        exact ⟨refused, .behind ready stays later⟩
      rename_i through
      have passes : held = true → roads.seeps vehicle.mode = true := by simpa using through
      split at heard
      · rename_i dry
        cases heard
        exact ⟨[], .dry ready passes dry⟩
      rename_i carried
      have calls : roads.Calls junction accumulator held vehicle := ⟨ready, passes, carried⟩
      obtain ⟨answer, asked, heard⟩ := Attempt.bind_eq_ok.mp heard
      cases answer with
      | none =>
          simp only [Attempt.bind_eq_ok, Attempt.pure_eq_ok, Prod.exists,
            Prod.mk.injEq] at heard
          obtain ⟨_, _, _, others, rfl, rfl, rfl⟩ := heard
          obtain ⟨refused, later⟩ := ih others
          exact ⟨refused, .arrive calls asked later⟩
      | some next =>
          obtain ⟨room, free, heard⟩ := Attempt.bind_eq_ok.mp heard
          rw [Attempt.elim_eq_ok] at free
          split at heard
          · rename_i taken
            simp only [Attempt.bind_eq_ok, Attempt.pure_eq_ok, Prod.exists,
              Prod.mk.injEq] at heard
            obtain ⟨_, _, _, others, rfl, rfl, rfl⟩ := heard
            obtain ⟨refused, later⟩ := ih others
            exact ⟨refused, .transfer calls asked free taken later⟩
          · rename_i full
            have turned : roads.TurnsAway junction queue.link rooms vehicle next room :=
              ⟨asked, free, full⟩
            cases held with
            | false =>
                simp only [Bool.not_false, Bool.true_and] at heard
                split at heard
                · rename_i overdue
                  cases heard
                  exact ⟨_, .stuck calls turned overdue⟩
                · rename_i patient
                  rw [Bool.not_eq_true] at patient
                  split at heard
                  · rename_i somebody
                    obtain ⟨_, others, heard⟩ := Attempt.bind_eq_ok.mp heard
                    cases Attempt.pure_eq_ok.mp heard
                    obtain ⟨refused, later⟩ := ih others
                    exact ⟨_, .first calls turned patient somebody later⟩
                  · rename_i nobody
                    rw [Bool.not_eq_true] at nobody
                    cases heard
                    exact ⟨_, .last calls turned patient nobody⟩
            | true =>
                simp only [Bool.not_true, Bool.false_and, Bool.false_eq_true, if_false,
                  anySeeps_of_seeps (passes rfl), if_true] at heard
                obtain ⟨_, others, heard⟩ := Attempt.bind_eq_ok.mp heard
                cases Attempt.pure_eq_ok.mp heard
                obtain ⟨refused, later⟩ := ih others
                exact ⟨_, .again calls turned later⟩

namespace Serves

theorem behind_held (serves : roads.Serves junction queue accumulator held rooms vehicles plan
    refused rooms') (isHeld : held = true) :
    (∀ move ∈ plan.moves, move.movesOn = true ∧
      ∃ vehicle ∈ vehicles, vehicle.agent = move.agent ∧ roads.seeps vehicle.mode = true) ∧
    ∀ vehicle ∈ refused, vehicle ∈ vehicles := by
  have further {vehicle : Vehicle α} {rest : List (Vehicle α)} {move : Move}
      (seeping : move.movesOn = true ∧
        ∃ other ∈ rest, other.agent = move.agent ∧ roads.seeps other.mode = true) :
      move.movesOn = true ∧ ∃ other ∈ vehicle :: rest, other.agent = move.agent ∧
        roads.seeps other.mode = true := by
    obtain ⟨on, other, listed, same⟩ := seeping
    exact ⟨on, other, List.mem_cons_of_mem _ listed, same⟩
  induction serves with
  | done | early | dry => exact ⟨by simp, by simp⟩
  | stuck | last | first => cases isHeld
  | behind _ _ _ ih =>
      obtain ⟨moves, others⟩ := ih isHeld
      exact ⟨fun move listed => further (moves move listed),
        fun other turned => List.mem_cons_of_mem _ (others other turned)⟩
  | again _ _ _ ih =>
      obtain ⟨moves, others⟩ := ih isHeld
      refine ⟨fun move listed => further (moves move listed), List.forall_mem_cons.mpr
        ⟨List.mem_cons_self, fun other turned => List.mem_cons_of_mem _ (others other turned)⟩⟩
  | arrive calls _ _ ih | transfer calls _ _ _ _ ih =>
      obtain ⟨moves, others⟩ := ih isHeld
      refine ⟨List.forall_mem_cons.mpr
        ⟨⟨rfl, _, List.mem_cons_self, rfl, calls.passes isHeld⟩, fun move listed =>
          further (moves move listed)⟩, fun other turned =>
        List.mem_cons_of_mem _ (others other turned)⟩

end Serves

theorem Serves.front (serves : roads.Serves junction queue accumulator held rooms vehicles plan
    refused rooms') (free : held = false) :
    ∃ gone rest leading trailing, roads.Front junction.context.now queue vehicles plan refused
      gone rest leading trailing := by
  -- Nobody is held up until the service comes to its end, so that the induction stops there.
  induction serves with
  | done | early | dry => exact ⟨[], _, [], [], rfl, rfl, rfl, by simp, .quiet⟩
  | behind | again => cases free
  | stuck calls _ overdue =>
      exact ⟨[], _, [], _, rfl, rfl, rfl, by simp, .stuck calls.ready overdue⟩
  | @last _ _ vehicle rest _ _ calls _ patient =>
      refine ⟨[], vehicle :: rest, [], [], rfl, rfl, rfl, by simp, .held calls.ready patient ?_ ?_⟩
      · exact List.forall_mem_nil _
      · exact List.forall_mem_nil _
  | first calls _ patient _ later =>
      obtain ⟨moves, others⟩ := later.behind_held rfl
      exact ⟨[], _, [], _, rfl, rfl, rfl, by simp, .held calls.ready patient moves others⟩
  | arrive _ _ _ ih | transfer _ _ _ _ _ ih =>
      obtain ⟨gone, rest, leading, trailing, front⟩ := ih free
      exact ⟨_, rest, _, trailing, front.cons rfl rfl⟩

end Roads

end MixedTraffic
