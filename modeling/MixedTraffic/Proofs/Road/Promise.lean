import Mathlib.Logic.Function.Basic
import MixedTraffic.Proofs.Road.Plan
import MixedTraffic.Proofs.Road.Storage

namespace MixedTraffic

/-! Room that a node has promised to the vehicles of its moves, while it decides, and the room
that is there when they come. In between, other nodes take vehicles off the link, and a
vehicle for which seepage was promised may find regular room after all. -/

/-- The sizes of vehicles, each with the answer whether such a vehicle may seep. -/
abbrev Sizes := Rat → Bool → Prop

/-- That no vehicle that may seep is larger than one that may not. -/
def Sizes.Narrow (sizes : Sizes) : Prop :=
  ∀ {wide pcu}, sizes wide true → sizes pcu false → wide ≤ pcu

namespace Room

/-- That a room keeps all that is promised of another. Either it is as large, or a vehicle has
been given regular room in place of the seepage promised to it; then so much seepage is left
over that all of the regular room promised may be made up for, which only vehicles that may
seep still fit into. -/
inductive Honours (sizes : Sizes) (live promised : Room Rat) : Prop where
  | larger (regular : promised.regular ≤ live.regular)
      (seepage : promised.seepage ≤ live.seepage)
  | shifted
      (spare : promised.seepage + promised.regular + Quantity.slack < live.seepage)
      (closed : ∀ pcu, sizes pcu false → promised.regular + Quantity.slack < pcu)

variable {sizes : Sizes} {live live' promised promised' : Room Rat} {pcu : Rat}
  {maySeep seeping : Bool}

theorem Honours.grow (honours : live.Honours sizes promised)
    (regular : live.regular ≤ live'.regular) (seepage : live.seepage ≤ live'.seepage) :
    live'.Honours sizes promised := by
  cases honours with
  | larger regular' seepage' =>
      exact .larger (regular'.trans regular) (seepage'.trans seepage)
  | shifted spare closed => exact .shifted (spare.trans_le seepage) closed

def Within (room : Room Rat) : Prop :=
  -Quantity.slack ≤ room.regular ∧ -Quantity.slack ≤ room.seepage

theorem Within.take? (within : promised.Within)
    (taken : promised.take? pcu maySeep = some (seeping, promised')) : promised'.Within := by
  obtain ⟨regular, seepage⟩ := within
  obtain ⟨-, fits, rfl⟩ | ⟨-, -, -, fits, rfl⟩ := take?_eq_some.mp taken
  · refine ⟨?_, seepage⟩
    change -Quantity.slack ≤ promised.regular - pcu
    linarith
  · refine ⟨regular, ?_⟩
    change -Quantity.slack ≤ promised.seepage - pcu
    linarith

/-- Where a vehicle finds regular room, the others keep what was promised to them. -/
theorem Honours.take_regular (honours : live.Honours sizes promised) (narrow : sizes.Narrow)
    (size : sizes pcu maySeep) (positive : 0 < pcu) (within : promised.Within)
    (taken : promised.take? pcu maySeep = some (seeping, promised')) :
    ({ live with regular := live.regular - pcu } : Room Rat).Honours sizes promised' := by
  obtain ⟨regular, -⟩ := within
  obtain ⟨rfl, enough, rfl⟩ | ⟨rfl, wide, rfl, enough, rfl⟩ := take?_eq_some.mp taken
  · cases honours with
    | larger regular seepage => exact .larger (sub_le_sub_right regular pcu) seepage
    | shifted spare closed =>
        refine .shifted ?_ fun other size' => ?_
        · change promised.seepage + (promised.regular - pcu) + Quantity.slack < live.seepage
          linarith
        · have beyond := closed other size'
          change promised.regular - pcu + Quantity.slack < other
          linarith
  · -- It was to seep, so no vehicle that may not seep would have fitted any more.
    refine .shifted ?_ fun other size' => wide.trans_le (narrow size size')
    change promised.seepage - pcu + promised.regular + Quantity.slack < live.seepage
    cases honours with
    | larger _ seepage => linarith
    | shifted spare => linarith

/-- Where it has to seep, it finds seepage, and so do the others. -/
theorem Honours.take_seepage (honours : live.Honours sizes promised)
    (size : sizes pcu maySeep) (positive : 0 < pcu) (within : promised.Within)
    (wide : live.regular + Quantity.slack < pcu)
    (taken : promised.take? pcu maySeep = some (seeping, promised')) :
    maySeep = true ∧ pcu ≤ live.seepage + Quantity.slack ∧
      ({ live with seepage := live.seepage - pcu } : Room Rat).Honours sizes promised' := by
  have slack := Quantity.slack_pos
  obtain ⟨regular, seepage⟩ := within
  obtain ⟨rfl, enough, rfl⟩ | ⟨rfl, -, rfl, enough, rfl⟩ := take?_eq_some.mp taken
  · cases honours with
    | larger regular _ => linarith
    | shifted spare closed =>
        have seeps : maySeep = true := by
          by_contra stays
          rw [Bool.not_eq_true] at stays
          rw [stays] at size
          linarith [closed pcu size]
        refine ⟨seeps, by linarith, .shifted ?_ fun other size' => ?_⟩
        · change promised.seepage + (promised.regular - pcu) + Quantity.slack <
            live.seepage - pcu
          linarith
        · have beyond := closed other size'
          change promised.regular - pcu + Quantity.slack < other
          linarith
  · cases honours with
    | larger regular seepage =>
        exact ⟨rfl, by linarith, .larger regular (sub_le_sub_right seepage pcu)⟩
    | shifted spare closed =>
        refine ⟨rfl, by linarith, .shifted ?_ closed⟩
        change promised.seepage - pcu + promised.regular + Quantity.slack < live.seepage - pcu
        linarith

/-- Who was promised room finds room, and the promises to the others still hold. -/
theorem Honours.take? (honours : live.Honours sizes promised) (narrow : sizes.Narrow)
    (size : sizes pcu maySeep) (positive : 0 < pcu) (within : promised.Within)
    (taken : promised.take? pcu maySeep = some (seeping, promised')) :
    ∃ seeping' live', live.take? pcu maySeep = some (seeping', live') ∧
      live'.Honours sizes promised' := by
  by_cases fits : pcu ≤ live.regular + Quantity.slack
  · exact ⟨false, _, take?_eq_some.mpr (.inl ⟨rfl, fits, rfl⟩),
      honours.take_regular narrow size positive within taken⟩
  · have wide := lt_of_not_ge fits
    obtain ⟨rfl, enough, kept⟩ := honours.take_seepage size positive within wide taken
    exact ⟨true, _, take?_eq_some.mpr (.inr ⟨rfl, wide, rfl, enough, rfl⟩), kept⟩

end Room

namespace LinkQueue

variable {queue : LinkQueue Rat} {vehicle : Vehicle Rat} {maySeep seeping : Bool}
  {room : Room Rat}

theorem room_holding (taken : queue.room.take? vehicle.pcu maySeep = some (seeping, room))
    (now : Tick) : (queue.holding (queue.stamped vehicle now seeping)).room = room := by
  obtain ⟨rfl, -, rfl⟩ | ⟨rfl, -, -, -, rfl⟩ := Room.take?_eq_some.mp taken
  · simp only [LinkQueue.room, holding, stamped_seeping, stamped_pcu, sub_add_eq_sub_sub,
      Bool.false_eq_true, if_false]
  · simp only [LinkQueue.room, holding, stamped_seeping, stamped_pcu, sub_add_eq_sub_sub,
      if_true]

theorem Accounted.room_releasing {seeps : ModeId → Bool} (accounted : queue.Accounted seeps)
    (member : vehicle ∈ queue.vehicles) (movesOn : Bool) :
    queue.room.regular ≤ (queue.releasing vehicle movesOn).room.regular ∧
      queue.room.seepage ≤ (queue.releasing vehicle movesOn).room.seepage := by
  have positive := accounted.positive vehicle member
  have clamp := accounted.release_eq member
  simp only [LinkQueue.room, LinkQueue.releasing]
  cases seeping : vehicle.seeping with
  | false =>
      simp only [seeping, Bool.false_eq_true, if_false] at clamp ⊢
      rw [clamp]
      constructor <;> linarith
  | true =>
      simp only [seeping, if_true] at clamp ⊢
      rw [clamp]
      constructor <;> linarith

theorem Accounted.room_within {seeps : ModeId → Bool} (accounted : queue.Accounted seeps) :
    queue.room.Within := by
  have within := accounted.within
  have seepWithin := accounted.seepWithin
  constructor
  · change -Quantity.slack ≤ queue.storage - queue.occupied
    linarith
  · change -Quantity.slack ≤ queue.seepStorage - queue.seepOccupied
    linarith

end LinkQueue

abbrev FreeRoom := LinkId → Option (Room Rat)

namespace Roads

/-- That the vehicles of some moves find room, one after the other, and what they leave. -/
inductive Grants (roads : Roads Rat) : FreeRoom → List Move → FreeRoom → Prop where
  | nil {free : FreeRoom} : Grants roads free [] free
  | stay {free free' : FreeRoom} {move : Move} {rest : List Move}
      (stays : move.target? = none) (later : Grants roads free rest free') :
      Grants roads free (move :: rest) free'
  | enter {free free' : FreeRoom} {move : Move} {rest : List Move} {target : LinkId}
      {vehicle : Vehicle Rat} {room room' : Room Rat} {seeping : Bool}
      (goes : move.target? = some target) (aboard : (move.source, vehicle) ∈ roads.fleet)
      (own : vehicle.agent = move.agent) (known : free target = some room)
      (taken : room.take? vehicle.pcu (roads.seeps vehicle.mode) = some (seeping, room'))
      (later : Grants roads (Function.update free target (some room')) rest free') :
      Grants roads free (move :: rest) free'

namespace Grants

variable {roads : Roads Rat} {free middle free' wide : FreeRoom} {moves others : List Move}

theorem append (first : roads.Grants free moves middle)
    (second : roads.Grants middle others free') : roads.Grants free (moves ++ others) free' := by
  induction first with
  | nil => exact second
  | stay stays _ ih => exact .stay stays (ih second)
  | enter goes aboard own known taken _ ih =>
      exact .enter goes aboard own known taken (ih second)

theorem widen (grants : roads.Grants free moves free')
    (agrees : ∀ {link room}, free link = some room → wide link = some room) :
    ∃ wide', roads.Grants wide moves wide' ∧
      ∀ link, free link = none → wide' link = wide link := by
  induction grants generalizing wide with
  | nil => exact ⟨wide, .nil, fun _ _ => rfl⟩
  | stay stays _ ih =>
      obtain ⟨wide', granted, same⟩ := ih agrees
      exact ⟨wide', .stay stays granted, same⟩
  | @enter free _ _ _ target vehicle room room' _ goes aboard own known taken _ ih =>
      have agrees' {link : LinkId} {other : Room Rat}
          (found : Function.update free target (some room') link = some other) :
          Function.update wide target (some room') link = some other := by
        by_cases same : link = target
        · subst same
          rw [Function.update_self] at found ⊢
          exact found
        · rw [Function.update_of_ne same] at found ⊢
          exact agrees found
      obtain ⟨wide', granted, same⟩ := ih agrees'
      refine ⟨wide', .enter goes aboard own (agrees known) taken granted, ?_⟩
      intro link unknown
      have different : link ≠ target := by
        rintro rfl
        rw [known] at unknown
        cases unknown
      rw [same link (by rw [Function.update_of_ne different, unknown]),
        Function.update_of_ne different]

end Grants

section Planned

variable {roads : Roads Rat} {junction : Junction Rat} {queue : LinkQueue Rat}
  {rooms rooms' : Rooms Rat} {moves : List Move}

theorem lookup_set_eq_update {link : LinkId} {old : Room Rat}
    (present : rooms.lookup link = some old) (room : Room Rat) :
    (fun key => (rooms.set link room).lookup key) =
      Function.update (fun key => rooms.lookup key) link (some room) := by
  funext other
  rw [Rooms.lookup_set present]
  by_cases same : other = link <;> simp [same]

theorem Chooses.grants {vehicles : List (Vehicle Rat)}
    (chooses : roads.Chooses junction queue rooms vehicles moves rooms')
    (aboard : ∀ vehicle ∈ vehicles, (queue.link, vehicle) ∈ roads.fleet) :
    roads.Grants (fun key => rooms.lookup key) moves fun key => rooms'.lookup key := by
  induction chooses with
  | done => exact .nil
  | pass _ ih => exact ih fun vehicle listed => aboard vehicle (List.mem_cons_of_mem _ listed)
  | arrive _ _ _ ih =>
      exact .stay rfl (ih fun vehicle listed => aboard vehicle (List.mem_cons_of_mem _ listed))
  | transfer _ _ free taken _ ih =>
      have later := ih fun vehicle listed => aboard vehicle (List.mem_cons_of_mem _ listed)
      rw [lookup_set_eq_update free] at later
      exact .enter rfl (aboard _ List.mem_cons_self) rfl free taken later
  | stuck => exact .stay rfl .nil

theorem ChoosesAll.grants {links : List LinkId}
    (chooses : roads.ChoosesAll junction rooms links moves rooms')
    (labelled : roads.Labelled) :
    roads.Grants (fun key => rooms.lookup key) moves fun key => rooms'.lookup key := by
  induction chooses with
  | nil => exact .nil
  | cons present chosen _ ih =>
      refine (chosen.grants fun vehicle listed => ?_).append ih
      rw [labelled _ _ present]
      exact (mem_fleet labelled).mpr ⟨_, present, listed⟩

end Planned

/-- Every link has the room that is promised of it. -/
def Honours (roads : Roads Rat) (sizes : Sizes) (free : FreeRoom) : Prop :=
  ∀ link queue room, roads.queue? link = some queue → free link = some room →
    queue.room.Honours sizes room ∧ room.Within

namespace Honours

variable {roads roads' : Roads Rat} {sizes : Sizes} {free : FreeRoom} {link : LinkId}
  {queue : LinkQueue Rat} {vehicle : Vehicle Rat}

theorem of_like (honours : roads.Honours sizes free) (like : roads'.Like roads) :
    roads'.Honours sizes free := by
  intro link queue' room found known
  obtain ⟨queue, present, same⟩ := like.queues link queue' found
  have storage : queue'.storage = queue.storage := congrArg Site.storage same.site
  have seepStorage : queue'.seepStorage = queue.seepStorage :=
    congrArg Site.seepStorage same.site
  have room : queue'.room = queue.room := by
    simp only [LinkQueue.room, storage, seepStorage, same.occupied, same.seepOccupied]
  rw [room]
  exact honours _ _ _ present known

theorem releasing (honours : roads.Honours sizes free)
    (present : roads.queue? link = some queue) {seeps : ModeId → Bool}
    (accounted : queue.Accounted seeps) (member : vehicle ∈ queue.vehicles) (movesOn : Bool) :
    (roads.setQueue link (queue.releasing vehicle movesOn)).Honours sizes free := by
  intro other queue' room found known
  rw [queue?_setQueue present] at found
  split at found
  · rename_i same
    cases found
    obtain ⟨honoured, within⟩ := honours _ _ _ present (same ▸ known)
    obtain ⟨regular, seepage⟩ := accounted.room_releasing member movesOn
    exact ⟨honoured.grow regular seepage, within⟩
  · exact honours _ _ _ found known

/-- A vehicle for which room was promised is let onto the link. -/
theorem holding (honours : roads.Honours sizes free) (narrow : sizes.Narrow)
    (present : roads.queue? link = some queue) {promised promised' : Room Rat}
    {maySeep seeping : Bool} (known : free link = some promised)
    (size : sizes vehicle.pcu maySeep) (positive : 0 < vehicle.pcu)
    (taken : promised.take? vehicle.pcu maySeep = some (seeping, promised')) (now : Tick) :
    ∃ seeping' room, queue.room.take? vehicle.pcu maySeep = some (seeping', room) ∧
      (roads.setQueue link (queue.holding (queue.stamped vehicle now seeping'))).Honours sizes
        (Function.update free link (some promised')) := by
  obtain ⟨honoured, within⟩ := honours _ _ _ present known
  obtain ⟨seeping', room, finds, kept⟩ := honoured.take? narrow size positive within taken
  refine ⟨seeping', room, finds, ?_⟩
  intro other queue' room' found known'
  rw [queue?_setQueue present] at found
  by_cases same : other = link
  · subst same
    rw [if_pos rfl] at found
    rw [Function.update_self] at known'
    cases found
    cases known'
    rw [LinkQueue.room_holding finds]
    exact ⟨kept, within.take? taken⟩
  · rw [if_neg same] at found
    rw [Function.update_of_ne same] at known'
    exact honours _ _ _ found known'

end Honours

end Roads

end MixedTraffic
