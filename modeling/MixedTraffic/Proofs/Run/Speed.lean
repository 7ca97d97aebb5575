import MixedTraffic.Proofs.Run.Conditions
import MixedTraffic.Proofs.Run.Stream
import MixedTraffic.Proofs.Road.Meter

namespace MixedTraffic

/-! Who needs less time for a link than somebody else is faster, as long as the free speed of the
link stays the same. -/

theorem Quantity.ceilNat_le_ceilNat {x y : Rat} (less : x ≤ y) : ceilNat x ≤ ceilNat y := by
  apply Int.toNat_le_toNat
  apply Rat.ceil_le_iff.mpr
  exact less.trans Rat.le_ceil

namespace Link

variable {link : Link Rat} {tickSecs : Nat} {slower faster : Rat}

theorem travelTicks_le_travelTicks (tickSecs : Nat) (length : 0 ≤ link.length)
    (free : 0 < link.freeSpeed) (slow : 0 < slower) (less : slower ≤ faster) :
    link.travelTicks tickSecs faster ≤ link.travelTicks tickSecs slower := by
  have speeds :
      Quantity.smaller link.freeSpeed slower ≤ Quantity.smaller link.freeSpeed faster := by
    rw [Quantity.smaller_eq_min, Quantity.smaller_eq_min]
    exact min_le_min_left _ less
  have moves : 0 < Quantity.smaller link.freeSpeed slower := by
    rw [Quantity.smaller_eq_min]
    exact lt_min free slow
  have secs : link.freeTravelSecs faster ≤ link.freeTravelSecs slower :=
    div_le_div_of_nonneg_left length moves speeds
  have ticks : link.freeTravelSecs faster / (tickSecs : Rat) ≤
      link.freeTravelSecs slower / (tickSecs : Rat) :=
    div_le_div_of_nonneg_right secs (Nat.cast_nonneg _)
  exact max_le_max_right _ (Quantity.ceilNat_le_ceilNat (sub_le_sub_right ticks _))

theorem lt_of_travelTicks_lt (length : 0 ≤ link.length) (free : 0 < link.freeSpeed)
    (moves : 0 < faster)
    (sooner : link.travelTicks tickSecs faster < link.travelTicks tickSecs slower) :
    slower < faster := by
  by_contra less
  exact sooner.not_ge (travelTicks_le_travelTicks tickSecs length free moves (not_lt.mp less))

end Link

variable {α : Type}

theorem NetworkChange.pace_foldl_amend {changes : List (NetworkChange α)}
    (steady : ∀ change ∈ changes, change.freeSpeed = none) (key : LinkId) (link : Link α)
    (tickSecs : Nat) :
    (changes.foldl (amend key) link).pace tickSecs = link.pace tickSecs := by
  induction changes generalizing link with
  | nil => rfl
  | cons change rest ih =>
      obtain ⟨first, others⟩ := List.forall_mem_cons.mp steady
      rw [List.foldl_cons, ih others, amend]
      split
      · rw [revise, Link.pace, first]
        rfl
      · rfl

variable [Quantity α]

theorem Link.travelTicks_of_pace {link link' : Link α} {tickSecs : Nat}
    (same : link'.pace tickSecs = link.pace tickSecs) (maxSpeed : α) :
    link'.travelTicks tickSecs maxSpeed = link.travelTicks tickSecs maxSpeed := by
  simp only [pace, Prod.mk.injEq] at same
  simp only [travelTicks, freeTravelSecs, same]

namespace World

variable {start world : World α} {history : List (Interval α)} {interval : Interval α}
  {first : Network α} {changes : List (NetworkChange α)} {table : ModeTable α} {tickSecs : Nat}

theorem Amended.pace_eq (amended : world.Amended first changes table tickSecs)
    (steady : ∀ change ∈ changes, change.freeSpeed = none) (key : LinkId) :
    (world.network.link? key).map (Link.pace tickSecs) =
      (first.link? key).map (Link.pace tickSecs) := by
  obtain ⟨made, split, -, links⟩ := amended.made
  have among : ∀ change ∈ made, change.freeSpeed = none := by
    intro change member
    apply steady
    rw [← List.mem_mergeSort, ← SimSetup.sortChanges, split]
    exact List.mem_append_left _ member
  rw [links, Option.map_map]
  exact congrArg (Option.map · _) (funext fun link =>
    NetworkChange.pace_foldl_amend among key link tickSecs)

theorem Run.exists_next (run : Run start history world) (member : interval ∈ history) :
    ∃ earlier, Run start earlier interval.next := by
  induction run with
  | start => cases member
  | step before simulated ih =>
      obtain earlier | last := List.mem_append.mp member
      · exact ih earlier
      · rw [List.mem_singleton.mp last]
        exact ⟨_, .step before simulated⟩

theorem Run.takes_of_steady (run : Run start history world)
    (amended : start.Amended first changes table tickSecs)
    (steady : ∀ change ∈ changes, change.freeSpeed = none) {mode : ModeId} {leg : Leg} {ticks : Nat}
    (takes : leg.Takes tickSecs table history mode ticks) :
    ∃ link type, first.link? leg.link = some link ∧ table.get? mode = some type ∧
      ticks = link.travelTicks tickSecs type.maxSpeed := by
  obtain ⟨interval, member, -, attributes, type, found, listed, rfl⟩ := takes
  obtain ⟨earlier, before⟩ := run.exists_next member
  have same := (amended.run before).pace_eq steady leg.link
  change (interval.world.network.link? leg.link).map _ = _ at same
  rw [found, Option.map_some, eq_comm, Option.map_eq_some_iff] at same
  obtain ⟨link, known, pace⟩ := same
  exact ⟨link, type, known, listed, Link.travelTicks_of_pace pace.symm _⟩

end World

/-- A vehicle that came no earlier onto a link than another, and may leave it earlier, is faster. -/
theorem Sim.Run.faster_of_sooner {σ : Type} {setup : SimSetup Rat σ} {start sim : Sim Rat σ}
    {history : List (Interval Rat)} {roads : NetworkDraft Rat}
    (connected : roads.build = .ok setup.network) (built : setup.build = .ok start)
    (fresh : setup.population.Fresh) (steady : ∀ change ∈ setup.changes, change.freeSpeed = none)
    (run : Sim.Run start history sim) {link : LinkId} {vehicle other : Vehicle Rat}
    (member : (link, vehicle) ∈ sim.world.roads.fleet)
    (member' : (link, other) ∈ sim.world.roads.fleet)
    (later : other.entered ≤ vehicle.entered) (sooner : vehicle.exitTick < other.exitTick) :
    ∃ fast slow, setup.table.get? vehicle.mode = some fast ∧
      setup.table.get? other.mode = some slow ∧ slow.maxSpeed < fast.maxSpeed := by
  obtain ⟨journeys, chronicled⟩ := (World.Chronicled.of_build built fresh).run
    (Network.sound_of_build connected) run.world
  have amended := World.Amended.of_build connected built
  obtain ⟨ticks, takes, exits⟩ := chronicled.traffic.timed.stays member
  obtain ⟨ticks', takes', exits'⟩ := chronicled.traffic.timed.stays member'
  obtain ⟨attributes, fast, known, listed, rfl⟩ := run.world.takes_of_steady amended steady takes
  obtain ⟨again, slow, known', listed', rfl⟩ := run.world.takes_of_steady amended steady takes'
  cases known.symm.trans known'
  refine ⟨fast, slow, listed, listed', ?_⟩
  have less : attributes.travelTicks setup.config.tickSecs fast.maxSpeed <
      attributes.travelTicks setup.config.tickSecs slow.maxSpeed := by
    rw [exits, exits'] at sooner
    exact Nat.lt_of_add_lt_add_left (sooner.trans_le (Nat.add_le_add_right later _))
  have positive := Network.isPositive_of_build connected known
  have length := positive ("length", attributes.length) (by simp [NetworkDraft.attributes])
  have free := positive ("free speed", attributes.freeSpeed) (by simp [NetworkDraft.attributes])
  exact Link.lt_of_travelTicks_lt (Quantity.pos_of_isPositive length).le
    (Quantity.pos_of_isPositive free) (ModeTable.positive listed).2 less

end MixedTraffic
