import MixedTraffic.Proofs.Run.Shortage

namespace MixedTraffic

/-! Where no mode that may seep is larger than one that may not, every interval of every run
succeeds. -/

/-- That no mode that may seep is larger than one that may not. -/
def Dynamics.SeepsNarrow (dynamics : Dynamics Rat) (table : ModeTable Rat) : Prop :=
  ∀ ⦃mode other type type'⦄, table.get? mode = some type → table.get? other = some type' →
    dynamics.LetsSeep table mode → ¬dynamics.LetsSeep table other → type.pcu ≤ type'.pcu

def ModeTable.sizes (table : ModeTable Rat) (dynamics : Dynamics Rat) : Sizes :=
  fun pcu maySeep => ∃ mode type, table.get? mode = some type ∧ type.pcu = pcu ∧
    (maySeep = true ↔ dynamics.LetsSeep table mode)

theorem Dynamics.SeepsNarrow.narrow {dynamics : Dynamics Rat} {table : ModeTable Rat}
    (seepsNarrow : dynamics.SeepsNarrow table) : (table.sizes dynamics).Narrow := by
  intro wide pcu seeps stays
  obtain ⟨mode, type, found, rfl, seeps⟩ := seeps
  obtain ⟨other, type', found', rfl, stays⟩ := stays
  exact seepsNarrow found found' (seeps.mp rfl) (by simp [← stays])

namespace World

variable {world : World Rat} {tickSecs : Nat} {flowPermanent : Bool}

/-- An interval whose nodes have decided succeeds. -/
theorem Prepares.exists_interval {course : Course Rat} {sizes : Sizes}
    (prepares : world.Prepares flowPermanent tickSecs course)
    (accounted : course.midway.roads.Accounted) (narrow : sizes.Narrow)
    (sized : ∀ {link vehicle}, (link, vehicle) ∈ course.midway.roads.fleet →
      sizes vehicle.pcu (course.midway.roads.seeps vehicle.mode)) :
    ∃ interval, world.interval flowPermanent = .ok interval := by
  obtain ⟨pending, placed⟩ := prepares.placed
  obtain ⟨final, committed⟩ := exists_commit prepares.decided (.refl _) prepares.sound
    prepares.mirrors placed accounted narrow sized
  exact ⟨_, interval_eq_ok.mpr ⟨_, prepares.follows committed, rfl⟩⟩

end World

theorem Sim.Run.exists_step {σ : Type} {setup : SimSetup Rat σ} {start sim : Sim Rat σ}
    {history : List (Interval Rat)} (sensible : setup.Sensible)
    (built : setup.build = .ok start)
    (seepsNarrow : setup.dynamics.SeepsNarrow setup.table)
    (run : Sim.Run start history sim) (observer : Observer Rat σ) :
    ∃ stop sim', sim.step observer = .ok (stop, sim') := by
  obtain ⟨journeys, poised⟩ := World.Poised.of_run sensible built run.world
  obtain ⟨links, connected⟩ := sensible.connected
  obtain ⟨course, prepares⟩ | ⟨tick, -, ⟨⟩, -⟩ :=
    poised.prepares_or_runsOut (Network.sound_of_build connected) sim.flowPermanent
  obtain ⟨opened, made, initial⟩ := (SimSetup.build_eq_ok built).world
  have enduring := Roads.Accounted.enduring.and (Enduring.rules opened)
  have starts : start.world.roads.Accounted ∧ start.world.roads.rules = opened.rules := by
    rw [initial]
    exact ⟨Roads.accounted_ofNetwork made, rfl⟩
  obtain ⟨accounted, rules⟩ := enduring.steps
    (enduring.refilled (enduring.run starts run.world) prepares.changed) prepares.departed
  obtain ⟨interval, simulated⟩ :=
    prepares.exists_interval accounted seepsNarrow.narrow fun {link vehicle} aboard => by
      obtain ⟨type, found, pcu, -⟩ := prepares.typed aboard
      rw [poised.chronicled.modes] at found
      refine ⟨vehicle.mode, type, found, pcu.symm, ?_⟩
      rw [Roads.seeps_eq_of_rules rules]
      exact Roads.seeps_eq_true_iff made
  exact Sim.step_isOk simulated observer

/-- So a run may go on for any number of intervals. -/
theorem Sim.exists_run {σ : Type} {setup : SimSetup Rat σ} {start : Sim Rat σ}
    (sensible : setup.Sensible) (built : setup.build = .ok start)
    (seepsNarrow : setup.dynamics.SeepsNarrow setup.table) (count : Nat) :
    ∃ history sim, history.length = count ∧ Sim.Run start history sim := by
  induction count with
  | zero => exact ⟨[], start, rfl, .start⟩
  | succ count ih =>
      obtain ⟨history, sim, length, run⟩ := ih
      obtain ⟨stop, sim', stepped⟩ := run.exists_step sensible built seepsNarrow {}
      obtain ⟨interval, further⟩ := run.next stepped
      exact ⟨_, sim', by simp [length], further⟩

/-- Whatever the sizes, a step fails only where a link is full or the intervals run out. -/
theorem Sim.Run.isShortage_of_step {α σ : Type} [Quantity α] {setup : SimSetup α σ}
    {start sim : Sim α σ} {history : List (Interval α)} (sensible : setup.Sensible)
    (built : setup.build = .ok start) (run : Sim.Run start history sim)
    {observer : Observer α σ} {stopped : Interrupted (RunError α) (Sim α σ)}
    (failed : sim.step observer = .error stopped) :
    ∃ cause, stopped.cause = .road cause ∧ cause.IsShortage := by
  obtain ⟨journeys, poised⟩ := World.Poised.of_run sensible built run.world
  obtain ⟨links, connected⟩ := sensible.connected
  obtain ⟨halted, interrupted, rfl⟩ := Sim.step_eq_error.mp failed
  obtain ⟨course, prepares⟩ | ⟨tick, reached, beyond, fails⟩ :=
    poised.prepares_or_runsOut (Network.sound_of_build connected) sim.flowPermanent
  · exact prepares.isShortage interrupted
  · cases interrupted.symm.trans fails
    exact ⟨_, rfl, .inr ⟨tick, rfl, beyond⟩⟩

end MixedTraffic
