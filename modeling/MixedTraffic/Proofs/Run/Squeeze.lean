import Mathlib.Algebra.Order.Archimedean.Basic
import MixedTraffic.Proofs.Run.Boarding
import MixedTraffic.Proofs.Run.Success

namespace MixedTraffic

/-! How a run fails where a mode that may seep is larger than one that may not. Ahead of two
vehicles, the wider of which will have to seep, there is room of both kinds on the next link
when their node decides. Then a vehicle leaves that link, the wide one finds regular room after
all, and what is left is too little for the narrow one behind it. -/

/-- A choice of two such modes, and of two links on which it comes to that. -/
structure Squeeze (table : ModeTable Rat) (dynamics : Dynamics Rat) where
  wide : ModeId
  narrow : ModeId
  big : VehicleType Rat
  small : VehicleType Rat
  wideListed : table.get? wide = some big
  narrowListed : table.get? narrow = some small
  seeps : dynamics.LetsSeep table wide
  stays : ¬dynamics.LetsSeep table narrow
  /-- The length of both links, which every vehicle passes in one interval. -/
  length : Rat
  positive : 0 < length
  unhurried : length ≤ 1 ∧ length ≤ big.maxSpeed ∧ length ≤ small.maxSpeed
  /-- The regular room on the first link when the nodes decide. -/
  spare : Rat
  enough : small.pcu ≤ spare + Quantity.slack
  short : spare + Quantity.slack < big.pcu
  regained : big.pcu ≤ spare + Quantity.slack + small.pcu
  /-- The vehicles that stay on the first link meanwhile. -/
  fillers : Nat
  holdsAll : table.maxPcu ≤ spare + (fillers + 1) * small.pcu
  seepRoom : ∀ seepage, dynamics.seepage = some seepage →
    big.pcu ≤ (spare + (fillers + 1) * small.pcu) * seepage.fraction

namespace Squeeze

variable {table : ModeTable Rat} {dynamics : Dynamics Rat}

/-- Wherever a mode that may seep is larger than one that may not, there is such a choice. -/
theorem exists_of_not_seepsNarrow (checked : dynamics.check table = .ok ())
    (squeezed : ¬dynamics.SeepsNarrow table) : Nonempty (Squeeze table dynamics) := by
  simp only [Dynamics.SeepsNarrow, not_forall, not_le] at squeezed
  obtain ⟨wide, narrow, big, small, wideListed, narrowListed, seeps, stays, less⟩ := squeezed
  have bigPos := ModeTable.positive wideListed
  have smallPos := ModeTable.positive narrowListed
  obtain ⟨seepage, -, given, -⟩ := id seeps
  have part := Dynamics.fraction_pos checked given
  have spare : ∃ spare : Rat, small.pcu ≤ spare + Quantity.slack ∧
      spare + Quantity.slack < big.pcu ∧ big.pcu ≤ spare + Quantity.slack + small.pcu := by
    refine ⟨max small.pcu (big.pcu - small.pcu) - Quantity.slack, ?_, ?_, ?_⟩ <;>
      rw [sub_add_cancel]
    · exact le_max_left _ _
    · exact max_lt less (sub_lt_self _ smallPos.1)
    · linarith [le_max_right small.pcu (big.pcu - small.pcu)]
  obtain ⟨spare, enough, short, regained⟩ := spare
  obtain ⟨fillers, many⟩ := exists_nat_gt
    ((table.maxPcu + big.pcu / seepage.fraction + Quantity.slack) / small.pcu)
  rw [div_lt_iff₀ smallPos.1] at many
  have ratio : 0 < big.pcu / seepage.fraction := div_pos bigPos.1 part
  have most := table.maxPcu_nonneg
  have slack := Quantity.slack_pos
  refine ⟨⟨wide, narrow, big, small, wideListed, narrowListed, seeps, stays,
    min 1 (min big.maxSpeed small.maxSpeed), ?_, ?_, spare, enough, short, regained, fillers, ?_,
    fun again same => ?_⟩⟩
  · exact lt_min one_pos (lt_min bigPos.2 smallPos.2)
  · exact ⟨min_le_left .., (min_le_right ..).trans (min_le_left ..),
      (min_le_right ..).trans (min_le_right ..)⟩
  · linarith
  · cases given.symm.trans same
    rw [← div_le_iff₀ part]
    linarith

def target : LinkId := ⟨0⟩

def source : LinkId := ⟨1⟩

section Setup

variable (squeeze : Squeeze table dynamics)

def storage : Rat := squeeze.spare + (squeeze.fillers + 1) * squeeze.small.pcu

def link (name : String) (start finish : Nat) (storage : Rat) : Link Rat where
  name := name
  start := ⟨start⟩
  finish := ⟨finish⟩
  length := squeeze.length
  freeSpeed := 1
  lanes := 1
  flowCapacity := 3600 * (squeeze.big.pcu + squeeze.small.pcu)
  storage := some storage
  allowsPassing := false

def draft : NetworkDraft Rat where
  nodes := #[⟨"exit"⟩, ⟨"middle"⟩, ⟨"entry"⟩]
  links := #[squeeze.link "out" 1 0 squeeze.storage,
    squeeze.link "in" 2 1 (squeeze.big.pcu + squeeze.small.pcu)]

def network : Network Rat where
  nodes := squeeze.draft.nodes
  links := squeeze.draft.links
  outgoing := #[[], [target], [source]]
  incoming := #[[target], [source], []]

def filler (index : Nat) : Agent where
  id := ⟨index + 3⟩
  mode := squeeze.narrow
  departureSecs := 1
  driver := .fixed [target]

/-- The vehicle that will leave the first link, the two that come onto it then, and those that
stay on it. -/
def crew (fillers : Nat) : List Agent :=
  { id := ⟨0⟩, mode := squeeze.narrow, departureSecs := 0, driver := .fixed [target] } ::
  { id := ⟨1⟩, mode := squeeze.wide, departureSecs := 0, driver := .fixed [source, target] } ::
  { id := ⟨2⟩, mode := squeeze.narrow, departureSecs := 0,
    driver := .fixed [source, target] } ::
  (List.range fillers).map squeeze.filler

def population : Population := ⟨(squeeze.crew squeeze.fillers).toArray⟩

def setup : SimSetup Rat Unit where
  config := {}
  network := squeeze.network
  table := table
  population := squeeze.population
  dynamics := dynamics
  bus := { memory := () }

end Setup

section Sensible

variable (squeeze : Squeeze table dynamics)

theorem sizes_pos : 0 < squeeze.big.pcu ∧ 0 < squeeze.small.pcu :=
  ⟨(ModeTable.positive squeeze.wideListed).1, (ModeTable.positive squeeze.narrowListed).1⟩

theorem storage_pos : 0 < squeeze.storage :=
  (sizes_pos squeeze).1.trans_le
    ((ModeTable.pcu_le_maxPcu squeeze.wideListed).trans squeeze.holdsAll)

theorem isPositive_of_pos {x : Rat} (positive : 0 < x) : Quantity.isPositive x = true := by
  have decided : decide ((Quantity.zero : Rat) < x) = true := decide_eq_true positive
  simp only [Quantity.isPositive, decided, Bool.and_true]
  rfl

theorem admits_link {name : String} {start finish : Nat} {storage : Rat} (held : 0 < storage)
    (ends : start < 3 ∧ finish < 3) :
    NetworkDraft.Admits 3 (squeeze.link name start finish storage) := by
  obtain ⟨big, small⟩ := sizes_pos squeeze
  have flow : 0 < 3600 * (squeeze.big.pcu + squeeze.small.pcu) := by linarith
  constructor
  · simpa [link] using ends
  · simp [NetworkDraft.attributes, link, isPositive_of_pos one_pos, isPositive_of_pos held,
      isPositive_of_pos flow, isPositive_of_pos squeeze.positive]

theorem network_draft : squeeze.draft.network = squeeze.network := by
  have outgoing : NetworkDraft.adjacency 3 (·.start) squeeze.draft.links.toList =
      squeeze.network.outgoing := by
    change ((List.range 3).map (Filing.ofNodes 3 [⟨1⟩, ⟨2⟩]).row).toArray =
      #[[], [target], [source]]
    decide
  have incoming : NetworkDraft.adjacency 3 (·.finish) squeeze.draft.links.toList =
      squeeze.network.incoming := by
    change ((List.range 3).map (Filing.ofNodes 3 [⟨0⟩, ⟨1⟩]).row).toArray =
      #[[target], [source], []]
    decide
  change Network.mk _ _ (NetworkDraft.adjacency 3 _ _) (NetworkDraft.adjacency 3 _ _) = _
  rw [outgoing, incoming]
  rfl

theorem build_draft : squeeze.draft.build = .ok squeeze.network := by
  obtain ⟨big, small⟩ := sizes_pos squeeze
  have nodes : ["exit", "middle", "entry"].Nodup := by decide
  have links : ["out", "in"].Nodup := by decide
  apply NetworkDraft.build_eq_ok.mpr
  refine ⟨nodes, ?_, links, squeeze.network_draft⟩
  intro link listed
  change link ∈ [_, _] at listed
  rw [List.mem_pair] at listed
  rcases listed with rfl | rfl
  · exact squeeze.admits_link squeeze.storage_pos (by decide)
  · exact squeeze.admits_link (by linarith) (by decide)

theorem drafted_crew (fillers : Nat) :
    PopulationDraft.Drafted { seed := 0, agents := (squeeze.crew fillers).toArray } := by
  induction fillers with
  | zero => exact ((PopulationDraft.Drafted.empty.add ..).add ..).add ..
  | succ fillers ih =>
      have next := ih.add squeeze.narrow 1 (.fixed [target])
      simpa [PopulationDraft.add, crew, List.range_succ, filler] using next

theorem get?_population (index : Nat) :
    squeeze.population.get? ⟨index⟩ = (squeeze.crew squeeze.fillers)[index]? := by
  simp [Population.get?, population]

theorem of_mem_crew {fillers : Nat} {agent : Agent} (member : agent ∈ squeeze.crew fillers) :
    (agent.mode = squeeze.narrow ∨ agent.mode = squeeze.wide) ∧
      (agent.driver = .fixed [target] ∨ agent.driver = .fixed [source, target]) := by
  simp only [crew, List.mem_cons, List.mem_map] at member
  obtain rfl | rfl | rfl | ⟨index, -, rfl⟩ := member
  · exact ⟨.inl rfl, .inl rfl⟩
  · exact ⟨.inr rfl, .inr rfl⟩
  · exact ⟨.inl rfl, .inr rfl⟩
  · exact ⟨.inl rfl, .inl rfl⟩

theorem sensible : squeeze.setup.Sensible := by
  refine ⟨⟨squeeze.draft, squeeze.build_draft⟩, ⟨_, squeeze.drafted_crew squeeze.fillers,
    PopulationDraft.build_eq_ok.mpr ⟨fun agent member => ?_, rfl⟩⟩, fun id agent found => ?_⟩
  · obtain ⟨modes, drivers⟩ := squeeze.of_mem_crew (List.mem_toArray.mp member)
    have contained : table.contains agent.mode = true := by
      have listed {mode : ModeId} {type : VehicleType Rat} (found : table.get? mode = some type) :
          table.contains mode = true := by
        obtain ⟨bound, -⟩ := Array.getElem?_eq_some_iff.mp found
        exact decide_eq_true bound
      obtain same | same := modes <;> rw [same]
      · exact listed squeeze.narrowListed
      · exact listed squeeze.wideListed
    change PopulationDraft.checkAgent table agent = .ok ()
    rw [PopulationDraft.checkAgent, contained]
    obtain same | same := drivers <;> rw [same] <;> rfl
  · have member := List.mem_of_getElem? ((squeeze.get?_population id.index).symm.trans found)
    obtain ⟨-, same | same⟩ := squeeze.of_mem_crew member <;> rw [same]
    · refine Driver.orderly_fixed (fun link first => ?_) (.singleton _)
      cases first
      rfl
    · refine Driver.orderly_fixed (fun link first => ?_) (List.isChain_pair.mpr rfl)
      cases first
      rfl

end Sensible

section Calendar

variable (squeeze : Squeeze table dynamics)

def fillerIds (fillers : Nat) : List AgentId := (List.range fillers).map fun index => ⟨index + 3⟩

def calendar : Calendar := .ofPopulation squeeze.population (RunConfig.clock {})

theorem slots_calendar :
    squeeze.calendar.slots = (0, [⟨0⟩, ⟨1⟩, ⟨2⟩]) ::
      if squeeze.fillers = 0 then [] else [(1, fillerIds squeeze.fillers)] := by
  unfold calendar Calendar.ofPopulation population
  have ticks (secs : Nat) : (RunConfig.clock {}).tickAtOrAfter secs = secs := by
    simp [Clock.tickAtOrAfter, RunConfig.clock, Tick.covering]
  rw [← Array.foldl_toList, List.toList_toArray]
  simp only [ticks]
  induction squeeze.fillers with
  | zero => rfl
  | succ fillers ih =>
      have more :
          squeeze.crew (fillers + 1) = squeeze.crew fillers ++ [squeeze.filler fillers] := by
        simp [crew, List.range_succ]
      rw [more, List.foldl_append, List.foldl_cons, List.foldl_nil, Calendar.push, ih]
      by_cases none : fillers = 0
      · subst none
        rfl
      · simp [none, Calendar.updateSlot, fillerIds, List.range_succ, filler]

theorem drain_calendar :
    (squeeze.calendar.drain 0).1 = [⟨0⟩, ⟨1⟩, ⟨2⟩] ∧
      ((squeeze.calendar.drain 0).2.drain 1).1 = fillerIds squeeze.fillers := by
  unfold Calendar.drain
  rw [slots_calendar]
  by_cases none : squeeze.fillers = 0
  · simp [none, fillerIds]
  · simp [none]

end Calendar

section Queues

variable (squeeze : Squeeze table dynamics)

/-- What both queues have in common: they are first in, first out, let both vehicles leave in
one interval, and take one interval to pass. -/
structure Flows (queue : LinkQueue Rat) : Prop where
  fifo : queue.passing = false
  brimful : queue.accumulator = queue.flowCeiling
  ceiling : squeeze.big.pcu + squeeze.small.pcu ≤ queue.flowCeiling
  budget : 0 ≤ queue.flowBudget
  bigTicks : queue.travelTicks squeeze.big.maxSpeed = 1
  smallTicks : queue.travelTicks squeeze.small.maxSpeed = 1

variable {squeeze} {queue : LinkQueue Rat}

theorem Flows.refill (flows : squeeze.Flows queue) : squeeze.Flows queue.refill := by
  obtain ⟨fifo, brimful, ceiling, budget, bigTicks, smallTicks⟩ := flows
  refine ⟨fifo, ?_, ceiling, budget, bigTicks, smallTicks⟩
  change (if queue.accumulator + queue.flowBudget ≤ queue.flowCeiling then
    queue.accumulator + queue.flowBudget else queue.flowCeiling) = queue.flowCeiling
  split
  · linarith
  · rfl

theorem Flows.lined (flows : squeeze.Flows queue) (vehicles : List (Vehicle Rat)) :
    squeeze.Flows (queue.lined vehicles) :=
  ⟨flows.fifo, flows.brimful, flows.ceiling, flows.budget, flows.bigTicks, flows.smallTicks⟩

theorem flows_ofLink (key : LinkId) (name : String) (start finish : Nat) (storage : Rat) :
    squeeze.Flows (.ofLink key (squeeze.link name start finish storage) dynamics table 1) := by
  obtain ⟨big, small⟩ := sizes_pos squeeze
  obtain ⟨unit, bigSpeed, smallSpeed⟩ := squeeze.unhurried
  have budget : (3600 * (squeeze.big.pcu + squeeze.small.pcu)) * ((1 : Nat) : Rat) /
      ((3600 : Nat) : Rat) = squeeze.big.pcu + squeeze.small.pcu := by
    push_cast
    ring
  have ticks (maxSpeed : Rat) (fast : squeeze.length ≤ maxSpeed) :
      (LinkQueue.ofLink key (squeeze.link name start finish storage) dynamics table
        1).travelTicks maxSpeed = 1 := by
    have speed : squeeze.length ≤ Quantity.smaller 1 maxSpeed := by
      change squeeze.length ≤ if (1 : Rat) ≤ maxSpeed then 1 else maxSpeed
      split
      · exact unit
      · exact fast
    have secs : squeeze.length / Quantity.smaller 1 maxSpeed / ((1 : Nat) : Rat) -
        Quantity.slack ≤ ((1 : Int) : Rat) := by
      have whole := (div_le_one (squeeze.positive.trans_le speed)).mpr speed
      have slack := Quantity.slack_pos
      rw [Nat.cast_one, div_one, Int.cast_one]
      linarith
    have most : Quantity.ceilNat (squeeze.length / Quantity.smaller 1 maxSpeed /
        ((1 : Nat) : Rat) - Quantity.slack) ≤ 1 :=
      Int.toNat_le.mpr (Rat.ceil_le_iff.mpr secs)
    exact Nat.max_eq_right most
  refine ⟨Bool.and_false _, rfl, ?_, ?_, ticks _ bigSpeed, ticks _ smallSpeed⟩
  · exact budget.ge.trans (Quantity.le_larger_left _ _)
  · change 0 ≤ (3600 * (squeeze.big.pcu + squeeze.small.pcu)) * ((1 : Nat) : Rat) /
      ((3600 : Nat) : Rat)
    rw [budget]
    linarith

end Queues

end Squeeze

end MixedTraffic
