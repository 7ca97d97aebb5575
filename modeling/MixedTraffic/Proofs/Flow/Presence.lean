import Mathlib.Algebra.BigOperators.Group.Finset.Basic
import Mathlib.Data.Finset.Card
import MixedTraffic.Flow.Tracker
import MixedTraffic.Proofs.Attempt
import MixedTraffic.Proofs.Road.Storage

namespace MixedTraffic

/-! Whom a flow tracker takes to be on the network, from the events alone: those who have
entered a link since they last left one. The counts of its tracks are those of these agents. -/

def Event.presence (since? : Option Tick) (event : Event) : Option Tick :=
  match event.kind with
  | .linkEntered => some event.time
  | .linkLeft | .stuck => none
  | .departed | .arrived => since?

/-- That nobody enters a link without having left the one before. -/
def Alternates (events : List Event) : Prop :=
  ∀ done event rest, events = done ++ event :: rest → event.kind = .linkEntered →
    (done.filter (·.agent = event.agent)).foldl Event.presence none = none

theorem Alternates.of_append {first second : List Event}
    (alternates : Alternates (first ++ second)) : Alternates first := by
  intro done event rest parts entered
  refine alternates done event (rest ++ second) ?_ entered
  rw [parts, List.append_assoc, List.cons_append]

theorem Track.agents_traverse {α : Type} [Quantity α] (track : Track α) (distance duration : α) :
    (track.traverse distance duration).agents = track.agents := by
  unfold traverse
  split <;> rfl

namespace FlowTracker

variable {α : Type} [Quantity α] {tracker tracker' : FlowTracker α} {event : Event} {id : AgentId}

/-- That a tracker has a place for every agent, and one track for each of their modes. -/
structure Ready (tracker : FlowTracker α) : Prop where
  sized : tracker.entries.size = tracker.agentModes.size
  equipped : ∀ mode ∈ tracker.agentModes, (tracker.pcu[mode.index]?).isSome
  distinct : tracker.trackedModes.Nodup
  complete : ∀ mode ∈ tracker.agentModes, mode ∈ tracker.trackedModes

/-- The agents that a tracker takes to be on the network. -/
def present (tracker : FlowTracker α) : Finset Nat :=
  (Finset.range tracker.entries.size).filter fun index => tracker.entry? ⟨index⟩ ≠ none

theorem entry_eq_join (tracker : FlowTracker α) (id : AgentId) :
    tracker.entry? id = (tracker.entries[id.index]?).join := rfl

theorem mem_present {index : Nat} :
    index ∈ tracker.present ↔ tracker.entry? ⟨index⟩ ≠ none := by
  rw [present, Finset.mem_filter, Finset.mem_range, and_iff_right_iff_imp]
  intro here
  by_contra outside
  rw [entry_eq_join, Array.getElem?_eq_none (not_lt.mp outside)] at here
  exact here rfl

def presentOf (tracker : FlowTracker α) (mode : ModeId) : Finset Nat :=
  tracker.present.filter fun index => tracker.agentModes[index]? = some mode

structure Tallies (tracker : FlowTracker α) : Prop where
  total : tracker.total.agents = tracker.present.card
  modes : ∀ entry ∈ tracker.modes, entry.2.agents = (tracker.presentOf entry.1).card

/-- That an event takes a vehicle off a track that counts none. -/
def Saturates (tracker : FlowTracker α) (event : Event) : Prop :=
  (event.kind = .linkLeft ∨ event.kind = .stuck) ∧ tracker.entry? event.agent ≠ none ∧
    (tracker.total.agents = 0 ∨ ∃ mode track, (mode, track) ∈ tracker.modes ∧
      tracker.agentModes[event.agent.index]? = some mode ∧ track.agents = 0)

/-- What a tracker makes of an event, as far as whom it counts. -/
inductive Registers (tracker : FlowTracker α) (event : Event) (mode : ModeId) :
    Option Tick → FlowTracker α → Prop where
  | entered {change : Track α → Track α} (enters : event.kind = .linkEntered)
      (counts : ∀ track, (change track).agents = track.agents + 1) :
      Registers tracker event mode (some event.time)
        ((tracker.setEntry event.agent (some event.time)).updateTracks mode change)
  | gone {change : Track α → Track α} {since : Tick}
      (here : tracker.entry? event.agent = some since)
      (counts : ∀ track, (change track).agents = track.agents - 1) :
      Registers tracker event mode none
        ((tracker.setEntry event.agent none).updateTracks mode change)
  | same {since? : Option Tick} (unchanged : tracker.entry? event.agent = since?) :
      Registers tracker event mode since? tracker

theorem Ready.registers (ready : tracker.Ready)
    (known : event.agent.index < tracker.agentModes.size) :
    tracker.Registers event tracker.agentModes[event.agent.index]
      (event.presence <| tracker.entry? event.agent) (tracker.record event) := by
  obtain ⟨pcu, listed⟩ := Option.isSome_iff_exists.mp
    (ready.equipped _ (Array.getElem_mem known))
  have recorded : tracker.record event =
      tracker.recordVehicle event tracker.agentModes[event.agent.index] pcu := by
    simp [record, known, listed]
  rw [recorded, recordVehicle, Event.presence]
  cases kind : event.kind with
  | linkEntered => exact .entered kind fun _ => rfl
  | linkLeft =>
      cases here : tracker.entry? event.agent with
      | none => exact .same here
      | some since => exact .gone here fun track => (track.leave pcu).agents_traverse _ _
  | stuck =>
      cases here : tracker.entry? event.agent with
      | none => exact .same here
      | some since => exact .gone here fun _ => rfl
  | departed | arrived => exact .same rfl

structure Frames (tracker' tracker : FlowTracker α) : Prop where
  agentModes : tracker'.agentModes = tracker.agentModes
  pcu : tracker'.pcu = tracker.pcu
  trackedModes : tracker'.trackedModes = tracker.trackedModes
  size : tracker'.entries.size = tracker.entries.size

theorem Ready.of_frames (ready : tracker.Ready) (frames : tracker'.Frames tracker) :
    tracker'.Ready where
  sized := by rw [frames.size, frames.agentModes, ready.sized]
  equipped := by
    rw [frames.agentModes, frames.pcu]
    exact ready.equipped
  distinct := by
    rw [frames.trackedModes]
    exact ready.distinct
  complete := by
    rw [frames.agentModes, frames.trackedModes]
    exact ready.complete

section Register

variable {mode : ModeId} {since? : Option Tick}

theorem frames_updateTracks (tracker : FlowTracker α) (agent : AgentId) (entry : Option Tick)
    (mode : ModeId) (change : Track α → Track α) :
    ((tracker.setEntry agent entry).updateTracks mode change).Frames tracker where
  agentModes := rfl
  pcu := rfl
  trackedModes := by
    rw [trackedModes, updateTracks, List.map_map]
    rfl
  size := Array.size_setIfInBounds

theorem Registers.frames (registers : tracker.Registers event mode since? tracker') :
    tracker'.Frames tracker := by
  cases registers with
  | entered | gone => exact frames_updateTracks ..
  | same => exact ⟨rfl, rfl, rfl, rfl⟩

theorem entry_setEntry {agent : AgentId} (bound : agent.index < tracker.entries.size)
    (entry : Option Tick) (id : AgentId) :
    FlowTracker.entry? (tracker.setEntry agent entry) id =
      if id = agent then entry else tracker.entry? id := by
  obtain ⟨index⟩ := id
  obtain ⟨position⟩ := agent
  by_cases same : index = position
  · subst same
    simp [entry_eq_join, setEntry, bound]
  · simp [entry_eq_join, setEntry, same, Ne.symm same]

theorem Registers.entry_eq (registers : tracker.Registers event mode since? tracker')
    (bound : event.agent.index < tracker.entries.size) (id : AgentId) :
    tracker'.entry? id = if id = event.agent then since? else tracker.entry? id := by
  cases registers with
  | entered | gone => exact entry_setEntry bound _ id
  | same unchanged =>
      split
      next own => rw [own, unchanged]
      next => rfl

theorem Registers.present (registers : tracker.Registers event mode since? tracker')
    (bound : event.agent.index < tracker.entries.size) :
    tracker'.present = if since?.isSome then insert event.agent.index tracker.present
      else tracker.present.erase event.agent.index := by
  ext index
  rw [mem_present, registers.entry_eq bound]
  have own : (⟨index⟩ : AgentId) = event.agent ↔ index = event.agent.index :=
    ⟨fun same => congrArg Key.index same, fun same => same ▸ rfl⟩
  simp only [own]
  cases since? with
  | none => by_cases same : index = event.agent.index <;> simp [same, mem_present]
  | some since => by_cases same : index = event.agent.index <;> simp [same, mem_present]

theorem Registers.presentOf (registers : tracker.Registers event mode since? tracker')
    (bound : event.agent.index < tracker.entries.size)
    (own : tracker.agentModes[event.agent.index]? = some mode) (other : ModeId) :
    tracker'.presentOf other =
      if other = mode then
        if since?.isSome then insert event.agent.index (tracker.presentOf other)
        else (tracker.presentOf other).erase event.agent.index
      else tracker.presentOf other := by
  ext index
  rw [FlowTracker.presentOf, Finset.mem_filter, registers.present bound,
    registers.frames.agentModes]
  cases since? <;> grind [FlowTracker.presentOf]

theorem Tallies.registers (tallies : tracker.Tallies)
    (bound : event.agent.index < tracker.entries.size)
    (own : tracker.agentModes[event.agent.index]? = some mode)
    (fresh : event.kind = .linkEntered → tracker.entry? event.agent = none)
    (registers : tracker.Registers event mode since? tracker') : tracker'.Tallies := by
  have present := registers.present bound
  have presentOf := registers.presentOf bound own
  cases registers with
  | same => exact tallies
  | entered enters counts =>
      have absent : event.agent.index ∉ tracker.present := by
        rw [mem_present, fresh enters]
        exact not_not.mpr rfl
      refine ⟨?_, fun entry member => ?_⟩
      · rw [present]
        exact (counts _).trans (tallies.total ▸ (Finset.card_insert_of_notMem absent).symm)
      · obtain ⟨⟨other, track⟩, listed, rfl⟩ := List.mem_map.mp member
        have count := tallies.modes _ listed
        dsimp only at count ⊢
        rw [presentOf]
        split
        · rw [counts, count]
          exact (Finset.card_insert_of_notMem fun here =>
            absent (Finset.mem_of_mem_filter _ here)).symm
        · exact count
  | gone here counts =>
      have among : event.agent.index ∈ tracker.present := by
        rw [mem_present, here]
        exact Option.some_ne_none _
      refine ⟨?_, fun entry member => ?_⟩
      · rw [present]
        exact (counts _).trans (tallies.total ▸ (Finset.card_erase_of_mem among).symm)
      · obtain ⟨⟨other, track⟩, listed, rfl⟩ := List.mem_map.mp member
        have count := tallies.modes _ listed
        dsimp only at count ⊢
        rw [presentOf]
        split
        next same =>
          rw [counts, count]
          exact (Finset.card_erase_of_mem (Finset.mem_filter.mpr ⟨among, same ▸ own⟩)).symm
        next => exact count

end Register

theorem Tallies.of_empty (nobody : ∀ id, tracker.entry? id = none)
    (total : tracker.total.agents = 0) (modes : ∀ entry ∈ tracker.modes, entry.2.agents = 0) :
    tracker.Tallies := by
  have empty : tracker.present = ∅ := by
    refine Finset.filter_eq_empty_iff.mpr fun index _ => ?_
    rw [nobody]
    exact not_not.mpr rfl
  refine ⟨by rw [total, empty, Finset.card_empty], fun entry listed => ?_⟩
  rw [modes entry listed, presentOf, empty, Finset.filter_empty, Finset.card_empty]

theorem Tallies.not_saturates (tallies : tracker.Tallies) (event : Event) :
    ¬tracker.Saturates event := by
  rintro ⟨-, here, counted⟩
  have among : event.agent.index ∈ tracker.present := mem_present.mpr here
  obtain zero | ⟨mode, track, listed, own, zero⟩ := counted
  · rw [tallies.total] at zero
    exact Finset.ne_empty_of_mem among (Finset.card_eq_zero.mp zero)
  · rw [tallies.modes _ listed] at zero
    exact Finset.ne_empty_of_mem (Finset.mem_filter.mpr ⟨among, own⟩) (Finset.card_eq_zero.mp zero)

theorem Tallies.sum_modes (tallies : tracker.Tallies) (ready : tracker.Ready) :
    (tracker.modes.map (·.2.agents)).sum = tracker.total.agents := by
  let fiber (mode? : Option ModeId) : Nat :=
    (tracker.present.filter fun index => tracker.agentModes[index]? = mode?).card
  have counts : tracker.modes.map (·.2.agents) = (tracker.trackedModes.map some).map fiber := by
    rw [trackedModes, List.map_map, List.map_map]
    exact List.map_congr_left tallies.modes
  have distinct : (tracker.trackedModes.map some).Nodup :=
    ready.distinct.map (Option.some_injective _)
  rw [counts, ← List.sum_toFinset fiber distinct, tallies.total]
  refine (Finset.card_eq_sum_card_fiberwise fun index among => ?_).symm
  have inside : index < tracker.agentModes.size :=
    ready.sized ▸ Finset.mem_range.mp (Finset.mem_of_mem_filter _ among)
  have listed := ready.complete _ (Array.getElem_mem inside)
  simpa [Array.getElem?_eq_getElem inside] using listed

/-- Trackers that take the same agents to be on the network and count the same. -/
structure Agrees (tracker' tracker : FlowTracker α) : Prop where
  agentModes : tracker'.agentModes = tracker.agentModes
  pcu : tracker'.pcu = tracker.pcu
  entries : tracker'.entries = tracker.entries
  total : tracker'.total.agents = tracker.total.agents
  modes : (tracker'.modes.map fun entry => (entry.1, entry.2.agents)) =
    tracker.modes.map fun entry => (entry.1, entry.2.agents)

theorem Agrees.frames (agrees : tracker'.Agrees tracker) : tracker'.Frames tracker where
  agentModes := agrees.agentModes
  pcu := agrees.pcu
  trackedModes := by
    have keys := congrArg (List.map Prod.fst) agrees.modes
    rw [List.map_map, List.map_map] at keys
    exact keys
  size := congrArg Array.size agrees.entries

theorem Tallies.of_agrees (tallies : tracker.Tallies) (agrees : tracker'.Agrees tracker) :
    tracker'.Tallies := by
  have present : tracker'.present = tracker.present := by
    ext index
    rw [mem_present, mem_present, entry_eq_join, agrees.entries]
    rfl
  refine ⟨by rw [agrees.total, present, tallies.total], fun entry listed => ?_⟩
  have counted : (entry.1, entry.2.agents) ∈
      tracker'.modes.map fun entry => (entry.1, entry.2.agents) := List.mem_map_of_mem listed
  rw [agrees.modes] at counted
  obtain ⟨other, listed, same⟩ := List.mem_map.mp counted
  obtain ⟨key, agents⟩ := Prod.mk.inj same
  rw [← agents, ← key, presentOf, present, agrees.agentModes]
  exact tallies.modes other listed

theorem closeBin_agrees (tracker : FlowTracker α) : tracker.closeBin.Agrees tracker := by
  unfold closeBin
  dsimp only
  split
  · refine ⟨rfl, rfl, rfl, rfl, ?_⟩
    rw [freeze, List.map_map, List.map_map]
    rfl
  · refine ⟨rfl, rfl, rfl, rfl, ?_⟩
    rw [List.map_map]
    rfl

theorem closeInterval_agrees (tracker : FlowTracker α) (tick : Tick) :
    (tracker.closeInterval tick).2.Agrees tracker := by
  unfold closeInterval
  split
  · exact tracker.closeBin_agrees
  · exact ⟨rfl, rfl, rfl, rfl, rfl⟩

theorem agents_of_closeInterval {tick : Tick} {bin : FlowBin α}
    (closed : (tracker.closeInterval tick).1 = some bin) :
    bin.total.agents = tracker.total.agents ∧
      bin.modes.map (·.2.agents) = tracker.modes.map (·.2.agents) := by
  unfold closeInterval at closed
  split at closed
  · cases closed
    unfold closeBin
    dsimp only
    split
    · refine ⟨rfl, ?_⟩
      rw [FlowTracker.bin, freeze, List.map_map, List.map_map, List.map_map]
      rfl
    · refine ⟨rfl, ?_⟩
      rw [FlowTracker.bin, List.map_map, List.map_map]
      rfl
  · cases closed

section New

variable {network : Network α} {table : ModeTable α} {modes : Array ModeId}
  {config : TrackerConfig α} {tickSecs : Nat}

theorem new_eq_ok : new network table modes config tickSecs = .ok tracker ↔
    config.check network = .ok () ∧ tickSecs ≠ 0 ∧
    (∀ mode ∈ modes, table.contains mode = true) ∧ tracker = {
      config
      tickSecs
      measuredKm := config.metres network / ((1000 : Nat) : α)
      pcu := table.types.map (·.pcu)
      agentModes := modes
      linkLengths := network.links.map (·.length)
      entries := modes.map fun _ => none
      modes := (table.modes.filter (modes.contains ·)).map (·, Track.empty)
      total := .empty
      bins := 0
      permanent := false } := by
  simp only [new, Attempt.bind_eq_ok, ConfigError.require_eq_ok, bne_iff_ne]
  constructor
  · rintro ⟨_, checked, _, timed, made⟩
    split at made
    next => cases made
    next found =>
      refine ⟨checked, timed, fun mode listed => ?_, (Attempt.pure_eq_ok.mp made).symm⟩
      simpa using Array.find?_eq_none.mp found mode listed
  · rintro ⟨checked, timed, listed, rfl⟩
    have known : modes.find? (!table.contains ·) = none :=
      Array.find?_eq_none.mpr fun mode member => by simp [listed mode member]
    rw [known]
    exact ⟨_, checked, (), timed, rfl⟩

theorem trackedModes_of_new (made : new network table modes config tickSecs = .ok tracker) :
    tracker.trackedModes = table.modes.filter (modes.contains ·) := by
  obtain ⟨-, -, -, rfl⟩ := new_eq_ok.mp made
  rw [trackedModes, List.map_map]
  exact List.map_id' _

end New

/-- That a tracker is as the events heard by it make it. -/
structure Follows (tracker : FlowTracker α) (modes : Array ModeId) (heard : List Event) :
    Prop where
  ready : tracker.Ready
  agentModes : tracker.agentModes = modes
  entries : ∀ id : AgentId, id.index < modes.size →
    tracker.entry? id = (heard.filter (·.agent = id)).foldl Event.presence none
  tallies : tracker.Tallies

namespace Follows

variable {modes : Array ModeId} {heard events : List Event}

theorem record (follows : tracker.Follows modes heard)
    (known : event.agent.index < modes.size)
    (fresh : event.kind = .linkEntered →
      (heard.filter (·.agent = event.agent)).foldl Event.presence none = none) :
    (tracker.record event).Follows modes (heard ++ [event]) := by
  have own := follows.entries event.agent known
  rw [← own] at fresh
  rw [← follows.agentModes] at known
  have bound : event.agent.index < tracker.entries.size := follows.ready.sized ▸ known
  have registers := follows.ready.registers known
  refine ⟨follows.ready.of_frames registers.frames,
    registers.frames.agentModes.trans follows.agentModes, fun id inside => ?_,
    follows.tallies.registers bound (Array.getElem?_eq_getElem known) fresh registers⟩
  rw [registers.entry_eq bound]
  split
  next same =>
    subst same
    rw [own, List.filter_append, List.foldl_append]
    simp
  next other =>
    rw [follows.entries id inside, List.filter_append, List.foldl_append]
    simp [Ne.symm other]

theorem foldl_record (follows : tracker.Follows modes heard)
    (known : ∀ event ∈ events, event.agent.index < modes.size)
    (alternates : Alternates (heard ++ events)) :
    (events.foldl FlowTracker.record tracker).Follows modes (heard ++ events) := by
  induction events generalizing tracker heard with
  | nil => exact (List.append_nil heard).symm ▸ follows
  | cons event events ih =>
      obtain ⟨first, others⟩ := List.forall_mem_cons.mp known
      have next := follows.record first (alternates heard event events rfl)
      rw [List.append_cons] at alternates ⊢
      exact ih next others alternates

theorem closeInterval (follows : tracker.Follows modes heard) (tick : Tick) :
    (tracker.closeInterval tick).2.Follows modes heard := by
  have agrees := tracker.closeInterval_agrees tick
  refine ⟨follows.ready.of_frames agrees.frames, agrees.agentModes.trans follows.agentModes,
    fun id inside => ?_, follows.tallies.of_agrees agrees⟩
  rw [entry_eq_join, agrees.entries]
  exact follows.entries id inside

theorem entry_map_none (modes : Array ModeId) (id : AgentId) :
    ((modes.map fun _ => (none : Option Tick))[id.index]?).join = none := by
  rw [Array.getElem?_map]
  cases modes[id.index]? <;> rfl

theorem of_new {network : Network α} {table : ModeTable α} {config : TrackerConfig α}
    {tickSecs : Nat} (made : FlowTracker.new network table modes config tickSecs = .ok tracker) :
    tracker.Follows modes [] := by
  have tracked := trackedModes_of_new made
  obtain ⟨-, -, contained, rfl⟩ := new_eq_ok.mp made
  replace contained {mode : ModeId} (listed : mode ∈ modes) : mode.index < table.types.size :=
    of_decide_eq_true (contained mode listed)
  refine ⟨⟨Array.size_map, fun mode listed => ?_, ?_, fun mode listed => ?_⟩, rfl,
    fun id _ => entry_map_none modes id,
    .of_empty (entry_map_none modes) rfl fun entry listed => ?_⟩
  · simpa using contained listed
  · rw [tracked]
    exact table.nodup_modes.filter _
  · rw [tracked]
    exact List.mem_filter.mpr
      ⟨ModeTable.mem_modes.mpr (contained listed), Array.contains_iff_mem.mpr listed⟩
  · obtain ⟨mode, -, rfl⟩ := List.mem_map.mp listed
    rfl

end Follows

end FlowTracker

end MixedTraffic
