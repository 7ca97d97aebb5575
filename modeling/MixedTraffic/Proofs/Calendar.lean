import MixedTraffic.Calendar

namespace MixedTraffic

namespace Calendar

/-! The entries of a calendar over all its slots. Every operation is a change of them. -/

def entries (calendar : Calendar) : List AgentId := calendar.slots.flatMap (·.2)

/-- The size that is kept beside the slots is the number of entries. -/
def Sized (calendar : Calendar) : Prop := calendar.size = calendar.entries.length

theorem updateSlot_perm {tick : Tick} {change : List AgentId → List AgentId}
    {more : List AgentId} (adds : ∀ agents, (change agents).Perm (more ++ agents))
    (slots : List (Tick × List AgentId)) :
    ((updateSlot tick change slots).flatMap (·.2)).Perm (more ++ slots.flatMap (·.2)) := by
  induction slots with
  | nil => simpa [updateSlot] using adds []
  | cons slot rest ih =>
      obtain ⟨time, agents⟩ := slot
      unfold updateSlot
      split
      · simpa using (adds []).append_right _
      · split
        · simpa using (adds agents).append_right _
        · simp only [List.flatMap_cons]
          apply (List.Perm.append_left _ ih).trans
          rw [← List.append_assoc, ← List.append_assoc]
          exact List.Perm.append_right _ List.perm_append_comm

theorem push_perm (calendar : Calendar) (tick : Tick) (agent : AgentId) :
    (calendar.push tick agent).entries.Perm (agent :: calendar.entries) := by
  have behind (agents : List AgentId) : (agents ++ [agent]).Perm ([agent] ++ agents) :=
    List.perm_append_comm
  exact updateSlot_perm behind calendar.slots

theorem requeue_perm (calendar : Calendar) (tick : Tick) (agents : List AgentId) :
    (calendar.requeue tick agents).entries.Perm (agents ++ calendar.entries) := by
  unfold requeue
  split
  · rename_i empty
    rw [List.isEmpty_iff.mp empty]
    exact .refl _
  · exact updateSlot_perm (fun _ => .refl _) _

theorem drain_append (calendar : Calendar) (tick : Tick) :
    (calendar.drain tick).1 ++ (calendar.drain tick).2.entries = calendar.entries := by
  simp only [drain, entries]
  rw [← List.flatMap_append, List.takeWhile_append_dropWhile]

namespace Sized

variable {calendar : Calendar} (sized : calendar.Sized)
include sized

theorem push (tick : Tick) (agent : AgentId) : (calendar.push tick agent).Sized := by
  have length := (push_perm calendar tick agent).length_eq
  unfold Sized at *
  rw [length, List.length_cons, ← sized]
  rfl

theorem requeue (tick : Tick) (agents : List AgentId) :
    (calendar.requeue tick agents).Sized := by
  have length := (requeue_perm calendar tick agents).length_eq
  have size : (calendar.requeue tick agents).size = agents.length + calendar.size := by
    unfold Calendar.requeue
    split
    · rename_i empty
      simp [List.isEmpty_iff.mp empty]
    · exact Nat.add_comm ..
  unfold Sized at *
  rw [length, List.length_append, ← sized, size]

theorem drain (tick : Tick) : (calendar.drain tick).2.Sized := by
  have length := congrArg List.length (drain_append calendar tick)
  rw [List.length_append, ← sized] at length
  change calendar.size - (calendar.drain tick).1.length = _
  omega

end Sized

theorem ofPopulation_perm (population : Population) (clock : Clock) :
    (ofPopulation population clock).Sized ∧
      (ofPopulation population clock).entries.Perm (population.agents.toList.map (·.id)) := by
  have filled (agents : List Agent) (calendar : Calendar) (sized : calendar.Sized) :
      (agents.foldl (fun calendar agent =>
        calendar.push (clock.tickAtOrAfter agent.departureSecs) agent.id) calendar).Sized ∧
      (agents.foldl (fun calendar agent =>
        calendar.push (clock.tickAtOrAfter agent.departureSecs) agent.id)
          calendar).entries.Perm (agents.map (·.id) ++ calendar.entries) := by
    induction agents generalizing calendar with
    | nil => exact ⟨sized, .refl _⟩
    | cons agent rest ih =>
        have pushed := push_perm calendar (clock.tickAtOrAfter agent.departureSecs) agent.id
        obtain ⟨size, perm⟩ := ih _ (sized.push _ _)
        refine ⟨size, perm.trans ?_⟩
        exact (pushed.append_left _).trans List.perm_middle
  unfold ofPopulation
  rw [← Array.foldl_toList]
  obtain ⟨sized, perm⟩ := filled population.agents.toList {} rfl
  exact ⟨sized, by simpa [entries] using perm⟩

end Calendar

end MixedTraffic
