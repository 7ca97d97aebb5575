import Mathlib.Data.Set.Card
import MixedTraffic.Proofs.Flow.Overtakes
import MixedTraffic.Proofs.Flow.Stays

namespace MixedTraffic

/-! The overtakes of a history, and how they are read off the line of those who stay on a link. -/

variable {modes : Array ModeId} {events : List Event} {event : Event} {link : LinkId}
  {mode : ModeId} {line : List (AgentId × ModeId)}

/-- That the agent of an event overtakes another: it leaves a link, on which one of another mode
stays that entered before it. -/
structure Event.Overtakes (event : Event) (stays : AgentId → Option Stay) (modes : Array ModeId)
    (other : AgentId) (overtaker overtaken : ModeId) : Prop where
  left : event.kind = .linkLeft
  own : modes[event.agent.index]? = some overtaker
  theirs : modes[other.index]? = some overtaken
  apart : overtaker ≠ overtaken
  earlier : ∃ stay ∈ stays event.agent, ∃ stay' ∈ stays other,
    stay.link = event.link ∧ stay'.link = event.link ∧ stay'.entry < stay.entry

/-- The overtakes of a history on some links, by some modes of some modes. Each is told by the
position of an event, and the agent that is overtaken then. -/
def overtakes (modes : Array ModeId) (events : List Event)
    (among : LinkId → ModeId → ModeId → Prop) : Set (Nat × AgentId) :=
  {overtake | ∃ event overtaker overtaken, events[overtake.1]? = some event ∧
    event.Overtakes (stayOf (events.take overtake.1)) modes overtake.2 overtaker overtaken ∧
    among event.link overtaker overtaken}

def Event.overtakenBy (event : Event) (stays : AgentId → Option Stay) (modes : Array ModeId)
    (among : LinkId → ModeId → ModeId → Prop) : Set AgentId :=
  {other | ∃ overtaker overtaken, event.Overtakes stays modes other overtaker overtaken ∧
    among event.link overtaker overtaken}

theorem overtakes_nil (modes : Array ModeId) (among : LinkId → ModeId → ModeId → Prop) :
    overtakes modes [] among = ∅ :=
  Set.eq_empty_iff_forall_notMem.mpr fun _ ⟨_, _, _, found, _⟩ => nomatch found

theorem overtakes_append (modes : Array ModeId) (events : List Event) (event : Event)
    (among : LinkId → ModeId → ModeId → Prop) :
    overtakes modes (events ++ [event]) among =
      overtakes modes events among ∪
        Prod.mk events.length '' event.overtakenBy (stayOf events) modes among := by
  ext ⟨position, other⟩
  constructor
  · rintro ⟨teller, overtaker, overtaken, found, overtake, counted⟩
    have bound : position < (events ++ [event]).length := (List.getElem?_eq_some_iff.mp found).1
    rw [List.length_append, List.length_singleton, Nat.lt_succ_iff_lt_or_eq] at bound
    obtain earlier | rfl := bound
    · rw [List.getElem?_append_left earlier] at found
      rw [List.take_append_of_le_length (Nat.le_of_lt earlier)] at overtake
      exact .inl ⟨teller, overtaker, overtaken, found, overtake, counted⟩
    · rw [List.getElem?_concat_length, Option.some.injEq] at found
      subst found
      rw [List.take_left] at overtake
      exact .inr ⟨other, ⟨overtaker, overtaken, overtake, counted⟩, rfl⟩
  · rintro (⟨teller, overtaker, overtaken, found, overtake, counted⟩ |
      ⟨_, ⟨overtaker, overtaken, overtake, counted⟩, same⟩)
    · have earlier := (List.getElem?_eq_some_iff.mp found).1
      refine ⟨teller, overtaker, overtaken, ?_, ?_, counted⟩
      · rwa [List.getElem?_append_left earlier]
      · rwa [List.take_append_of_le_length (Nat.le_of_lt earlier)]
    · obtain ⟨rfl, rfl⟩ := Prod.mk.inj same
      exact ⟨event, overtaker, overtaken, List.getElem?_concat_length,
        List.take_left.symm ▸ overtake, counted⟩

theorem encard_overtakes_append (modes : Array ModeId) (events : List Event) (event : Event)
    (among : LinkId → ModeId → ModeId → Prop) :
    (overtakes modes (events ++ [event]) among).encard =
      (overtakes modes events among).encard +
        (event.overtakenBy (stayOf events) modes among).encard := by
  rw [overtakes_append, Set.encard_union_eq, (Prod.mk_right_injective _).encard_image]
  rw [Set.disjoint_left]
  rintro _ ⟨_, _, _, found, -⟩ ⟨_, -, rfl⟩
  exact (List.getElem?_eq_some_iff.mp found).1.false

theorem eraseP_eq_filter {agent : AgentId} (distinct : (line.map (·.1)).Nodup) :
    line.eraseP (·.1 == agent) = line.filter (·.1 != agent) := by
  induction line with
  | nil => rfl
  | cons entry rest ih =>
      rw [List.map_cons, List.nodup_cons] at distinct
      obtain ⟨fresh, distinct⟩ := distinct
      by_cases own : entry.1 = agent
      · rw [List.eraseP_cons_of_pos (by simpa using own),
          List.filter_cons_of_neg (by simpa using own)]
        refine (List.filter_eq_self.mpr fun other listed => bne_iff_ne.mpr ?_).symm
        have among : other.1 ∈ rest.map (·.1) := List.mem_map_of_mem listed
        exact fun same => fresh (own.trans same.symm ▸ among)
      · rw [List.eraseP_cons_of_neg (by simpa using own),
          List.filter_cons_of_pos (by simpa using own), ih distinct]

/-- That a line has those who stay on a link, with their modes, in the order of their entries. -/
structure Lines (stays : AgentId → Option Stay) (modes : Array ModeId) (link : LinkId)
    (line : List (AgentId × ModeId)) : Prop where
  mem_iff : ∀ entry, entry ∈ line ↔
    modes[entry.1.index]? = some entry.2 ∧ ∃ stay ∈ stays entry.1, stay.link = link
  sorted : line.Pairwise fun front back =>
    ∃ stay ∈ stays front.1, ∃ stay' ∈ stays back.1, stay.entry < stay'.entry

namespace Lines

variable {stays stays' : AgentId → Option Stay} {agent : AgentId}

theorem nodup (lines : Lines stays modes link line) : (line.map (·.1)).Nodup := by
  refine List.pairwise_map.mpr (lines.sorted.imp ?_)
  rintro front back ⟨stay, front, stay', back, earlier⟩ same
  rw [same] at front
  cases front.symm.trans back
  exact earlier.false

theorem without (lines : Lines stays modes link line)
    (others : ∀ other, other ≠ agent → stays' other = stays other)
    (gone : ∀ stay ∈ stays' agent, stay.link ≠ link) :
    Lines stays' modes link (line.filter (·.1 != agent)) where
  mem_iff entry := by
    rw [List.mem_filter, lines.mem_iff, bne_iff_ne]
    constructor
    · rintro ⟨here, other⟩
      rwa [others _ other]
    · rintro ⟨own, stay, stays, here⟩
      have other : entry.1 ≠ agent := fun same => gone stay (same ▸ stays) here
      exact ⟨⟨own, stay, others _ other ▸ stays, here⟩, other⟩
  sorted := by
    refine (lines.sorted.filter _).imp_of_mem ?_
    intro front back first second ahead
    rw [List.mem_filter, bne_iff_ne] at first second
    rwa [others _ first.2, others _ second.2]

theorem elsewhere (lines : Lines stays modes link line)
    (others : ∀ other, other ≠ agent → stays' other = stays other)
    (before : ∀ stay ∈ stays agent, stay.link ≠ link)
    (after : ∀ stay ∈ stays' agent, stay.link ≠ link) : Lines stays' modes link line := by
  have unlisted : line.filter (·.1 != agent) = line := by
    refine List.filter_eq_self.mpr fun entry listed => bne_iff_ne.mpr ?_
    rintro rfl
    obtain ⟨-, stay, stays, here⟩ := (lines.mem_iff entry).mp listed
    exact before stay stays here
  exact unlisted ▸ lines.without others after

/-- Who enters after all others is the last of the line. -/
theorem joined {stay : Stay} (lines : Lines stays modes link line)
    (others : ∀ other, other ≠ agent → stays' other = stays other)
    (fresh : stays agent = none) (enters : stays' agent = some stay) (here : stay.link = link)
    (own : modes[agent.index]? = some mode)
    (last : ∀ other, ∀ earlier ∈ stays other, earlier.entry < stay.entry) :
    Lines stays' modes link (line ++ [(agent, mode)]) where
  mem_iff entry := by
    rw [List.mem_append, List.mem_singleton, lines.mem_iff]
    by_cases same : entry.1 = agent
    · subst same
      rw [fresh, enters, own]
      constructor
      · rintro (⟨-, _, absent, -⟩ | own)
        · cases absent
        · exact ⟨congrArg (some ·.2) own.symm, stay, rfl, here⟩
      · rintro ⟨own, -⟩
        exact .inr (Prod.ext rfl (Option.some.inj own).symm)
    · rw [others _ same]
      exact or_iff_left fun own => same (congrArg Prod.fst own)
  sorted := by
    refine List.pairwise_append.mpr ⟨?_, List.pairwise_singleton _ _, ?_⟩
    · refine lines.sorted.imp_of_mem fun {front back} first second ahead => ?_
      have old (entry : AgentId × ModeId) (listed : entry ∈ line) : entry.1 ≠ agent := by
        rintro rfl
        obtain ⟨-, stay, stays, -⟩ := (lines.mem_iff entry).mp listed
        cases fresh.symm.trans stays
      rwa [others _ (old front first), others _ (old back second)]
    · intro front listed back own
      obtain ⟨-, earlier, stays, -⟩ := (lines.mem_iff front).mp listed
      rw [List.mem_singleton.mp own]
      have other : front.1 ≠ agent := by
        rintro rfl
        cases fresh.symm.trans stays
      exact ⟨earlier, others _ other ▸ stays, stay, enters, last _ earlier stays⟩

theorem mem_front {front back : List (AgentId × ModeId)} {own entry : AgentId × ModeId}
    {stay : Stay} (lines : Lines stays modes link (front ++ own :: back))
    (here : stay ∈ stays own.1) :
    entry ∈ front ↔
      entry ∈ front ++ own :: back ∧ ∃ stay' ∈ stays entry.1, stay'.entry < stay.entry := by
  obtain ⟨-, behind, ahead⟩ := List.pairwise_append.mp lines.sorted
  constructor
  · intro listed
    obtain ⟨stay', stays, other, same, earlier⟩ := ahead entry listed own List.mem_cons_self
    cases here.symm.trans same
    exact ⟨List.mem_append_left _ listed, stay', stays, earlier⟩
  · rintro ⟨listed, stay', stays, earlier⟩
    obtain listed | rfl | listed := by simpa only [List.mem_append, List.mem_cons] using listed
    · exact listed
    · cases here.symm.trans stays
      exact absurd earlier (lt_irrefl _)
    · obtain ⟨first, same, second, same', later⟩ := (List.pairwise_cons.mp behind).1 entry listed
      cases here.symm.trans same
      cases stays.symm.trans same'
      exact absurd earlier later.asymm

theorem apart {front back : List (AgentId × ModeId)} {own entry : AgentId × ModeId}
    (lines : Lines stays modes link (front ++ own :: back)) (ahead : entry ∈ front) :
    entry.1 ≠ own.1 := by
  have distinct := lines.nodup
  rw [List.map_append, List.map_cons, List.nodup_middle] at distinct
  have among : entry.1 ∈ front.map (·.1) := List.mem_map_of_mem ahead
  exact fun same => distinct.notMem (List.mem_append_left _ (same ▸ among))

/-- Who is overtaken is ahead in the line. -/
theorem mem_overtakenBy {front back : List (AgentId × ModeId)} {other : AgentId} {stay : Stay}
    {among : LinkId → ModeId → ModeId → Prop}
    (lines : Lines stays modes event.link (front ++ (event.agent, mode) :: back))
    (left : event.kind = .linkLeft) (here : stay ∈ stays event.agent)
    (link : stay.link = event.link) (own : modes[event.agent.index]? = some mode) :
    other ∈ event.overtakenBy stays modes among ↔
      ∃ entry ∈ front, entry.2 ≠ mode ∧ among event.link mode entry.2 ∧ entry.1 = other := by
  constructor
  · rintro ⟨overtaker, overtaken, overtake, counted⟩
    cases own.symm.trans overtake.own
    obtain ⟨first, same, stay', stays, -, link', earlier⟩ := overtake.earlier
    cases here.symm.trans same
    have listed := (lines.mem_iff (other, overtaken)).mpr ⟨overtake.theirs, stay', stays, link'⟩
    exact ⟨_, (lines.mem_front here).mpr ⟨listed, stay', stays, earlier⟩, overtake.apart.symm,
      counted, rfl⟩
  · rintro ⟨entry, ahead, differs, counted, rfl⟩
    obtain ⟨listed, stay', stays, earlier⟩ := (lines.mem_front here).mp ahead
    obtain ⟨theirs, other, same, link'⟩ := (lines.mem_iff entry).mp listed
    cases stays.symm.trans same
    exact ⟨mode, entry.2, ⟨left, own, theirs, differs.symm, stay, here, stay', stays, link, link',
      earlier⟩, counted⟩

theorem encard_overtakenBy (lines : Lines stays modes event.link line)
    (fits : event.Fits (stays event.agent)) (own : modes[event.agent.index]? = some mode)
    (among : LinkId → ModeId → ModeId → Prop) [DecidablePred (among event.link mode)] :
    (event.overtakenBy stays modes among).encard =
      (event.overtaken mode line).countP (among event.link mode ·) := by
  by_cases left : event.kind = .linkLeft
  · obtain ⟨stay, here, link⟩ := fits.of_left left
    have listed : (event.agent, mode) ∈ line := (lines.mem_iff _).mpr ⟨own, stay, here, link⟩
    obtain ⟨front, back, rfl⟩ := List.append_of_mem listed
    have overtaken : event.overtaken mode (front ++ (event.agent, mode) :: back) =
        (front.map (·.2)).filter (· != mode) := by
      rw [Event.overtaken, if_pos ⟨left, by simp⟩, List.takeWhile_append_of_pos,
        List.takeWhile_cons_of_neg (by simp), List.append_nil]
      exact fun entry ahead => bne_iff_ne.mpr (lines.apart ahead)
    let passed := front.filter fun entry =>
      decide (among event.link mode entry.2) && entry.2 != mode
    have whole : event.overtakenBy stays modes among = (passed.map (·.1)).toFinset := by
      ext other
      rw [lines.mem_overtakenBy left here link own]
      simp only [List.coe_toFinset, Set.mem_ofPred_eq, List.mem_map, passed, List.mem_filter,
        Bool.and_eq_true, bne_iff_ne, decide_eq_true_iff]
      exact exists_congr fun entry => by tauto
    have once : (passed.map (·.1)).Nodup := by
      have distinct := lines.nodup
      rw [List.map_append] at distinct
      exact (List.Nodup.of_append_left distinct).sublist (List.filter_sublist.map _)
    rw [whole, Set.encard_coe_eq_coe_finsetCard, List.toFinset_card_of_nodup once, overtaken,
      List.length_map, List.countP_filter, List.countP_map, List.countP_eq_length_filter]
    rfl
  · have nobody : event.overtakenBy stays modes among = ∅ := by
      refine Set.eq_empty_iff_forall_notMem.mpr ?_
      rintro other ⟨overtaker, overtaken, overtake, -⟩
      exact left overtake.left
    rw [nobody, Set.encard_empty, Event.overtaken, if_neg fun both => left both.1]
    rfl

theorem append (lines : Lines (stayOf events) modes event.link line)
    (fits : event.Fits (stayOf events event.agent))
    (own : modes[event.agent.index]? = some mode) :
    Lines (stayOf (events ++ [event])) modes event.link (event.line mode line) := by
  have after := stayOf_append_agent events event
  rw [Event.stay] at after
  unfold Event.line
  cases kind : event.kind with
  | linkEntered =>
      rw [kind] at after
      exact lines.joined (fun _ => stayOf_append_of_ne) (fits.of_entered kind) after rfl own
        fun _ _ stays => stayOf_entry_lt stays
  | linkLeft =>
      rw [kind] at after
      dsimp only
      rw [eraseP_eq_filter lines.nodup]
      exact lines.without (fun _ => stayOf_append_of_ne) (by simp [after])
  | stuck =>
      rw [kind] at after
      exact lines.without (fun _ => stayOf_append_of_ne) (by simp [after])
  | departed => exact stayOf_append_of_idle events (.inl kind) ▸ lines
  | arrived => exact stayOf_append_of_idle events (.inr kind) ▸ lines

theorem append_of_ne (lines : Lines (stayOf events) modes link line)
    (fits : event.Fits (stayOf events event.agent)) (elsewhere : link ≠ event.link) :
    Lines (stayOf (events ++ [event])) modes link line := by
  by_cases idle : event.Idle
  · exact stayOf_append_of_idle events idle ▸ lines
  · refine lines.elsewhere (fun _ => stayOf_append_of_ne) (fun stay stays here => ?_)
      fun stay stays here => ?_
    · rw [stays] at fits
      exact elsewhere (here ▸ fits.link_eq idle)
    · rw [stayOf_append_agent] at stays
      exact elsewhere (here ▸ Event.link_of_stay idle stays)

end Lines

end MixedTraffic
