import Mathlib.Data.List.Nodup
import MixedTraffic.Network.Change
import MixedTraffic.Network.Draft
import MixedTraffic.Proofs.Attempt
import MixedTraffic.Proofs.Filing

namespace MixedTraffic

variable {α : Type}

/-! A network that has been built is sound: its links join its nodes, and each node knows the
links that start and end there, each of them once. Changes keep it so. -/

namespace NetworkDraft

theorem adjacency_getElem? (nodeCount node : Nat) (ends : Link α → NodeId)
    (links : List (Link α)) :
    (adjacency nodeCount ends links)[node]? =
      if node < nodeCount then
        some ((links.zipIdx.filter fun entry => (ends entry.1).index = node).map
          fun entry => ⟨entry.2⟩)
      else none := by
  have filed : Filing.under (links.map ends) node =
      (links.zipIdx.filter fun entry => (ends entry.1).index = node).map
        fun entry => ⟨entry.2⟩ := by
    rw [Filing.under, List.zipIdx_map, List.filter_map, List.map_map]
    rfl
  unfold adjacency
  dsimp only
  rw [List.getElem?_toArray, List.getElem?_map]
  split
  next inside =>
    rw [List.getElem?_range inside, Option.map_some, Filing.row_ofNodes inside, filed]
  next beyond =>
    rw [List.getElem?_eq_none (by simpa using beyond), Option.map_none]

theorem mem_adjacency {nodeCount : Nat} {node : NodeId} {ends : Link α → NodeId}
    {links : List (Link α)} {row : List LinkId} {key : LinkId}
    (filed : (adjacency nodeCount ends links)[node.index]? = some row) :
    key ∈ row ↔ ∃ link, links[key.index]? = some link ∧ ends link = node := by
  rw [adjacency_getElem?] at filed
  split at filed
  · cases filed
    obtain ⟨key⟩ := key
    obtain ⟨node⟩ := node
    have same (other : NodeId) : other.index = node ↔ other = ⟨node⟩ := by
      obtain ⟨index⟩ := other
      simp
    simp [List.mem_zipIdx_iff_getElem?, same]
  · cases filed

theorem pairwise_adjacency {nodeCount : Nat} {node : NodeId} {ends : Link α → NodeId}
    {links : List (Link α)} {row : List LinkId}
    (filed : (adjacency nodeCount ends links)[node.index]? = some row) :
    row.Pairwise (·.index < ·.index) := by
  rw [adjacency_getElem?] at filed
  split at filed
  · cases filed
    have positions : links.zipIdx.Pairwise (·.2 < ·.2) := by
      rw [← List.pairwise_map, List.zipIdx_map_snd]
      exact List.pairwise_lt_range'
    rw [List.pairwise_map]
    exact positions.sublist List.filter_sublist
  · cases filed

theorem nodup_adjacency {nodeCount : Nat} {node : NodeId} {ends : Link α → NodeId}
    {links : List (Link α)} {row : List LinkId}
    (filed : (adjacency nodeCount ends links)[node.index]? = some row) : row.Nodup := by
  apply (pairwise_adjacency filed).imp
  rintro first _ ascends rfl
  exact Nat.lt_irrefl _ ascends

theorem size_adjacency (nodeCount : Nat) (ends : Link α → NodeId) (links : List (Link α)) :
    (adjacency nodeCount ends links).size = nodeCount := by
  rw [adjacency, List.size_toArray, List.length_map, List.length_range]

structure Distinct (earlier names : List String) : Prop where
  nodup : names.Nodup
  new : ∀ name ∈ names, name ∉ earlier

theorem distinct_nil {earlier : List String} : Distinct earlier [] :=
  ⟨List.nodup_nil, List.forall_mem_nil _⟩

theorem distinct_cons {earlier names : List String} {name : String} :
    Distinct earlier (name :: names) ↔ name ∉ earlier ∧ Distinct (name :: earlier) names := by
  constructor
  · intro distinct
    rcases distinct with ⟨nodup, new⟩
    rw [List.nodup_cons] at nodup
    rw [List.forall_mem_cons] at new
    refine ⟨new.1, nodup.2, ?_⟩
    intro other member taken
    cases taken with
    | head => exact nodup.1 member
    | tail _ before => exact new.2 other member before
  · intro distinct
    rcases distinct with ⟨free, nodup, new⟩
    constructor
    · rw [List.nodup_cons]
      exact ⟨fun member => new name member List.mem_cons_self, nodup⟩
    · rw [List.forall_mem_cons]
      exact ⟨free, fun other member before => new other member (List.mem_cons_of_mem _ before)⟩

theorem distinct_nil_iff {names : List String} : Distinct [] names ↔ names.Nodup := by
  constructor
  · intro distinct
    exact distinct.nodup
  · intro nodup
    exact ⟨nodup, fun _ _ => List.not_mem_nil⟩

theorem checkNodes_eq_ok {earlier : List String} {nodes : List Node} {done : Unit} :
    checkNodes (α := α) earlier nodes = .ok done ↔ Distinct earlier (nodes.map (·.name)) := by
  induction nodes generalizing earlier with
  | nil => simp [checkNodes, distinct_nil]
  | cons node rest ih =>
      rw [List.map_cons, distinct_cons, checkNodes]
      simp only [List.contains_iff_mem]
      split
      next taken => simp [taken]
      next free => simp [free, ih]

variable [Quantity α]

structure Admits (nodeCount : Nat) (link : Link α) : Prop where
  joined : ∀ node ∈ [link.start, link.finish], node.index < nodeCount
  positive : ∀ entry ∈ attributes link, Quantity.isPositive entry.2 = true

theorem checkLink_eq_ok {nodeCount : Nat} {earlier : List String} {link : Link α} :
    checkLink nodeCount earlier link = .ok () ↔
      Admits nodeCount link ∧ link.name ∉ earlier := by
  unfold checkLink
  split
  next node dangling =>
    have listed := List.mem_of_find?_eq_some dangling
    have beyond := List.find?_some dangling
    rw [decide_eq_true_iff] at beyond
    constructor
    · intro passed
      cases passed
    · intro valid
      exact absurd (valid.1.joined node listed) (Nat.not_lt.mpr beyond)
  next joined =>
    split
    next what value refused =>
      have listed := List.mem_of_find?_eq_some refused
      have wrong := List.find?_some refused
      rw [Bool.not_eq_true'] at wrong
      constructor
      · intro passed
        cases passed
      · intro valid
        exact absurd (valid.1.positive _ listed) (ne_true_of_eq_false wrong)
    next positive =>
      have admits : Admits nodeCount link := by
        constructor
        · intro node listed
          simpa using List.find?_eq_none.mp joined node listed
        · intro entry listed
          simpa using List.find?_eq_none.mp positive entry listed
      simp only [List.contains_iff_mem]
      split
      next taken => simp [taken]
      next free => simp [free, admits]

theorem checkLinks_eq_ok {nodeCount : Nat} {earlier : List String} {links : List (Link α)}
    {done : Unit} : checkLinks nodeCount earlier links = .ok done ↔
      (∀ link ∈ links, Admits nodeCount link) ∧ Distinct earlier (links.map (·.name)) := by
  induction links generalizing earlier with
  | nil => simp [checkLinks, distinct_nil]
  | cons link rest ih =>
      rw [List.map_cons, distinct_cons, List.forall_mem_cons, checkLinks, Attempt.bind_eq_ok]
      constructor
      · intro passed
        rcases passed with ⟨_, first, others⟩
        rcases checkLink_eq_ok.mp first with ⟨admits, free⟩
        rcases ih.mp others with ⟨rest, distinct⟩
        exact ⟨⟨admits, rest⟩, free, distinct⟩
      · intro valid
        rcases valid with ⟨⟨admits, rest⟩, free, distinct⟩
        exact ⟨(), checkLink_eq_ok.mpr ⟨admits, free⟩, ih.mpr ⟨rest, distinct⟩⟩

theorem build_eq_ok {draft : NetworkDraft α} {network : Network α} :
    draft.build = .ok network ↔
      (draft.nodes.toList.map (·.name)).Nodup ∧
        (∀ link ∈ draft.links.toList, Admits draft.nodes.size link) ∧
        (draft.links.toList.map (·.name)).Nodup ∧ draft.network = network := by
  simp only [build, Attempt.bind_eq_ok, Attempt.pure_eq_ok, checkNodes_eq_ok, checkLinks_eq_ok,
    distinct_nil_iff, exists_const, and_assoc]

end NetworkDraft

namespace Network

structure Sound (network : Network α) : Prop where
  outgoing : network.outgoing.size = network.nodes.size
  incoming : network.incoming.size = network.nodes.size
  joined : ∀ {key link}, network.link? key = some link →
    link.start.index < network.nodes.size ∧ link.finish.index < network.nodes.size
  mem_outgoing : ∀ {node row key}, network.outgoing? node = some row →
    (key ∈ row ↔ ∃ link, network.link? key = some link ∧ link.start = node)
  mem_incoming : ∀ {node row key}, network.incoming? node = some row →
    (key ∈ row ↔ ∃ link, network.link? key = some link ∧ link.finish = node)
  nodup_outgoing : ∀ {node row}, network.outgoing? node = some row → row.Nodup
  nodup_incoming : ∀ {node row}, network.incoming? node = some row → row.Nodup

theorem isSuccessor?_eq_true {network : Network α} {current next : LinkId} :
    network.isSuccessor? current next = some true ↔
      ∃ leading following, network.link? current = some leading ∧
        network.link? next = some following ∧ following.start = leading.finish := by
  unfold isSuccessor?
  cases network.link? next with
  | none => simp
  | some following =>
      cases network.link? current with
      | none => simp
      | some leading => simp

/-- A network with the links and nodes of another where they were, so that at most the speeds
and the flows differ. -/
structure Alike (network' network : Network α) : Prop where
  nodes : network'.nodes = network.nodes
  outgoing : network'.outgoing = network.outgoing
  incoming : network'.incoming = network.incoming
  links : ∀ key, (network'.link? key).map (fun link => (link.start, link.finish, link.length)) =
    (network.link? key).map fun link => (link.start, link.finish, link.length)

namespace Alike

theorem refl (network : Network α) : network.Alike network := ⟨rfl, rfl, rfl, fun _ => rfl⟩

theorem symm {network' network : Network α} (alike : network'.Alike network) :
    network.Alike network' :=
  ⟨alike.nodes.symm, alike.outgoing.symm, alike.incoming.symm, fun key => (alike.links key).symm⟩

theorem trans {network'' network' network : Network α} (second : network''.Alike network')
    (first : network'.Alike network) : network''.Alike network :=
  ⟨second.nodes.trans first.nodes, second.outgoing.trans first.outgoing,
    second.incoming.trans first.incoming, fun key => (second.links key).trans (first.links key)⟩

theorem link? {network' network : Network α} (alike : network'.Alike network) {key : LinkId}
    {link : Link α} (found : network'.link? key = some link) :
    ∃ old, network.link? key = some old ∧ old.start = link.start ∧ old.finish = link.finish := by
  have same := alike.links key
  rw [found, Option.map_some, eq_comm, Option.map_eq_some_iff] at same
  obtain ⟨old, present, equal⟩ := same
  obtain ⟨start, rest⟩ := Prod.mk.inj equal
  exact ⟨old, present, start, (Prod.mk.inj rest).1⟩

theorem exists_link?_iff {network' network : Network α} (alike : network'.Alike network)
    {key : LinkId} (holds : NodeId → NodeId → Prop) :
    (∃ link, network'.link? key = some link ∧ holds link.start link.finish) ↔
      ∃ link, network.link? key = some link ∧ holds link.start link.finish := by
  have half {one other : Network α} (same : one.Alike other)
      (joined : ∃ link, one.link? key = some link ∧ holds link.start link.finish) :
      ∃ link, other.link? key = some link ∧ holds link.start link.finish := by
    obtain ⟨link, found, held⟩ := joined
    obtain ⟨old, present, start, finish⟩ := same.link? found
    exact ⟨old, present, by rwa [start, finish]⟩
  exact ⟨half alike, half alike.symm⟩

theorem isSuccessor?_iff {network' network : Network α} (alike : network'.Alike network)
    {current next : LinkId} :
    network'.isSuccessor? current next = some true ↔
      network.isSuccessor? current next = some true := by
  have half {one other : Network α} (same : one.Alike other)
      (joined : one.isSuccessor? current next = some true) :
      other.isSuccessor? current next = some true := by
    obtain ⟨leading, following, found, found', meet⟩ := isSuccessor?_eq_true.mp joined
    obtain ⟨before, present, -, finish⟩ := same.link? found
    obtain ⟨behind, present', start, -⟩ := same.link? found'
    exact isSuccessor?_eq_true.mpr
      ⟨before, behind, present, present', by rw [start, finish, meet]⟩
  exact ⟨half alike, half alike.symm⟩

theorem sound {network' network : Network α} (alike : network'.Alike network)
    (sound : network.Sound) : network'.Sound := by
  constructor
  · rw [alike.outgoing, alike.nodes, sound.outgoing]
  · rw [alike.incoming, alike.nodes, sound.incoming]
  · intro key link found
    obtain ⟨old, present, start, finish⟩ := alike.link? found
    rw [alike.nodes, ← start, ← finish]
    exact sound.joined present
  · intro node row key filed
    rw [outgoing?, alike.outgoing] at filed
    rw [sound.mem_outgoing filed]
    exact (alike.exists_link?_iff fun start _ => start = node).symm
  · intro node row key filed
    rw [incoming?, alike.incoming] at filed
    rw [sound.mem_incoming filed]
    exact (alike.exists_link?_iff fun _ finish => finish = node).symm
  · intro node row filed
    rw [outgoing?, alike.outgoing] at filed
    exact sound.nodup_outgoing filed
  · intro node row filed
    rw [incoming?, alike.incoming] at filed
    exact sound.nodup_incoming filed

end Alike

variable [Quantity α]

/-- The attributes of a link of a network that has been built are finite and positive. -/
theorem isPositive_of_build {draft : NetworkDraft α} {network : Network α}
    (built : draft.build = .ok network) {key : LinkId} {link : Link α}
    (found : network.link? key = some link) :
    ∀ entry ∈ NetworkDraft.attributes link, Quantity.isPositive entry.2 = true := by
  obtain ⟨-, admitted, -, rfl⟩ := NetworkDraft.build_eq_ok.mp built
  exact (admitted link (Array.mem_toList_iff.mpr (Array.mem_of_getElem? found))).positive

theorem sound_of_build {draft : NetworkDraft α} {network : Network α}
    (built : draft.build = .ok network) : network.Sound := by
  obtain ⟨-, admitted, -, rfl⟩ := NetworkDraft.build_eq_ok.mp built
  have listed (key : LinkId) : draft.links.toList[key.index]? = draft.links[key.index]? :=
    Array.getElem?_toList
  constructor
  · exact NetworkDraft.size_adjacency ..
  · exact NetworkDraft.size_adjacency ..
  · intro key link found
    have joined := (admitted link (Array.mem_toList_iff.mpr (Array.mem_of_getElem? found))).joined
    exact ⟨joined link.start (by simp), joined link.finish (by simp)⟩
  · intro node row key filed
    rw [NetworkDraft.mem_adjacency filed, listed]
    rfl
  · intro node row key filed
    rw [NetworkDraft.mem_adjacency filed, listed]
    rfl
  · intro node row filed
    exact NetworkDraft.nodup_adjacency filed
  · intro node row filed
    exact NetworkDraft.nodup_adjacency filed

theorem check_eq_ok {network : Network α} {change : NetworkChange α} :
    change.check network = .ok () ↔
      (network.link? change.link).isSome ∧
        (∀ value ∈ change.freeSpeed, Quantity.isPositive value = true) ∧
        ∀ value ∈ change.flowCapacity, Quantity.isPositive value = true := by
  have checked (name what : String) (value : Option α) :
      NetworkChange.checkValue name what value = .ok () ↔
        ∀ given ∈ value, Quantity.isPositive given = true := by
    cases value with
    | none => simp [NetworkChange.checkValue]
    | some given =>
        simp only [NetworkChange.checkValue, Option.mem_some_iff, forall_eq']
        split <;> simp_all
  simp only [NetworkChange.check, findLink, Attempt.bind_eq_ok, Attempt.elim_eq_ok, checked]
  constructor
  · intro passed
    obtain ⟨link, found, _, speed, flow⟩ := passed
    exact ⟨Option.isSome_of_eq_some found, speed, flow⟩
  · intro valid
    obtain ⟨exists', speed, flow⟩ := valid
    obtain ⟨link, found⟩ := Option.isSome_iff_exists.mp exists'
    exact ⟨link, found, (), speed, flow⟩

theorem Alike.check {network' network : Network α} (alike : network'.Alike network)
    {change : NetworkChange α} (checked : change.check network = .ok ()) :
    change.check network' = .ok () := by
  obtain ⟨exists', values⟩ := check_eq_ok.mp checked
  obtain ⟨link, found⟩ := Option.isSome_iff_exists.mp exists'
  obtain ⟨link', found', -⟩ := alike.symm.link? found
  exact check_eq_ok.mpr ⟨Option.isSome_of_eq_some found', values⟩

theorem apply_eq_ok {network network' : Network α} {change : NetworkChange α} :
    network.apply change = .ok network' ↔
      change.check network = .ok () ∧
        network' = { network with
          links := network.links.modify change.link.index change.revise } := by
  simp only [Network.apply, Attempt.bind_eq_ok, Attempt.pure_eq_ok]
  constructor
  · intro applied
    obtain ⟨_, checked, rfl⟩ := applied
    exact ⟨checked, rfl⟩
  · intro both
    obtain ⟨checked, rfl⟩ := both
    exact ⟨(), checked, rfl⟩

theorem link?_apply {network network' : Network α} {change : NetworkChange α}
    (applied : network.apply change = .ok network') (key : LinkId) :
    network'.link? key =
      (network.link? key).map fun link =>
        if key = change.link then change.revise link else link := by
  obtain ⟨-, rfl⟩ := apply_eq_ok.mp applied
  have same : change.link.index = key.index ↔ key = change.link := by
    obtain ⟨index⟩ := key
    generalize change.link = changed
    obtain ⟨position⟩ := changed
    simp [eq_comm]
  simp only [link?, Array.getElem?_modify, same]
  by_cases own : key = change.link
  · simp only [own, if_true]
  · simp only [own, if_false, Option.map_id']

theorem alike_apply {network network' : Network α} {change : NetworkChange α}
    (applied : network.apply change = .ok network') : network'.Alike network := by
  have links := link?_apply applied
  obtain ⟨-, rfl⟩ := apply_eq_ok.mp applied
  refine ⟨rfl, rfl, rfl, fun key => ?_⟩
  rw [links, Option.map_map]
  congr 1
  funext link
  by_cases same : key = change.link <;> simp [same, NetworkChange.revise]

end Network

end MixedTraffic
