import Mathlib.Data.List.Nodup
import Mathlib.Data.List.Perm.Lattice
import MixedTraffic.Proofs.Network

namespace MixedTraffic

/-! When the calls that draft a network lead to one, and what this network then knows of the links
at each of its nodes. -/

variable {α : Type}

namespace NetworkDraft

inductive Call (α : Type) where
  | addNode (name : String)
  | addLink (link : Link α)
  | setStorage (link : LinkId) (pcu : α)
  | forbidPassing (link : LinkId)

def perform (draft : NetworkDraft α) : Call α → NetworkDraft α
  | .addNode name => (draft.addNode name).2
  | .addLink link => (draft.addLink link).2
  | .setStorage link pcu => draft.setStorage link pcu
  | .forbidPassing link => draft.forbidPassing link

/-- What has been drafted after some calls. -/
def drafted (calls : List (Call α)) : NetworkDraft α := calls.foldl perform {}

variable [Quantity α]

/-- That a draft holds together. -/
structure Valid (draft : NetworkDraft α) : Prop where
  nodeNames : (draft.nodes.toList.map (·.name)).Nodup
  linkNames : (draft.links.toList.map (·.name)).Nodup
  joined : ∀ link ∈ draft.links,
    link.start.index < draft.nodes.size ∧ link.finish.index < draft.nodes.size
  positive : ∀ link ∈ draft.links, Quantity.isPositive link.length = true ∧
    Quantity.isPositive link.freeSpeed = true ∧ Quantity.isPositive link.lanes = true ∧
    Quantity.isPositive link.flowCapacity = true ∧
    ∀ pcu ∈ link.storage, Quantity.isPositive pcu = true

theorem positive_attributes_iff (unit : Quantity.isPositive (Quantity.fraction 1 1 : α) = true)
    {link : Link α} : (∀ entry ∈ attributes link, Quantity.isPositive entry.2 = true) ↔
      Quantity.isPositive link.length = true ∧ Quantity.isPositive link.freeSpeed = true ∧
      Quantity.isPositive link.lanes = true ∧ Quantity.isPositive link.flowCapacity = true ∧
      ∀ pcu ∈ link.storage, Quantity.isPositive pcu = true := by
  have stored : Quantity.isPositive (link.storage.getD (Quantity.fraction 1 1)) = true ↔
      ∀ pcu ∈ link.storage, Quantity.isPositive pcu = true := by
    cases link.storage <;> simp [unit]
  simp only [attributes, List.forall_mem_cons, stored, List.not_mem_nil, false_implies,
    implies_true, and_true]

theorem exists_build_iff (unit : Quantity.isPositive (Quantity.fraction 1 1 : α) = true)
    {draft : NetworkDraft α} : (∃ network, draft.build = .ok network) ↔ draft.Valid := by
  have admits (link : Link α) : Admits draft.nodes.size link ↔
      (link.start.index < draft.nodes.size ∧ link.finish.index < draft.nodes.size) ∧
        ∀ entry ∈ attributes link, Quantity.isPositive entry.2 = true := by
    constructor
    · intro admitted
      exact ⟨by simpa using admitted.joined, admitted.positive⟩
    · intro both
      exact ⟨by simpa using both.1, both.2⟩
  simp only [build_eq_ok, admits, positive_attributes_iff unit,
    Array.mem_toList_iff]
  constructor
  · intro succeeded
    rcases succeeded with ⟨_, nodeNames, admitted, linkNames, -⟩
    exact ⟨nodeNames, linkNames, fun link listed => (admitted link listed).1,
      fun link listed => (admitted link listed).2⟩
  · intro valid
    exact ⟨draft.network, valid.nodeNames,
      fun link listed => ⟨valid.joined link listed, valid.positive link listed⟩,
      valid.linkNames, rfl⟩

end NetworkDraft

namespace Network

variable {network : Network α}

def linkKeys (network : Network α) : List LinkId :=
  (List.range network.links.size).map Key.mk

theorem mem_linkKeys {key : LinkId} :
    key ∈ network.linkKeys ↔ ∃ link, network.link? key = some link := by
  obtain ⟨index⟩ := key
  rw [link?, ← Option.isSome_iff_exists, isSome_getElem?]
  simp [linkKeys]

theorem nodup_linkKeys : network.linkKeys.Nodup := Key.nodup_map_range _

theorem mem_nodeKeys {node : NodeId} :
    node ∈ network.nodeKeys ↔ node.index < network.nodes.size := by
  obtain ⟨index⟩ := node
  simp [nodeKeys]

theorem nodup_nodeKeys : network.nodeKeys.Nodup := Key.nodup_map_range _

/-- That each node has a row of those links that have it at one of their ends. -/
structure Files (network : Network α) (row? : NodeId → Option (List LinkId))
    (finish : Link α → NodeId) : Prop where
  exists_row : ∀ node, (∃ row, row? node = some row) ↔ node.index < network.nodes.size
  mem : ∀ {node row}, row? node = some row →
    ∀ key, key ∈ row ↔ ∃ link, network.link? key = some link ∧ finish link = node
  ascending : ∀ {node row}, row? node = some row → row.Pairwise (·.index < ·.index)

theorem files_adjacency {finish : Link α → NodeId} :
    network.Files (fun node => (NetworkDraft.adjacency network.nodes.size finish
      network.links.toList)[node.index]?) finish := by
  constructor
  · intro node
    rw [← Option.isSome_iff_exists, isSome_getElem?, NetworkDraft.size_adjacency]
  · intro node row filed key
    rw [NetworkDraft.mem_adjacency filed, Array.getElem?_toList]
    rfl
  · exact NetworkDraft.pairwise_adjacency

namespace Files

variable {row? : NodeId → Option (List LinkId)} {finish : Link α → NodeId}

theorem mem_getD (files : network.Files row? finish) {node : NodeId} {key : LinkId}
    (listed : key ∈ (row? node).getD []) :
    ∃ link, network.link? key = some link ∧ finish link = node := by
  cases found : row? node with
  | none =>
      rw [found] at listed
      cases listed
  | some row =>
      rw [found] at listed
      exact (files.mem found key).mp listed

theorem nodup_getD (files : network.Files row? finish) (node : NodeId) :
    ((row? node).getD []).Nodup := by
  cases found : row? node with
  | none => exact List.nodup_nil
  | some row =>
      apply (files.ascending found).imp
      intro key later below same
      rw [same] at below
      exact Nat.lt_irrefl _ below

theorem perm_linkKeys (files : network.Files row? finish)
    (joined : ∀ link ∈ network.links, (finish link).index < network.nodes.size) :
    (network.nodeKeys.flatMap fun node => (row? node).getD []).Perm network.linkKeys := by
  apply (List.perm_ext_iff_of_nodup _ nodup_linkKeys).mpr
  · intro key
    rw [List.mem_flatMap, mem_linkKeys]
    constructor
    · intro filed
      rcases filed with ⟨node, -, listed⟩
      rcases files.mem_getD listed with ⟨link, known, -⟩
      exact ⟨link, known⟩
    · intro known
      rcases known with ⟨link, known⟩
      have inside := joined link (Array.mem_of_getElem? known)
      rcases (files.exists_row (finish link)).mpr inside with ⟨row, found⟩
      refine ⟨finish link, mem_nodeKeys.mpr inside, ?_⟩
      rw [found]
      exact (files.mem found key).mpr ⟨link, known, rfl⟩
  · rw [List.nodup_flatMap]
    constructor
    · intro node _
      exact files.nodup_getD node
    · apply nodup_nodeKeys.imp
      intro node other apart key listed listed'
      rcases files.mem_getD listed with ⟨link, known, rfl⟩
      rcases files.mem_getD listed' with ⟨link', known', rfl⟩
      cases known.symm.trans known'
      exact apart rfl

/-- The links that may follow a link are those in the row of the node at its end. -/
theorem isSuccessor?_eq (files : network.Files network.outgoing? (·.start)) {current next : LinkId}
    {leading following : Link α} {row : List LinkId}
    (found : network.link? current = some leading) (found' : network.link? next = some following)
    (filed : network.outgoing? leading.finish = some row) :
    network.isSuccessor? current next = some (decide (next ∈ row)) := by
  have listed : next ∈ row ↔ following.start = leading.finish := by
    rw [files.mem filed]
    constructor
    · intro known
      rcases known with ⟨link, known, starts⟩
      cases found'.symm.trans known
      exact starts
    · intro starts
      exact ⟨following, found', starts⟩
  simp only [isSuccessor?, found, found', listed]
  rfl

end Files

theorem linkNamed?_eq_some {name : String} {key : LinkId}
    (distinct : (network.links.toList.map (·.name)).Nodup) :
    network.linkNamed? name = some key ↔
      ∃ link, network.link? key = some link ∧ link.name = name := by
  rw [linkNamed?, Option.map_eq_some_iff]
  constructor
  · intro found
    rcases found with ⟨index, found, rfl⟩
    rcases Array.findIdx?_eq_some_iff_getElem.mp found with ⟨inside, named, -⟩
    exact ⟨network.links[index], Array.getElem?_eq_getElem inside, beq_iff_eq.mp named⟩
  · intro known
    rcases known with ⟨link, known, rfl⟩
    rcases Array.getElem?_eq_some_iff.mp known with ⟨inside, rfl⟩
    refine ⟨key.index, ?_, rfl⟩
    apply Array.findIdx?_eq_some_iff_getElem.mpr
    refine ⟨inside, beq_self_eq_true _, ?_⟩
    intro earlier before same
    have apart := List.pairwise_iff_getElem.mp distinct earlier key.index
      (by simpa using Nat.lt_trans before inside) (by simpa using inside) before
    rw [List.getElem_map, List.getElem_map] at apart
    exact apart (beq_iff_eq.mp same)

/-- That a network has what was drafted, and finds its links by their ends and by their names. -/
structure Indexes (network : Network α) (draft : NetworkDraft α) : Prop where
  nodes : network.nodes = draft.nodes
  links : network.links = draft.links
  outgoing : network.Files network.outgoing? (·.start)
  incoming : network.Files network.incoming? (·.finish)
  outgoing_once : (network.nodeKeys.flatMap fun node => (network.outgoing? node).getD []).Perm
    network.linkKeys
  incoming_once : (network.nodeKeys.flatMap fun node => (network.incoming? node).getD []).Perm
    network.linkKeys
  successors : ∀ {current leading}, network.link? current = some leading →
    ∃ row, network.outgoing? leading.finish = some row ∧
      ∀ {next following}, network.link? next = some following →
        network.isSuccessor? current next = some (decide (next ∈ row))
  named : ∀ {name key}, network.linkNamed? name = some key ↔
    ∃ link, network.link? key = some link ∧ link.name = name

end Network

namespace NetworkDraft

variable [Quantity α]

theorem Valid.indexes {draft : NetworkDraft α} (valid : draft.Valid) :
    draft.network.Indexes draft := by
  have leaving : draft.network.Files draft.network.outgoing? (·.start) := Network.files_adjacency
  have arriving : draft.network.Files draft.network.incoming? (·.finish) := Network.files_adjacency
  constructor
  case nodes => rfl
  case links => rfl
  case outgoing => exact leaving
  case incoming => exact arriving
  case outgoing_once =>
    apply leaving.perm_linkKeys
    intro link listed
    exact (valid.joined link listed).1
  case incoming_once =>
    apply arriving.perm_linkKeys
    intro link listed
    exact (valid.joined link listed).2
  case successors =>
    intro current leading found
    have inside := (valid.joined leading (Array.mem_of_getElem? found)).2
    rcases (leaving.exists_row leading.finish).mpr inside with ⟨row, filed⟩
    exact ⟨row, filed, fun found' => leaving.isSuccessor?_eq found found' filed⟩
  case named => exact Network.linkNamed?_eq_some valid.linkNames

/-- Whatever the calls, what they draft leads to a network if and only if it holds together. The
network then knows the links at each node in ascending order, each link once, and the link of each
name. -/
theorem build_indexes_drafted (unit : Quantity.isPositive (Quantity.fraction 1 1 : α) = true)
    (calls : List (Call α)) :
    ((∃ network, (drafted calls).build = .ok network) ↔ (drafted calls).Valid) ∧
      ∀ network, (drafted calls).build = .ok network → network.Indexes (drafted calls) := by
  refine ⟨exists_build_iff unit, ?_⟩
  intro network built
  have valid := (exists_build_iff unit).mp ⟨network, built⟩
  obtain ⟨-, -, -, rfl⟩ := build_eq_ok.mp built
  exact valid.indexes

def street (name : String) (start finish : Nat) : Link Rat where
  name := name
  start := ⟨start⟩
  finish := ⟨finish⟩
  length := 100
  freeSpeed := 10
  lanes := 1
  flowCapacity := 3600
  storage := none
  allowsPassing := true

/-- A loop that is drafted before its node, two parallel links, and a node that no link joins. -/
def loopedCalls : List (Call Rat) :=
  [.addLink (street "loop" 1 1), .addNode "home", .addNode "work", .addLink (street "left" 0 1),
    .addLink (street "right" 0 1), .setStorage ⟨1⟩ 5, .forbidPassing ⟨2⟩, .addNode "field"]

theorem build_indexes_drafted_of_loop :
    Quantity.isPositive (Quantity.fraction 1 1 : Rat) = true ∧ (drafted loopedCalls).Valid ∧
      ∃ network, (drafted loopedCalls).build = .ok network ∧
        network.Indexes (drafted loopedCalls) ∧
        network.outgoing = #[[⟨1⟩, ⟨2⟩], [⟨0⟩], []] ∧
        network.incoming = #[[], [⟨0⟩, ⟨1⟩, ⟨2⟩], []] := by
  have unit : Quantity.isPositive (Quantity.fraction 1 1 : Rat) = true := by decide +kernel
  have rows : ((drafted loopedCalls).build.toOption.map fun network =>
      (network.outgoing, network.incoming)) =
        some (#[[⟨1⟩, ⟨2⟩], [⟨0⟩], []], #[[], [⟨0⟩, ⟨1⟩, ⟨2⟩], []]) := by
    decide +kernel
  rcases Option.map_eq_some_iff.mp rows with ⟨network, succeeded, same⟩
  rw [Attempt.toOption_eq_some] at succeeded
  rw [Prod.mk.injEq] at same
  have indexed := build_indexes_drafted unit loopedCalls
  exact ⟨unit, indexed.1.mp ⟨network, succeeded⟩, network, succeeded, indexed.2 network succeeded,
    same⟩

end NetworkDraft

end MixedTraffic
