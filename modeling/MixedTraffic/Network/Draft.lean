import MixedTraffic.Network.Basic
import MixedTraffic.Network.Filing

namespace MixedTraffic

/-! A network is drafted node by node and link by link, in any order. Only a complete draft
is checked, so links may be drafted before the nodes that they join. -/

structure NetworkDraft (α : Type) where
  nodes : Array Node := #[]
  links : Array (Link α) := #[]

namespace NetworkDraft

variable {α : Type}

def addNode (draft : NetworkDraft α) (name : String) : NodeId × NetworkDraft α :=
  (⟨draft.nodes.size⟩, { draft with nodes := draft.nodes.push ⟨name⟩ })

def addLink (draft : NetworkDraft α) (link : Link α) : LinkId × NetworkDraft α :=
  (⟨draft.links.size⟩, { draft with links := draft.links.push link })

/-- Replaces the derived storage of a link, if there is such a link. -/
def setStorage (draft : NetworkDraft α) (link : LinkId) (pcu : α) : NetworkDraft α :=
  { draft with
    links := draft.links.modify link.index fun l => { l with storage := some pcu } }

/-- Keeps a link strictly first in, first out, if there is such a link. -/
def forbidPassing (draft : NetworkDraft α) (link : LinkId) : NetworkDraft α :=
  { draft with
    links := draft.links.modify link.index fun l => { l with allowsPassing := false } }

/-- Checks that the nodes that follow those named `earlier` have names of their own. -/
def checkNodes (earlier : List String) : List Node → Except (NetworkError α) Unit
  | [] => .ok ()
  | node :: rest =>
      if earlier.contains node.name then .error (.nodeRepeated node.name)
      else checkNodes (node.name :: earlier) rest

/-- The attributes of a link that must be finite and positive. -/
def attributes [Quantity α] (link : Link α) : List (String × α) :=
  [("length", link.length), ("free speed", link.freeSpeed), ("lanes", link.lanes),
    ("flow capacity", link.flowCapacity),
    ("storage capacity", link.storage.getD (Quantity.fraction 1 1))]

def checkLink [Quantity α] (nodeCount : Nat) (earlier : List String)
    (link : Link α) : Except (NetworkError α) Unit :=
  match [link.start, link.finish].find? fun node => decide (nodeCount ≤ node.index) with
  | some node => .error (.danglingNode link.name node)
  | none =>
      match (attributes link).find? fun (_, value) => !Quantity.isPositive value with
      | some (what, value) => .error (.notPositive link.name what value)
      | none =>
          if earlier.contains link.name then .error (.linkRepeated link.name) else .ok ()

def checkLinks [Quantity α] (nodeCount : Nat) (earlier : List String) :
    List (Link α) → Except (NetworkError α) Unit
  | [] => .ok ()
  | link :: rest => do
      checkLink nodeCount earlier link
      checkLinks nodeCount (link.name :: earlier) rest

/-- The row of each node in which links are filed under the node at one of their ends. -/
def adjacency (nodeCount : Nat) (finish : Link α → NodeId) (links : List (Link α)) :
    Array (List LinkId) :=
  let filing := Filing.ofNodes nodeCount (links.map finish)
  ((List.range nodeCount).map filing.row).toArray

def network (draft : NetworkDraft α) : Network α where
  nodes := draft.nodes
  links := draft.links
  outgoing := adjacency draft.nodes.size (·.start) draft.links.toList
  incoming := adjacency draft.nodes.size (·.finish) draft.links.toList

def build [Quantity α] (draft : NetworkDraft α) : Except (NetworkError α) (Network α) := do
  checkNodes [] draft.nodes.toList
  checkLinks draft.nodes.size [] draft.links.toList
  return draft.network

end NetworkDraft

end MixedTraffic
