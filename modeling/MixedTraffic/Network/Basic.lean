import MixedTraffic.Quantity
import MixedTraffic.Key

namespace MixedTraffic

/-! A road network: directed links between nodes. Links and nodes are addressed by the
position at which they were added. -/

structure Node where
  name : String

structure Link (α : Type) where
  name : String
  start : NodeId
  finish : NodeId
  /-- Metres. -/
  length : α
  /-- Metres per second. -/
  freeSpeed : α
  /-- The number of lanes, which may be fractional. -/
  lanes : α
  /-- The passenger-car units that may leave in an hour. -/
  flowCapacity : α
  /-- The passenger-car units that find room, if not derived from length and lanes. -/
  storage : Option α
  allowsPassing : Bool

namespace Link

variable {α : Type} [Quantity α]

/-- The seconds that a vehicle of the given maximum speed needs on an empty link. -/
def freeTravelSecs (link : Link α) (maxSpeed : α) : α :=
  link.length / Quantity.smaller link.freeSpeed maxSpeed

/-- The storage when one passenger car takes up `cell` metres of a lane. -/
def storageFor (link : Link α) (cell : α) : α :=
  link.storage.getD (link.length * link.lanes / cell)

end Link

inductive NetworkError (α : Type) where
  | danglingNode (link : String) (node : NodeId)
  | notPositive (link : String) (what : String) (value : α)
  | linkRepeated (name : String)
  | nodeRepeated (name : String)
  | unknownLink (link : LinkId)

structure Network (α : Type) where
  nodes : Array Node
  links : Array (Link α)
  /-- Per node, the links that start there, in ascending order. -/
  outgoing : Array (List LinkId)
  /-- Per node, the links that end there, in ascending order. -/
  incoming : Array (List LinkId)

namespace Network

variable {α : Type}

def link? (network : Network α) (link : LinkId) : Option (Link α) :=
  network.links[link.index]?

def findLink (network : Network α) (link : LinkId) : Except (NetworkError α) (Link α) :=
  (network.link? link).elim (.error (.unknownLink link)) .ok

def linkNamed? (network : Network α) (name : String) : Option LinkId :=
  (network.links.findIdx? (·.name == name)).map Key.mk

def outgoing? (network : Network α) (node : NodeId) : Option (List LinkId) :=
  network.outgoing[node.index]?

def incoming? (network : Network α) (node : NodeId) : Option (List LinkId) :=
  network.incoming[node.index]?

def nodeKeys (network : Network α) : List NodeId :=
  (List.range network.nodes.size).map Key.mk

/-- Whether one link starts where another ends. No answer if either does not exist. -/
def isSuccessor? (network : Network α) (current next : LinkId) : Option Bool := do
  let following ← network.link? next
  let leading ← network.link? current
  return following.start == leading.finish

def totalLength [Quantity α] (network : Network α) : α :=
  Quantity.sum (network.links.toList.map (·.length))

end Network

end MixedTraffic
