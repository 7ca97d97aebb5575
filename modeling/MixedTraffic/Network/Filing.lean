import MixedTraffic.Key

namespace MixedTraffic

/-! Links are filed by one of the nodes that they join. A filing has a row of links for each node,
the row of one node right behind that of the node before. -/

structure Filing where
  /-- Where the row of each node starts, and where the last one ends. -/
  starts : Array Nat
  links : Array LinkId

namespace Filing

/-- How many links are to be filed under each node. -/
def tally (nodeCount : Nat) (nodes : List NodeId) : Array Nat :=
  nodes.foldl (fun counts node => counts.modify node.index (· + 1)) (Array.replicate nodeCount 0)

/-- Where rows of the given lengths start, the first of them at `first`, and where the last one
ends. -/
def starting (first : Nat) : List Nat → List Nat
  | [] => [first]
  | count :: counts => first :: starting (first + count) counts

/-- Files a link under a node, at the next free place of its row. -/
def file (free : Array Nat) (links : Array LinkId) (node : NodeId) (link : LinkId) :
    Array Nat × Array LinkId :=
  match free[node.index]? with
  | some place => (free.modify node.index (· + 1), links.setIfInBounds place link)
  | none => (free, links)

/-- Files all links in order, given the node of each. -/
def ofNodes (nodeCount : Nat) (nodes : List NodeId) : Filing :=
  let starts := (starting 0 (tally nodeCount nodes).toList).toArray
  let filed := nodes.zipIdx.foldl
    (fun (free, links) (node, position) => file free links node ⟨position⟩)
    (starts.pop, Array.replicate nodes.length Key.vacant)
  ⟨starts, filed.2⟩

def row (filing : Filing) (node : Nat) : List LinkId :=
  (filing.links.extract (filing.starts.getD node 0) (filing.starts.getD (node + 1) 0)).toList

end Filing

end MixedTraffic
