namespace MixedTraffic

/-! Members of a run are addressed by their position. A key says what it addresses,
so a link is never looked up with an agent. -/

inductive Kind where
  | agent
  | vehicle
  | link
  | node
  | mode
deriving DecidableEq

namespace Kind

def name : Kind → String
  | agent => "AgentId"
  | vehicle => "VehicleId"
  | link => "LinkId"
  | node => "NodeId"
  | mode => "ModeId"

/-- The largest key of a kind. It is reserved: no member ever has it. -/
def reserved : Kind → Nat
  | mode => 0xffff
  | _ => 0xffffffff

end Kind

structure Key (kind : Kind) where
  index : Nat
deriving DecidableEq, Hashable

abbrev AgentId := Key .agent
abbrev VehicleId := Key .vehicle
abbrev LinkId := Key .link
abbrev NodeId := Key .node
abbrev ModeId := Key .mode

namespace Key

variable {kind : Kind}

/-- The key that addresses no member. -/
def vacant : Key kind := ⟨kind.reserved⟩

instance : Inhabited (Key kind) := ⟨vacant⟩

def isValid (key : Key kind) : Bool := key != vacant

/-- The key at a position, unless the position is beyond the last key of the kind. -/
def ofNat? (position : Nat) : Option (Key kind) :=
  if position ≤ kind.reserved then some ⟨position⟩ else none

def label (key : Key kind) : String :=
  kind.name ++ "(" ++ toString key.index ++ ")"

def vehicle (agent : AgentId) : VehicleId := ⟨agent.index⟩

theorem nodup_map_range (count : Nat) : ((List.range count).map (mk : Nat → Key kind)).Nodup :=
  List.pairwise_map.mpr <| List.nodup_range.imp fun apart same => apart (congrArg index same)

end Key

end MixedTraffic
