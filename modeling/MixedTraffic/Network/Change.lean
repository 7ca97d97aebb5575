import MixedTraffic.Network.Basic

namespace MixedTraffic

/-- New values for the free speed or the flow capacity of a link from a second of the day
on. Vehicles that are on the link by then are not affected by its new speed. -/
structure NetworkChange (α : Type) where
  atSecs : Nat
  link : LinkId
  freeSpeed : Option α
  flowCapacity : Option α

variable {α : Type} [Quantity α]

namespace NetworkChange

def checkValue (link : String) (what : String) :
    Option α → Except (NetworkError α) Unit
  | none => .ok ()
  | some value =>
      if Quantity.isPositive value then .ok () else .error (.notPositive link what value)

def check (change : NetworkChange α) (network : Network α) :
    Except (NetworkError α) Unit := do
  let link ← network.findLink change.link
  checkValue link.name "free speed" change.freeSpeed
  checkValue link.name "flow capacity" change.flowCapacity

def revise (change : NetworkChange α) (link : Link α) : Link α :=
  { link with
    freeSpeed := change.freeSpeed.getD link.freeSpeed
    flowCapacity := change.flowCapacity.getD link.flowCapacity }

end NetworkChange

def Network.apply (network : Network α) (change : NetworkChange α) :
    Except (NetworkError α) (Network α) := do
  change.check network
  return { network with links := network.links.modify change.link.index change.revise }

end MixedTraffic
