import Mathlib.Data.List.Chain
import MixedTraffic.Network.Basic
import MixedTraffic.Route

namespace MixedTraffic

namespace Driver

/-! Where a trip may come to, whatever its driver sees on the way. -/

/-- The links that a trip may come to, each with the number of links behind it. -/
inductive Reaches (driver : Driver) (agent : AgentId) : LinkId → Nat → Prop where
  | first {context : RouteContext} {link : LinkId}
      (departs : driver.departs context = true)
      (chosen : driver.firstLink? agent context = some link) :
      Reaches driver agent link 0
  | next {context : RouteContext} {link next : LinkId} {step : Nat}
      (reached : Reaches driver agent link step)
      (chosen : driver.nextLink? agent link step context = some next) :
      Reaches driver agent next (step + 1)

theorem Reaches.of_fixed {route : List LinkId} {agent : AgentId} {link : LinkId} {step : Nat}
    (reaches : (fixed route).Reaches agent link step) : route[step]? = some link := by
  cases reaches with
  | first _ chosen => exact List.head?_eq_getElem? ▸ chosen
  | next _ chosen => exact chosen

/-- A driver that only ever chooses a first link that exists, and then links that leave the
node where the one before ends. -/
structure Orderly {α : Type} (network : Network α) (agent : AgentId) (driver : Driver) :
    Prop where
  first : ∀ {context link}, driver.departs context = true →
    driver.firstLink? agent context = some link → (network.link? link).isSome
  next : ∀ {context link next step}, driver.Reaches agent link step →
    driver.nextLink? agent link step context = some next →
      network.isSuccessor? link next = some true

theorem orderly_fixed {α : Type} {network : Network α} {agent : AgentId}
    {route : List LinkId} (exist : ∀ link ∈ route.head?, (network.link? link).isSome)
    (joined : route.IsChain fun link next => network.isSuccessor? link next = some true) :
    (fixed route).Orderly network agent where
  first _ chosen := exist _ chosen
  next reaches chosen := by
    obtain ⟨bound, rfl⟩ := List.getElem?_eq_some_iff.mp reaches.of_fixed
    obtain ⟨after, rfl⟩ := List.getElem?_eq_some_iff.mp chosen
    exact joined.getElem _ after

end Driver

end MixedTraffic
