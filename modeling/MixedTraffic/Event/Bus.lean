import MixedTraffic.Event.Basic

namespace MixedTraffic

/-! Listeners are told of every event, one listener after the other. What they note down
lies in one memory that they share. -/

structure Listener (σ : Type) where
  hear : Event → σ → σ
  /-- Called after the last event of an interval. -/
  endInterval : Tick → σ → σ := fun _ memory => memory

structure Bus (σ : Type) where
  listeners : List (Listener σ) := []
  emitted : Nat := 0
  memory : σ

namespace Bus

variable {σ : Type}

def subscribe (bus : Bus σ) (listener : Listener σ) : Bus σ :=
  { bus with listeners := bus.listeners ++ [listener] }

def emit (bus : Bus σ) (event : Event) : Bus σ :=
  { bus with
    emitted := bus.emitted + 1
    memory := bus.listeners.foldl (fun memory listener => listener.hear event memory)
      bus.memory }

def emitAll (bus : Bus σ) (events : List Event) : Bus σ := events.foldl emit bus

def endInterval (bus : Bus σ) (tick : Tick) : Bus σ :=
  { bus with
    memory := bus.listeners.foldl (fun memory listener => listener.endInterval tick memory)
      bus.memory }

def note (bus : Bus σ) (write : σ → σ) : Bus σ := { bus with memory := write bus.memory }

end Bus

end MixedTraffic
