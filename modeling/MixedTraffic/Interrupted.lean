namespace MixedTraffic

/-- Work that was stopped midway: the cause, and the state that had been reached. -/
structure Interrupted (ε σ : Type) where
  cause : ε
  reached : σ

/-- Work on a part of a state was stopped midway, and with it the work on the whole. -/
def Interrupted.within {ε ε' σ τ : Type} (change : ε → ε') (whole : σ → τ)
    (stopped : Interrupted ε σ) : Interrupted ε' τ :=
  ⟨change stopped.cause, whole stopped.reached⟩

end MixedTraffic
