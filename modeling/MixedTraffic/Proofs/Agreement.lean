import MixedTraffic.Interrupted
import MixedTraffic.Proofs.Attempt

namespace MixedTraffic

/-- Two works that were stopped for one reason, in states that correspond. -/
structure Interrupted.Alike {ε σ σ' : Type} (corresponds : σ → σ' → Prop)
    (stopped : Interrupted ε σ) (stopped' : Interrupted ε σ') : Prop where
  cause : stopped'.cause = stopped.cause
  reached : corresponds stopped.reached stopped'.reached

namespace Attempt

/-! Two pieces of work that end alike: both fail, for causes that correspond, or both succeed, with
results that do. -/

variable {ε ε' β β' γ γ' σ σ' ι : Type} {failed : ε → ε' → Prop} {done : β → β' → Prop}
  {attempt : Except ε β} {attempt' : Except ε' β'}

inductive Agree (failed : ε → ε' → Prop) (done : β → β' → Prop) : Except ε β → Except ε' β' → Prop
  | ok {result : β} {result' : β'} (same : done result result') :
      Agree failed done (.ok result) (.ok result')
  | error {cause : ε} {cause' : ε'} (same : failed cause cause') :
      Agree failed done (.error cause) (.error cause')

theorem Agree.same (attempt : Except ε β) : Agree Eq Eq attempt attempt := by
  cases attempt with
  | ok => exact .ok rfl
  | error => exact .error rfl

theorem Agree.eq {attempt attempt' : Except ε β} (agree : Agree Eq Eq attempt attempt') :
    attempt = attempt' := by
  cases agree with
  | ok same => rw [same]
  | error same => rw [same]

theorem Agree.imp {failed' : ε → ε' → Prop} {done' : β → β' → Prop}
    (agree : Agree failed done attempt attempt')
    (fails : ∀ cause cause', failed cause cause' → failed' cause cause')
    (succeeds : ∀ result result', done result result' → done' result result') :
    Agree failed' done' attempt attempt' := by
  cases agree with
  | ok same => exact .ok (succeeds _ _ same)
  | error same => exact .error (fails _ _ same)

theorem Agree.reached (agree : Agree failed done attempt attempt') :
    Agree failed (fun result result' => attempt = .ok result ∧ attempt' = .ok result' ∧
      done result result') attempt attempt' := by
  cases agree with
  | ok same => exact .ok ⟨rfl, rfl, same⟩
  | error same => exact .error same

theorem Agree.bind {finished : γ → γ' → Prop} {next : β → Except ε γ} {next' : β' → Except ε' γ'}
    (first : Agree failed done attempt attempt')
    (others : ∀ middle middle', done middle middle' →
      Agree failed finished (next middle) (next' middle')) :
    Agree failed finished (attempt >>= next) (attempt' >>= next') := by
  cases first with
  | ok same => exact others _ _ same
  | error same => exact .error same

theorem Agree.mapError {ε₁ ε₂ : Type} {failed' : ε₁ → ε₂ → Prop} {change : ε → ε₁}
    {change' : ε' → ε₂} (agree : Agree failed done attempt attempt')
    (corresponds : ∀ cause cause', failed cause cause' → failed' (change cause) (change' cause')) :
    Agree failed' done (attempt.mapError change) (attempt'.mapError change') := by
  cases agree with
  | ok same => exact .ok same
  | error same => exact .error (corresponds _ _ same)

theorem Agree.within {ε₁ : Type} {corresponds : σ → σ' → Prop} {τ τ' : Type}
    {corresponds' : τ → τ' → Prop} {attempt : Except (Interrupted ε σ) β}
    {attempt' : Except (Interrupted ε σ') β'} {whole : σ → τ} {whole' : σ' → τ'}
    (agree : Agree (Interrupted.Alike corresponds) done attempt attempt') (change : ε → ε₁)
    (extends' : ∀ part part', corresponds part part' → corresponds' (whole part) (whole' part')) :
    Agree (Interrupted.Alike corresponds') done (attempt.mapError (·.within change whole))
      (attempt'.mapError (·.within change whole')) :=
  agree.mapError fun _ _ alike =>
    ⟨congrArg change alike.cause, extends' _ _ alike.reached⟩

/-- The same work, which stops in different states. -/
theorem Agree.same_stop {ε₁ : Type} {corresponds : σ → σ' → Prop} {state : σ} {state' : σ'}
    (attempt : Except ε β) (change : ε → ε₁) (same : corresponds state state') :
    Agree (Interrupted.Alike corresponds) Eq
      (attempt.mapError fun cause => (⟨change cause, state⟩ : Interrupted ε₁ σ))
      (attempt.mapError fun cause => (⟨change cause, state'⟩ : Interrupted ε₁ σ')) := by
  cases attempt with
  | ok => exact .ok rfl
  | error => exact .error ⟨rfl, same⟩

/-- The same work on the same part of two states. -/
theorem Agree.same_within {ε₁ τ τ' : Type} {corresponds : τ → τ' → Prop} {whole : σ → τ}
    {whole' : σ → τ'} (attempt : Except (Interrupted ε σ) β) (change : ε → ε₁)
    (extends' : ∀ part, corresponds (whole part) (whole' part)) :
    Agree (Interrupted.Alike corresponds) Eq (attempt.mapError (·.within change whole))
      (attempt.mapError (·.within change whole')) := by
  cases attempt with
  | ok => exact .ok rfl
  | error stopped => exact .error ⟨rfl, extends' stopped.reached⟩

theorem Agree.foldlM {alike : σ → σ' → Prop} {step : σ → ι → Except ε σ}
    {step' : σ' → ι → Except ε' σ'} {work : List ι}
    (each : ∀ item ∈ work, ∀ state state', alike state state' →
      Agree failed alike (step state item) (step' state' item))
    {state : σ} {state' : σ'} (start : alike state state') :
    Agree failed alike (work.foldlM step state) (work.foldlM step' state') := by
  induction work generalizing state state' with
  | nil => exact .ok start
  | cons item rest ih =>
      obtain ⟨first, others⟩ := List.forall_mem_cons.mp each
      rw [List.foldlM_cons, List.foldlM_cons]
      exact (first state state' start).bind fun _ _ alike => ih others alike

theorem bind_congr {next next' : β → Except ε γ}
    (same : ∀ result, attempt = .ok result → next result = next' result) :
    attempt >>= next = attempt >>= next' := by
  cases attempt with
  | ok result => exact same result rfl
  | error => rfl

theorem mapM_congr {work work' : ι → Except ε β} {items : List ι}
    (same : ∀ item ∈ items, work item = work' item) : items.mapM work = items.mapM work' := by
  induction items with
  | nil => rfl
  | cons item rest ih =>
      obtain ⟨first, others⟩ := List.forall_mem_cons.mp same
      rw [List.mapM_cons, List.mapM_cons, first, ih others]

end Attempt

end MixedTraffic
