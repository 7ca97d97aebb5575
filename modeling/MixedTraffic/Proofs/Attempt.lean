import Mathlib.Data.List.Forall2

namespace MixedTraffic.Attempt

/-! Laws of work that may fail: what a success of the whole says of its parts. -/

variable {ε ε' β γ σ : Type}

@[simp] theorem bind_eq_ok {first : Except ε β} {next : β → Except ε γ} {result : γ} :
    (first >>= next) = .ok result ↔
      ∃ middle, first = .ok middle ∧ next middle = .ok result := by
  cases first with
  | error cause => simp [bind, Except.bind]
  | ok middle => simp [bind, Except.bind]

theorem bind_eq_error {first : Except ε β} {next : β → Except ε γ} {cause : ε} :
    (first >>= next) = .error cause ↔
      first = .error cause ∨ ∃ middle, first = .ok middle ∧ next middle = .error cause := by
  cases first with
  | error cause => simp [bind, Except.bind]
  | ok middle => simp [bind, Except.bind]

@[simp] theorem map_eq_ok {attempt : Except ε β} {change : β → γ} {result : γ} :
    (change <$> attempt) = .ok result ↔
      ∃ middle, attempt = .ok middle ∧ change middle = result := by
  cases attempt with
  | error cause => simp [Functor.map, Except.map]
  | ok middle => simp [Functor.map, Except.map]

@[simp] theorem pure_eq_ok {value result : β} :
    (pure value : Except ε β) = .ok result ↔ value = result := by
  simp [pure, Except.pure]

theorem pure_ne_error {value : β} {cause : ε} :
    (pure value : Except ε β) ≠ .error cause := by
  simp [pure, Except.pure]

@[simp] theorem mapError_eq_ok {attempt : Except ε β} {change : ε → ε'} {result : β} :
    attempt.mapError change = .ok result ↔ attempt = .ok result := by
  cases attempt <;> simp [Except.mapError]

theorem mapError_eq_error {attempt : Except ε β} {change : ε → ε'} {cause : ε'} :
    attempt.mapError change = .error cause ↔
      ∃ first, attempt = .error first ∧ change first = cause := by
  cases attempt <;> simp [Except.mapError]

@[simp] theorem elim_eq_ok {found : Option β} {cause : ε} {result : β} :
    found.elim (.error cause) .ok = (.ok result : Except ε β) ↔ found = some result := by
  cases found <;> simp

theorem elim_eq_error {found : Option β} {cause other : ε} :
    found.elim (.error cause) .ok = (.error other : Except ε β) ↔
      found = none ∧ cause = other := by
  cases found <;> simp

@[simp] theorem toOption_eq_some {attempt : Except ε β} {result : β} :
    attempt.toOption = some result ↔ attempt = .ok result := by
  cases attempt <;> simp [Except.toOption]

theorem forM_eq_ok {check : β → Except ε Unit} {items : List β} :
    items.forM check = .ok () ↔ ∀ item ∈ items, check item = .ok () := by
  induction items with
  | nil => simp
  | cons item rest ih =>
      change (check item >>= fun _ => rest.forM check) = .ok () ↔ _
      rw [bind_eq_ok, List.forall_mem_cons]
      constructor
      · rintro ⟨_, first, others⟩
        exact ⟨first, ih.mp others⟩
      · rintro ⟨first, others⟩
        exact ⟨(), first, ih.mpr others⟩

theorem mapM_eq_ok {work : β → Except ε γ} {items : List β} {results : List γ} :
    items.mapM work = .ok results ↔
      List.Forall₂ (fun item result => work item = .ok result) items results := by
  induction items generalizing results with
  | nil =>
      simp only [List.mapM_nil, pure_eq_ok]
      constructor
      · intro same
        exact same ▸ .nil
      · intro refused
        cases refused
        rfl
  | cons item rest ih =>
      simp only [List.mapM_cons, bind_eq_ok, pure_eq_ok]
      constructor
      · intro done
        obtain ⟨first, worked, others, later, rfl⟩ := done
        exact .cons worked (ih.mp later)
      · intro each
        cases each with
        | cons worked later => exact ⟨_, worked, _, ih.mpr later, rfl⟩

theorem exists_mapM {work : β → Except ε γ} {items : List β}
    (each : ∀ item ∈ items, ∃ result, work item = .ok result) :
    ∃ results, items.mapM work = .ok results := by
  induction items with
  | nil => exact ⟨[], rfl⟩
  | cons item rest ih =>
      obtain ⟨⟨first, worked⟩, others⟩ := List.forall_mem_cons.mp each
      obtain ⟨results, later⟩ := ih others
      exact ⟨first :: results, mapM_eq_ok.mpr (.cons worked (mapM_eq_ok.mp later))⟩

theorem exists_of_mem_mapM {work : β → Except ε γ} {items : List β} {results : List γ}
    (done : items.mapM work = .ok results) {result : γ} (member : result ∈ results) :
    ∃ item ∈ items, work item = .ok result := by
  have each := mapM_eq_ok.mp done
  clear done
  induction each with
  | nil => cases member
  | cons worked _ ih =>
      cases member with
      | head => exact ⟨_, List.mem_cons_self, worked⟩
      | tail _ later =>
          obtain ⟨item, listed, same⟩ := ih later
          exact ⟨item, List.mem_cons_of_mem _ listed, same⟩

/-- Work that fails does so at one of its pieces, after those before it have been done. -/
theorem exists_of_foldlM_error {step : σ → β → Except ε σ} {work : List β} {state : σ}
    {cause : ε} (failed : work.foldlM step state = .error cause) :
    ∃ done item rest middle, work = done ++ item :: rest ∧
      done.foldlM step state = .ok middle ∧ step middle item = .error cause := by
  induction work generalizing state with
  | nil => exact absurd failed pure_ne_error
  | cons item rest ih =>
      rw [List.foldlM_cons, bind_eq_error] at failed
      obtain here | ⟨next, stepped, later⟩ := failed
      · exact ⟨[], item, rest, state, rfl, rfl, here⟩
      · obtain ⟨done, other, others, middle, rfl, finished, fails⟩ := ih later
        refine ⟨item :: done, other, others, middle, rfl, ?_, fails⟩
        rw [List.foldlM_cons, stepped]
        exact finished

theorem foldlM_preserves {step : σ → β → Except ε σ} {work : List β} (holds : σ → Prop)
    (preserved : ∀ state item state', item ∈ work → holds state →
      step state item = .ok state' → holds state')
    {state state' : σ} (start : holds state)
    (done : work.foldlM step state = .ok state') : holds state' := by
  induction work generalizing state with
  | nil =>
      simp only [List.foldlM_nil, pure_eq_ok] at done
      exact done ▸ start
  | cons item rest ih =>
      simp only [List.foldlM_cons, bind_eq_ok] at done
      obtain ⟨middle, stepped, finished⟩ := done
      refine ih (fun state item state' member => preserved state item state' ?_) ?_ finished
      · exact List.mem_cons_of_mem _ member
      · exact preserved state item middle List.mem_cons_self start stepped

end MixedTraffic.Attempt
