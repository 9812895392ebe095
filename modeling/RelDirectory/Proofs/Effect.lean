import RelDirectory.Step

/-!
# What a step does

`Step.effect` is the result of a step and the state it leaves, its log left out.  There is one
equation for every way of building steps, so a step on a given state is followed by rewriting.
A step that `Respects` a relation cannot tell related states apart; it is built of steps that do
not.  A step that `Preserves` a property is one of these, for the relation of every state that has
the property to itself (`respects_only_iff`).
-/
set_option autoImplicit false
namespace RelDirectory

section Results

variable {ε α β : Type}

@[simp] theorem ok_bind (value : α) (f : α → Except ε β) :
    (Except.ok value >>= f) = f value := rfl

@[simp] theorem error_bind (e : ε) (f : α → Except ε β) :
    ((Except.error e : Except ε α) >>= f) = .error e := rfl

theorem bind_ok {x : Except ε α} {f : α → Except ε β} {result : β}
    (run : (x >>= f) = .ok result) : ∃ value, x = .ok value ∧ f value = .ok result := by
  cases x with
  | error e => cases run
  | ok value => exact ⟨value, rfl, run⟩

theorem map_ok {x : Except ε α} {f : α → β} {result : β} (run : x.map f = .ok result) :
    ∃ value, x = .ok value ∧ f value = result := by
  cases x with
  | error e => cases run
  | ok value => exact ⟨value, rfl, Except.ok.inj run⟩

theorem mapError_ok {δ : Type} {x : Except ε α} {f : ε → δ} {value : α}
    (run : x.mapError f = .ok value) : x = .ok value := by
  cases x with
  | error e => cases run
  | ok value' =>
    cases run
    rfl

end Results

namespace Step

variable {σ τ α β : Type}

/-- The result of a step and the state after it. -/
def effect (x : Step σ α) (s : σ) : Except Failure α × σ := ((x s).result, (x s).state)

def after (x : Step σ α) (s : σ) : σ := (effect x s).2

theorem result_of_effect {x : Step σ α} {s s' : σ} {r : Except Failure α}
    (run : effect x s = (r, s')) : (x s).result = r := congrArg Prod.fst run

theorem state_of_effect {x : Step σ α} {s s' : σ} {r : Except Failure α}
    (run : effect x s = (r, s')) : (x s).state = s' := congrArg Prod.snd run

@[simp] theorem effect_pure (value : α) (s : σ) :
    effect (pure value : Step σ α) s = (.ok value, s) := rfl

@[simp] theorem effect_fail (f : Failure) (s : σ) :
    effect (fail f : Step σ α) s = (.error f, s) := rfl

@[simp] theorem effect_ofExcept (result : Except Failure α) (s : σ) :
    effect (ofExcept result) s = (result, s) := rfl

@[simp] theorem effect_report (e : Event) (s : σ) : effect (report e) s = (.ok (), s) := rfl

@[simp] theorem effect_reportAll (log : Log) (s : σ) :
    effect (reportAll log) s = (.ok (), s) := rfl

@[simp] theorem effect_current (s : σ) : effect current s = (.ok s, s) := rfl

@[simp] theorem effect_replace (s s' : σ) : effect (replace s') s = (.ok (), s') := rfl

@[simp] theorem effect_attempt (x : Step σ α) (s : σ) :
    effect (attempt x) s = (.ok (effect x s).1, (effect x s).2) := rfl

@[simp] theorem effect_onPart (get : τ → σ) (set : σ → τ → τ) (x : Step σ α) (t : τ) :
    effect (onPart get set x) t = ((effect x (get t)).1, set (effect x (get t)).2 t) := rfl

theorem effect_bind_ok {x : Step σ α} {s s' : σ} {value : α} (f : α → Step σ β)
    (run : effect x s = (.ok value, s')) : effect (x >>= f) s = effect (f value) s' := by
  have first := result_of_effect run
  have second := state_of_effect run
  simp only [effect, bind_apply, andThen_ok first, second]

theorem effect_bind_error {x : Step σ α} {s s' : σ} {e : Failure} (f : α → Step σ β)
    (run : effect x s = (.error e, s')) : effect (x >>= f) s = (.error e, s') := by
  have first := result_of_effect run
  have second := state_of_effect run
  simp only [effect, bind_apply, andThen_error first, second]

/-- The second step runs on the state that the first one leaves, unless the first one fails. -/
@[simp] theorem effect_bind (x : Step σ α) (f : α → Step σ β) (s : σ) :
    effect (x >>= f) s =
      match effect x s with
      | (.ok value, s') => effect (f value) s'
      | (.error e, s') => (.error e, s') := by
  cases run : effect x s with
  | mk result s' =>
    cases result with
    | ok value => exact effect_bind_ok f run
    | error e => exact effect_bind_error f run

/-! ## What a step preserves and what it cannot tell apart -/

/-- The step leads from a state with a property to one with it, whether it fails or not. -/
def Preserves (P : σ → Prop) (x : Step σ α) : Prop := ∀ s, P s → P (effect x s).2

/-- From related states the step gives the same result, and it leads to related states. -/
def Respects (R : σ → σ → Prop) (x : Step σ α) : Prop :=
  ∀ s s', R s s' → (effect x s').1 = (effect x s).1 ∧ R (effect x s).2 (effect x s').2

/-- A state with a property is related to itself alone. -/
def Only (P : σ → Prop) (s s' : σ) : Prop := s' = s ∧ P s

theorem respects_only_iff {P : σ → Prop} {x : Step σ α} :
    Respects (Only P) x ↔ Preserves P x := by
  constructor
  · intro respects s held
    exact (respects s s ⟨rfl, held⟩).2.2
  · rintro preserves s _ ⟨rfl, held⟩
    exact ⟨rfl, rfl, preserves _ held⟩

variable {R : σ → σ → Prop}

theorem respects_pure (value : α) : Respects R (pure value : Step σ α) :=
  fun _ _ related => ⟨rfl, related⟩

theorem respects_fail (e : Failure) : Respects R (fail e : Step σ α) :=
  fun _ _ related => ⟨rfl, related⟩

theorem respects_ofExcept (result : Except Failure α) :
    Respects R (ofExcept result : Step σ α) := fun _ _ related => ⟨rfl, related⟩

theorem respects_report (e : Event) : Respects R (report e) := fun _ _ related => ⟨rfl, related⟩

theorem respects_attempt {x : Step σ α} (respects : Respects R x) : Respects R (attempt x) := by
  intro s s' related
  obtain ⟨same, after⟩ := respects s s' related
  exact ⟨congrArg Except.ok same, after⟩

theorem respects_bind {x : Step σ α} {g : α → Step σ β} (first : Respects R x)
    (second : ∀ value, Respects R (g value)) : Respects R (x >>= g) := by
  intro s s' related
  obtain ⟨same, after⟩ := first s s' related
  rw [effect_bind, effect_bind]
  cases run : effect x s with
  | mk result t =>
    cases run' : effect x s' with
    | mk result' t' =>
      rw [run, run'] at same after
      cases (same : result' = result)
      cases result with
      | ok value => exact second value t t' after
      | error e => exact ⟨rfl, after⟩

/-- What is read from the state goes on in the same way if related states agree on it. -/
theorem respects_current {g : σ → Step σ α} (agree : ∀ s s', R s s' → g s' = g s)
    (each : ∀ s, Respects R (g s)) : Respects R (current >>= g) := by
  intro s s' related
  rw [effect_bind, effect_bind]
  simp only [effect_current, agree s s' related]
  exact each s s s' related

end Step

end RelDirectory
