import RelDirectory.Failure
import RelDirectory.Log

/-!
# Steps

A step reads and changes a state, reports events, and gives a value or fails.  What it did to the
state and what it reported before a failure stay.  `onPart` runs a step on a part of a larger
state, and `attempt` turns a failure into a value.
-/
set_option autoImplicit false
namespace RelDirectory

structure Outcome (σ α : Type) where
  result : Except Failure α
  state : σ
  log : Log

def Step (σ α : Type) : Type := σ → Outcome σ α

namespace Step

variable {σ τ α β : Type}

def done (value : α) : Step σ α := fun s => ⟨.ok value, s, []⟩

def fail (f : Failure) : Step σ α := fun s => ⟨.error f, s, []⟩

def ofExcept (result : Except Failure α) : Step σ α := fun s => ⟨result, s, []⟩

def andThen (x : Step σ α) (f : α → Step σ β) : Step σ β := fun s =>
  match x s with
  | ⟨.error e, s', log⟩ => ⟨.error e, s', log⟩
  | ⟨.ok value, s', log⟩ =>
    let next := f value s'
    { next with log := log ++ next.log }

instance : Monad (Step σ) where
  pure := done
  bind := andThen

def report (e : Event) : Step σ Unit := fun s => ⟨.ok (), s, [e]⟩

def reportAll (log : Log) : Step σ Unit := fun s => ⟨.ok (), s, log⟩

def current : Step σ σ := fun s => ⟨.ok s, s, []⟩

def replace (s : σ) : Step σ Unit := fun _ => ⟨.ok (), s, []⟩

/-- The step, its failure given as a value. -/
def attempt (x : Step σ α) : Step σ (Except Failure α) := fun s =>
  let o := x s
  ⟨.ok o.result, o.state, o.log⟩

/-- A step on the part that `get` finds and `set` puts back. -/
def onPart (get : τ → σ) (set : σ → τ → τ) (x : Step σ α) : Step τ α := fun t =>
  let o := x (get t)
  ⟨o.result, set o.state t, o.log⟩

theorem bind_apply (x : Step σ α) (f : α → Step σ β) (s : σ) :
    (x >>= f) s = andThen x f s := rfl

theorem andThen_ok {x : Step σ α} {f : α → Step σ β} {s : σ} {value : α}
    (h : (x s).result = .ok value) :
    andThen x f s = { f value (x s).state with log := (x s).log ++ (f value (x s).state).log } := by
  cases hx : x s with
  | mk result state log =>
    rw [hx] at h
    cases h
    simp [andThen, hx]

theorem andThen_error {x : Step σ α} {f : α → Step σ β} {s : σ} {e : Failure}
    (h : (x s).result = .error e) : andThen x f s = ⟨.error e, (x s).state, (x s).log⟩ := by
  cases hx : x s with
  | mk result state log =>
    rw [hx] at h
    cases h
    simp [andThen, hx]

end Step

end RelDirectory
