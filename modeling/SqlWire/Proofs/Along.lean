import Mathlib.Order.Defs.Unbundled
import SqlWire.Run

/-!
# Where runs lead

A run goes `Along` a relation if, whatever its end, it leaves a state that is related to the one it
began with. Along a preorder, what is made of such runs is such a run again: these are the rules
for everything that a run never undoes.
-/

namespace SqlWire

open EStateM (Result)

variable {ε ε' σ α β : Type}

/-- Whatever its end, the run leaves a related state. -/
def Along (r : σ → σ → Prop) (run : EStateM ε σ α) : Prop := ∀ s, r s (run s).state

namespace Along

variable {r : σ → σ → Prop} {run : EStateM ε σ α}

/-- A run whose end is known. -/
theorem result (h : Along r run) {s : σ} {end_ : Result ε σ α} (eq : run s = end_) :
    r s end_.state := eq ▸ h s

theorem modify {f : σ → σ} (h : ∀ s, r s (f s)) : Along r (modify f : EStateM ε σ PUnit) := h

theorem attempt (h : Along r run) : Along r (run.attempt : EStateM ε' σ (Except ε α)) := by
  intro s
  unfold EStateM.attempt
  split <;> next eq => exact h.result eq

/-- A run that begins by looking at its state. -/
theorem get_bind {next : σ → EStateM ε σ β} (h : ∀ s, Along r (next s)) :
    Along r (MonadState.get >>= next) := fun s => h s s

variable [IsPreorder σ r]

theorem pure (a : α) : Along r (Pure.pure a : EStateM ε σ α) := refl_of r

theorem throw (e : ε) : Along r (throw e : EStateM ε σ α) := refl_of r

theorem get : Along r (MonadState.get : EStateM ε σ σ) := refl_of r

theorem bind {next : α → EStateM ε σ β} (h : Along r run) (h' : ∀ a, Along r (next a)) :
    Along r (run >>= next) := by
  intro s
  cases eq : run s with
  | ok a s₁ =>
    rw [EStateM.bind_of_ok eq]
    exact trans_of r (h.result eq) (h' a s₁)
  | error e s₁ =>
    rw [EStateM.bind_of_error eq]
    exact h.result eq

theorem forM {list : List β} {f : β → EStateM ε σ Unit} (h : ∀ b, Along r (f b)) :
    Along r (list.forM f) := by
  induction list with
  | nil => exact .pure ()
  | cons b list ih => exact .bind (h b) fun _ => ih

end Along

end SqlWire
