/-!
# Runs

A run either gives a value or fails, and leaves a state behind in both cases. `attempt` takes up a
failure, and `Lowers` says that a run does not increase a measure of the state, whatever its end.
-/

namespace EStateM

variable {ε ε' σ α β : Type}

def Result.state : Result ε σ α → σ
  | .ok _ s => s
  | .error _ s => s

def Result.error? : Result ε σ α → Option ε
  | .ok _ _ => none
  | .error e _ => some e

theorem Result.exists_ok {r : Result ε σ α} (h : r.error?.isNone = true) :
    ∃ a, r = .ok a r.state := by
  cases r with
  | ok a s => exact ⟨a, rfl⟩
  | error e s => cases h

theorem Result.exists_error {r : Result ε σ α} {p : ε → Bool} (h : r.error?.any p = true) :
    ∃ e, r = .error e r.state ∧ p e = true := by
  cases r with
  | ok a s => cases h
  | error e s => exact ⟨e, rfl, h⟩

/-- Runs and gives the failure as a value. The state stays as the run left it. -/
def attempt (run : EStateM ε σ α) : EStateM ε' σ (Except ε α) := fun s =>
  match run s with
  | .ok a s => .ok (.ok a) s
  | .error e s => .ok (.error e) s

theorem bind_of_ok {run : EStateM ε σ α} {next : α → EStateM ε σ β} {s s' : σ} {a : α}
    (h : run s = .ok a s') : (run >>= next) s = next a s' := by
  simp only [Bind.bind, EStateM.bind, h]

theorem bind_of_error {run : EStateM ε σ α} {next : α → EStateM ε σ β} {s s' : σ} {e : ε}
    (h : run s = .error e s') : (run >>= next) s = .error e s' := by
  simp only [Bind.bind, EStateM.bind, h]

theorem get_bind {next : σ → EStateM ε σ β} {s : σ} :
    (MonadState.get >>= next) s = next s s := rfl

theorem modify_bind {f : σ → σ} {next : PUnit → EStateM ε σ β} {s : σ} :
    (modify f >>= next) s = next ⟨⟩ (f s) := rfl

/-- A run in two parts that went well did so in both. -/
theorem ok_of_bind {run : EStateM ε σ α} {next : α → EStateM ε σ β} {s s' : σ} {b : β}
    (h : (run >>= next) s = .ok b s') : ∃ a s₁, run s = .ok a s₁ ∧ next a s₁ = .ok b s' := by
  cases eq : run s with
  | ok a s₁ => exact ⟨a, s₁, rfl, (bind_of_ok eq).symm.trans h⟩
  | error e s₁ => cases (bind_of_error eq).symm.trans h

/-- A run in two parts that failed did so in one of them. -/
theorem error_of_bind {run : EStateM ε σ α} {next : α → EStateM ε σ β} {s s' : σ} {e : ε}
    (h : (run >>= next) s = .error e s') :
    run s = .error e s' ∨ ∃ a s₁, run s = .ok a s₁ ∧ next a s₁ = .error e s' := by
  cases eq : run s with
  | ok a s₁ => exact .inr ⟨a, s₁, rfl, (bind_of_ok eq).symm.trans h⟩
  | error e₁ s₁ =>
    cases (bind_of_error eq).symm.trans h
    exact .inl rfl

theorem attempt_of_ok {run : EStateM ε σ α} {s s' : σ} {a : α} (h : run s = .ok a s') :
    (run.attempt : EStateM ε' σ (Except ε α)) s = .ok (.ok a) s' := by
  simp only [attempt, h]

theorem attempt_of_error {run : EStateM ε σ α} {s s' : σ} {e : ε} (h : run s = .error e s') :
    (run.attempt : EStateM ε' σ (Except ε α)) s = .ok (.error e) s' := by
  simp only [attempt, h]

end EStateM

namespace SqlWire

variable {ε ε' σ α β : Type}

def Lowers (measure : σ → Nat) (run : EStateM ε σ α) : Prop :=
  ∀ s, measure (run s).state ≤ measure s

namespace Lowers

variable {measure : σ → Nat}

theorem pure (a : α) : Lowers measure (Pure.pure a : EStateM ε σ α) := fun _ => Nat.le_refl _

theorem throw (e : ε) : Lowers measure (throw e : EStateM ε σ α) := fun _ => Nat.le_refl _

theorem bind {run : EStateM ε σ α} {next : α → EStateM ε σ β} (h : Lowers measure run)
    (h' : ∀ a, Lowers measure (next a)) : Lowers measure (run >>= next) := by
  intro s
  have first := h s
  simp only [Bind.bind, EStateM.bind]
  split
  · next a s' eq =>
    rw [eq] at first
    exact Nat.le_trans (h' a s') first
  · next e s' eq =>
    rw [eq] at first
    exact first

theorem attempt {run : EStateM ε σ α} (h : Lowers measure run) :
    Lowers measure (run.attempt : EStateM ε' σ (Except ε α)) := by
  intro s
  have first := h s
  simp only [EStateM.attempt]
  split <;> next eq => rw [eq] at first; exact first

theorem modify {f : σ → σ} (h : ∀ s, measure (f s) ≤ measure s) :
    Lowers measure (modify f : EStateM ε σ PUnit) := h

end Lowers

end SqlWire
