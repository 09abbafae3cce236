import SqlWire.Run

/-!
# Outcomes of runs

What a run from one state gives, a value or a failure, and the state that it leaves, satisfy a
predicate. The rules follow the way runs are put together: behind a run in two parts the second part
goes on from wherever the first may have led.
-/

namespace SqlWire

variable {ε ε' σ α β : Type}

/-- What the run gives and leaves, from this state. -/
def Yields (run : EStateM ε σ α) (s : σ) (post : Except ε α → σ → Prop) : Prop :=
  match run s with
  | .ok a s' => post (.ok a) s'
  | .error e s' => post (.error e) s'

namespace Yields

variable {run : EStateM ε σ α} {s s' : σ} {mid post post' : Except ε α → σ → Prop}

theorem of_ok {a : α} (eq : run s = .ok a s') (h : post (.ok a) s') : Yields run s post := by
  unfold Yields
  rw [eq]
  exact h

theorem of_error {e : ε} (eq : run s = .error e s') (h : post (.error e) s') : Yields run s post := by
  unfold Yields
  rw [eq]
  exact h

theorem of_eq {run' : EStateM ε σ α} (eq : run s = run' s') (h : Yields run' s' post) :
    Yields run s post := by
  unfold Yields
  rw [eq]
  exact h

theorem pure {a : α} (h : post (.ok a) s) : Yields (Pure.pure a) s post := h

theorem throw {e : ε} (h : post (.error e) s) : Yields (throw e) s post := h

theorem mono (h : Yields run s post) (weaker : ∀ given s', post given s' → post' given s') :
    Yields run s post' := by
  unfold Yields at *
  split at h
  · exact weaker _ _ h
  · exact weaker _ _ h

/-- A known end. -/
theorem result (h : Yields run s post) {a : α} (eq : run s = .ok a s') : post (.ok a) s' := by
  unfold Yields at h
  rwa [eq] at h

theorem failure (h : Yields run s post) {e : ε} (eq : run s = .error e s') : post (.error e) s' := by
  unfold Yields at h
  rwa [eq] at h

/-- Where only the state counts. -/
theorem state {post : σ → Prop} (h : Yields run s fun _ s' => post s') : post (run s).state := by
  unfold Yields at h
  split at h <;> next eq =>
    rw [eq]
    exact h

/-- What is known of the state besides. -/
theorem and_state {left : σ → Prop} (h : Yields run s post) (known : left (run s).state) :
    Yields run s fun given s' => post given s' ∧ left s' := by
  unfold Yields at *
  split at h <;> next eq =>
    rw [eq] at known
    exact ⟨h, known⟩

theorem bind {next : α → EStateM ε σ β} {post : Except ε β → σ → Prop} (first : Yields run s mid)
    (ok : ∀ a s', mid (.ok a) s' → Yields (next a) s' post)
    (error : ∀ e s', mid (.error e) s' → post (.error e) s') : Yields (run >>= next) s post := by
  unfold Yields at first
  cases eq : run s with
  | ok a s' =>
    rw [eq] at first
    unfold Yields
    rw [EStateM.bind_of_ok eq]
    exact ok a s' first
  | error e s' =>
    rw [eq] at first
    exact of_error (EStateM.bind_of_error eq) (error e s' first)

/-- What is given is put in another form. -/
theorem map {f : α → β} {post : Except ε β → σ → Prop}
    (h : Yields run s fun given s' => post (given.map f) s') : Yields (do return f (← run)) s post :=
  h.bind (fun _ _ h => .pure h) fun _ _ h => h

/-- Where the failure is taken up, the run goes on in any case. -/
theorem attempt_bind {next : Except ε α → EStateM ε' σ β} {post : Except ε' β → σ → Prop}
    (first : Yields run s mid) (next_yields : ∀ given s', mid given s' → Yields (next given) s' post) :
    Yields (run.attempt >>= next) s post := by
  unfold Yields at first
  cases eq : run s with
  | ok a s' =>
    rw [eq] at first
    unfold Yields
    rw [EStateM.bind_of_ok (EStateM.attempt_of_ok eq)]
    exact next_yields _ _ first
  | error e s' =>
    rw [eq] at first
    unfold Yields
    rw [EStateM.bind_of_ok (EStateM.attempt_of_error eq)]
    exact next_yields _ _ first

theorem get_bind {next : σ → EStateM ε σ β} {post : Except ε β → σ → Prop}
    (h : Yields (next s) s post) : Yields (MonadState.get >>= next) s post := h

theorem modify_bind {f : σ → σ} {next : PUnit → EStateM ε σ β} {post : Except ε β → σ → Prop}
    (h : Yields (next ⟨⟩) (f s) post) : Yields (modify f >>= next) s post := h

end Yields

end SqlWire
