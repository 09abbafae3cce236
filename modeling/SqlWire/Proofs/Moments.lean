/-!
# What happens one thing at a time

Where several parties use one thing, what they do to it is a list of acts in the order in which they
come about. Each act finds a state and leaves another one. `moments` lists the acts with the states that
they find, and `keeps_moments` is the induction over them: what an act keeps, given all that happened
before, holds at each moment.
-/

namespace SqlWire

variable {σ α : Type}

/-- An act, and the state that it finds. -/
structure Moment (σ α : Type) where
  before : σ
  act : α

/-- The acts of a run that begins with some state. -/
def moments (step : σ → α → σ) (s : σ) : List α → List (Moment σ α)
  | [] => []
  | act :: acts => ⟨s, act⟩ :: moments step (step s act) acts

section

variable {step : σ → α → σ} {s : σ} {acts : List α} {steps earlier later : List (Moment σ α)}
  {m : Moment σ α}

theorem acts_moments (step : σ → α → σ) (s : σ) (acts : List α) :
    (moments step s acts).map (·.act) = acts := by
  induction acts generalizing s with
  | nil => rfl
  | cons act acts ih => simp [moments, ih]

/-- What each act keeps, given the acts before it, holds whenever an act begins. -/
theorem keeps_moments {keeps : List (Moment σ α) → σ → Prop}
    (keep : ∀ steps s act, keeps steps s → keeps (steps ++ [⟨s, act⟩]) (step s act))
    (start : keeps steps s) (split : moments step s acts = earlier ++ m :: later) :
    keeps (steps ++ earlier) m.before := by
  induction acts generalizing s steps earlier with
  | nil => cases earlier <;> cases split
  | cons act acts ih =>
    cases earlier with
    | nil =>
      obtain ⟨rfl, -⟩ := List.cons.inj split
      simpa using start
    | cons first earlier =>
      obtain ⟨rfl, rest⟩ := List.cons.inj split
      have behind := ih (keep _ _ _ start) rest
      rwa [List.append_assoc] at behind

end

end SqlWire
