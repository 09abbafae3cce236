import SqlWire.Proofs.Ended.Course

/-!
# Lines that are sealed

When another thread ends a call it notes what was sent by then and shuts down the link that is
attached. A line is `Tied` if that is its own link, and `Sealed` if from then on nothing more was sent
and its link is down. Each step of a tied line keeps both (`Step.tied`, `Step.sealed`), and so
does any course (`Course.sealed`).
-/

namespace SqlWire

open Net (Env Interrupt World)
open Relation (ReflTransGen)

variable {env : Env}

/-- What is run aside opens and uses sessions of its own. -/
structure Discreet (env : Env) : Prop where
  control : ∀ sql w, (env.kill sql w).control = w.control
  size_le : ∀ sql w, w.links.size ≤ (env.kill sql w).links.size

theorem discreet_alone (env : Env) : Discreet env.alone := ⟨fun _ _ => rfl, fun _ _ => Nat.le_refl _⟩

namespace Net.World

variable {w : World} {id : Nat}

theorem size_shutDown (w : World) (id : Nat) : (w.shutDown id).links.size = w.links.size :=
  Array.size_modify ..

theorem sent_shutDown (w : World) (id : Nat) : (w.shutDown id).sent = w.sent := by
  unfold sent shutDown
  apply List.ext_getElem?
  intro i
  simp only [List.getElem?_map, Array.getElem?_toList, Array.getElem?_modify]
  split
  · rw [Option.map_map]
    rfl
  · rfl

theorem isDown_shutDown (h : id < w.links.size) : (w.shutDown id).isDown id = true := by
  simp [isDown, shutDown, h, Array.getElem_modify]

theorem control_shutDownAttached (w : World) : w.shutDownAttached.control = w.control := by
  unfold shutDownAttached
  split <;> rfl

theorem size_shutDownAttached (w : World) : w.shutDownAttached.links.size = w.links.size := by
  unfold shutDownAttached
  split
  · exact size_shutDown w _
  · rfl

/-- The world in which another thread shuts down the link under a call. -/
theorem interrupted_cases (discreet : Discreet env) (how : Interrupt) (w : World) :
    w.interrupted env how = w ∨ ∃ w₁ : World, w.interrupted env how = w₁.shutDownAttached.markEnded ∧
      w₁.control.attached = w.control.attached ∧ w.links.size ≤ w₁.links.size := by
  unfold interrupted
  split
  · exact .inl rfl
  · right
    cases how with
    | close => exact ⟨w.markClosed, rfl, rfl, Nat.le_refl _⟩
    | abort =>
      refine ⟨env.kill (killSession w.control.threadId) w.markClosed, rfl, ?_,
        discreet.size_le _ w.markClosed⟩
      rw [discreet.control]
      rfl

/-- What passes with a deadline, apart from the flags it sets. -/
theorem expired_spec (discreet : Discreet env) (deadline : Nat) (w : World) :
    (w.expired env deadline).control.attached = w.control.attached ∧
      (w.expired env deadline).control.sentByThen = w.control.sentByThen ∧
        w.links.size ≤ (w.expired env deadline).links.size := by
  unfold expired
  dsimp only
  rw [control_shutDownAttached, discreet.control, size_shutDownAttached]
  refine ⟨rfl, rfl, Nat.le_trans ?_ (discreet.size_le _ _)⟩
  exact Nat.le_refl _

end Net.World

namespace Line

/-- Whoever ends a running call shuts down the link of this line. -/
def Tied (line : Line) : Prop :=
  ∀ id, line.linkId = some id →
    line.world.control.attached = some id ∧ id < line.world.links.size

/-- Since another thread has ended the call nothing was sent, and nothing can be. -/
def Sealed (line : Line) : Prop :=
  ∀ sent, line.world.control.sentByThen = some sent →
    line.world.sent = sent ∧ ∀ id, line.linkId = some id → line.world.isDown id = true

variable {line line' : Line}

theorem linkId_close (line : Line) : line.close.linkId = none := by
  unfold close
  split
  · next eq => rw [linkId, eq]; rfl
  · rfl

theorem control_close (line : Line) : line.close.world.control = line.world.control := by
  unfold close
  split <;> rfl

theorem sent_close (line : Line) : line.close.world.sent = line.world.sent := by
  unfold close
  split
  · rfl
  · exact World.sent_shutDown ..

theorem size_close (line : Line) : line.close.world.links.size = line.world.links.size := by
  unfold close
  split
  · rfl
  · exact World.size_shutDown ..

/-- A line that has let go of its link is tied to nothing. -/
theorem tied_of_linkId (h : line.linkId = none) : line.Tied := fun id held => by
  rw [h] at held
  cases held

/-- A line keeps its link or lets go of it, no connection is forgotten, and whoever ends the call
still ends it on the same link. -/
theorem Step.spec (discreet : Discreet env) (step : Step env line line') :
    (∀ id, line'.linkId = some id → line.linkId = some id) ∧
      line.world.links.size ≤ line'.world.links.size ∧
        line'.world.control.attached = line.world.control.attached := by
  cases step with
  | aside link control links _ =>
    exact ⟨fun id held => link ▸ held, Nat.le_of_eq (by rw [links]), by rw [control]⟩
  | interrupted how =>
    refine ⟨fun id held => held, ?_⟩
    rcases World.interrupted_cases discreet how line.world with same | ⟨w, eq, attached, size⟩
    · dsimp only
      rw [same]
      exact ⟨Nat.le_refl _, rfl⟩
    · dsimp only
      rw [eq]
      refine ⟨Nat.le_trans size (Nat.le_of_eq (World.size_shutDownAttached w).symm), ?_⟩
      exact (congrArg Net.Control.attached (World.control_shutDownAttached w)).trans attached
  | expired deadline =>
    obtain ⟨attached, _, size⟩ := World.expired_spec discreet deadline line.world
    exact ⟨fun id held => held, size, attached⟩
  | sent bytes => exact ⟨fun id held => held, Nat.le_of_eq (Array.size_modify ..).symm, rfl⟩
  | marked => exact ⟨fun id held => held, Nat.le_refl _, rfl⟩
  | closed =>
    refine ⟨fun id held => ?_, Nat.le_of_eq (size_close line).symm, congrArg _ (control_close line)⟩
    rw [linkId_close] at held
    cases held

theorem Step.tied (discreet : Discreet env) (step : Step env line line') (tied : line.Tied) :
    line'.Tied := by
  obtain ⟨held, size, attached⟩ := step.spec discreet
  intro id held'
  obtain ⟨same, bound⟩ := tied id (held id held')
  exact ⟨attached.trans same, Nat.lt_of_lt_of_le bound size⟩

theorem Step.sealed (discreet : Discreet env) (step : Step env line line') (tied : line.Tied)
    (isSealed : line.Sealed) : line'.Sealed := by
  intro sent ended
  -- Over a link that is up the call was not ended before.
  have up {id : Nat} (held : line.linkId = some id) (isUp : line.world.isDown id = false) :
      line.world.control.sentByThen ≠ some sent := fun ended => by
    have down := (isSealed sent ended).2 id held
    exact Bool.false_ne_true (isUp.symm.trans down)
  cases step with
  | aside link control links _ =>
    rw [control] at ended
    obtain ⟨same, down⟩ := isSealed sent ended
    refine ⟨?_, fun id held => ?_⟩
    · unfold World.sent
      rw [links]
      exact same
    · unfold World.isDown
      rw [links]
      exact down id (link ▸ held)
  | interrupted how =>
    rcases World.interrupted_cases discreet how line.world with same | ⟨w, eq, attached, size⟩
    · rw [same] at ended ⊢
      exact isSealed sent ended
    · rw [eq] at ended ⊢
      refine ⟨Option.some_inj.mp ended, fun id held => ?_⟩
      obtain ⟨same, bound⟩ := tied id held
      show w.shutDownAttached.isDown id = true
      unfold World.shutDownAttached
      rw [attached.trans same]
      exact World.isDown_shutDown (Nat.lt_of_lt_of_le bound size)
  | expired deadline held isUp =>
    obtain ⟨_, same, _⟩ := World.expired_spec discreet deadline line.world
    exact absurd (same.symm.trans ended) (up held isUp)
  | sent bytes held isUp => exact absurd ended (up held isUp)
  | marked => exact isSealed sent ended
  | closed =>
    rw [control_close] at ended
    refine ⟨(sent_close line).trans (isSealed sent ended).1, fun id held => ?_⟩
    rw [linkId_close] at held
    cases held

namespace Course

theorem spec (discreet : Discreet env) (course : Course env line line') :
    (∀ id, line'.linkId = some id → line.linkId = some id) ∧
      line.world.links.size ≤ line'.world.links.size ∧
        line'.world.control.attached = line.world.control.attached := by
  induction course with
  | refl => exact ⟨fun _ held => held, Nat.le_refl _, rfl⟩
  | tail _ step ih =>
    obtain ⟨held, size, attached⟩ := step.spec discreet
    exact ⟨fun id held' => ih.1 id (held id held'), Nat.le_trans ih.2.1 size, attached.trans ih.2.2⟩

theorem tied (discreet : Discreet env) (course : Course env line line') (tied : line.Tied) :
    line'.Tied := by
  induction course with
  | refl => exact tied
  | tail _ step ih => exact step.tied discreet ih

/-- Once another thread has ended the call, a tied line sends nothing more. -/
theorem sealed (discreet : Discreet env) (course : Course env line line') (tied : line.Tied)
    (isSealed : line.Sealed) : line'.Sealed := by
  have both : line'.Tied ∧ line'.Sealed := by
    induction course with
    | refl => exact ⟨tied, isSealed⟩
    | tail _ step ih => exact ⟨step.tied discreet ih.1, step.sealed discreet ih.1 ih.2⟩
  exact both.2

end Course

end Line

end SqlWire
