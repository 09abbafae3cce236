import SqlWire.Proofs.Ended.Crossing

/-!
# Calls that another thread ends

Another thread may close or abort a connection while a call runs. Then the socket is shut down under
the call, which should send nothing more and open no other session. `lost_of_sent_since` says how far
that is so: only a failover does either, because it takes the socket that was shut down for a
connection that was lost. A connection without a redo log is safe.
-/

namespace SqlWire

open Net (Env World)

variable {env : Env} {c : Client} {news : Journal}

/-! ## Aside -/

namespace Client

theorem size_quit (discreet : Discreet env) (c : Client) :
    c.world.links.size ≤ (quit env c).state.world.links.size := by
  have stays : Stays env (quit env) := by
    refine .bind .get fun c => ?_
    split
    · exact .bind (.attempt Exchange.stays_send) fun _ => .modify fun _ => .single .closed
    · exact .pure _
  exact ((stays c).spec discreet).2.1

/-- A statement that is run aside has its own sessions and leaves the flags alone. -/
theorem runAside_spec (env : Env) (sql : String) (w : World) :
    (runAside env sql w).state.control = w.control ∧
      w.links.size ≤ (runAside env sql w).state.links.size := by
  have discreet : Discreet env.alone := discreet_alone env
  unfold runAside
  dsimp only
  cases opened : Exchange.connect env.alone false { w with control := .fresh, deadlines := .empty } with
  | error e after => exact ⟨rfl, (Exchange.grows_connect discreet).result opened⟩
  | ok session after =>
    obtain ⟨channel, ctx, journal⟩ := session
    have grown : w.links.size ≤ after.links.size := (Exchange.grows_connect discreet).result opened
    have ran : Crossed env.alone (.idle channel after ctx)
        (Exchange.execute env.alone (.query sql) {} (.idle channel after ctx)).state :=
      Exchange.crosses_execute discreet (.idle channel after ctx)
    dsimp only
    split
    · next c eq =>
      obtain ⟨_, carried, _⟩ := ran
      rw [eq] at carried
      have more : after.links.size ≤ c.world.links.size := carried.size_le
      exact ⟨rfl, Nat.le_trans (Nat.le_trans grown more) (size_quit discreet c)⟩
    · next e c eq =>
      obtain ⟨_, carried, _⟩ := ran
      rw [eq] at carried
      have more : after.links.size ≤ c.world.links.size := carried.size_le
      split
      · exact ⟨rfl, Nat.le_trans grown more⟩
      · exact ⟨rfl, Nat.le_trans (Nat.le_trans grown more) (size_quit discreet c)⟩

theorem discreet_surroundings (env : Env) : Discreet (surroundings env) where
  control sql w := (runAside_spec env sql w).1
  size_le sql w := (runAside_spec env sql w).2

end Client

/-! ## Clients -/

/-- A client that only its owner makes calls on. Others end its calls, and its session's queries. -/
inductive Owned (env : Env) : Client → Prop where
  | opened {w w' : World} {c : Client} : Client.new (Client.surroundings env) w = .ok c w' → Owned env c
  | called {c : Client} (call : Call) : Owned env c →
      Owned env (call.perform (Client.surroundings env) c).state
  | killed {c : Client} : Owned env c → Owned env (Client.killQuery env c).state

/-- Whoever ends a call on a client shuts down its own link. -/
theorem Owned.tied (h : Owned env c) : c.line.Tied := by
  have discreet := Client.discreet_surroundings env
  induction h with
  | @opened w w' c opened =>
    unfold Client.new at opened
    split at opened
    · cases opened
    · next connected =>
      cases opened
      exact Exchange.tied_connect discreet connected
  | @called c call _ ih =>
    obtain ⟨_, carried, _⟩ := call.crosses_perform discreet c
    exact carried.tied ih
  | @killed c _ ih =>
    have aside := Client.runAside_spec env (World.killQuery c.world.control.threadId) c.world
    unfold Client.killQuery
    split
    · exact ih
    · split <;> next eq =>
        rw [eq] at aside
        intro id held
        obtain ⟨attached, bound⟩ := ih id held
        exact ⟨(congrArg Net.Control.attached aside.1).trans attached,
          Nat.lt_of_lt_of_le bound aside.2⟩

/-- Another thread ended a call, and by then `sent` had been sent. If more was sent after that, or
another session was opened, the call has failed over, on a connection with a redo log. -/
theorem lost_of_sent_since {sent : List Bytes} (call : Call) (owned : Owned env c)
    (isOpen : c.isClosed = false)
    (journal : (call.perform (Client.surroundings env) c).state.journal = c.journal ++ news)
    (ended : (call.perform (Client.surroundings env) c).state.world.control.sentByThen = some sent)
    (more : (call.perform (Client.surroundings env) c).state.world.sent ≠ sent) :
    .lost ∈ news ∧ c.ctx.redo.isSome = true := by
  have discreet := Client.discreet_surroundings env
  have lost : .lost ∈ news := by
    obtain ⟨news', carried, lost | course⟩ := call.crosses_perform discreet c
    · have same : news' = news := List.append_cancel_left (carried.journal.symm.trans journal)
      exact same ▸ lost
    · -- On one line all the way, nothing could be sent any more.
      have fresh : c.line.Sealed := fun sent ended => by
        have closed := c.world.control.closed_of_sentByThen
          (Option.isSome_iff_exists.mpr ⟨sent, ended⟩)
        exact Bool.noConfusion (closed.symm.trans isOpen)
      exact absurd (course.sealed discreet owned.tied fresh sent ended).1 more
  refine ⟨lost, ?_⟩
  have guarded := call.guarded_perform (Client.surroundings env) isOpen
  obtain ⟨news', accounted, allowed⟩ := call.conducts_attempt (Client.surroundings env) c
  obtain rfl := accounted.eq_of_journal (guarded.journal.symm.trans journal)
  exact allowed _ lost

theorem Owned.of_opened {w : World}
    (h : (Client.new (Client.surroundings env) w).error?.isNone = true) :
    Owned env (.opened (Client.surroundings env) w) := by
  obtain ⟨c, opened⟩ := EStateM.Result.exists_ok h
  exact Client.opened_of_new opened ▸ .opened opened

/-- Surroundings in which another thread closes the connection once a call waits for the server. -/
def closedWhileWaiting : Env := { replaying with whenBlocked := some .close }

/-- Servers like those, of which the first one falls silent when it has nothing more to answer. -/
def silentAfter (answers : List Bool) (others : List (List Bool)) : World :=
  let w := answeringInTurn (answers :: others)
  { w with servers := w.servers.mapIdx fun i script => { script with stalls := i == 0 } }

/-- A client in a transaction whose server has fallen silent. Another one would answer. -/
def begunThenSilent : Client :=
  ((Call.execute (.query "BEGIN") {}).perform (Client.surroundings closedWhileWaiting)
    (.opened (Client.surroundings closedWhileWaiting) (silentAfter [true] [[true, true]]))).state

/-- The client after a command that waits for the silent server while the connection is closed. -/
def closedAtUpdate : Client :=
  ((Call.execute (.query "UPDATE") {}).perform (Client.surroundings closedWhileWaiting)
    begunThenSilent).state

/-- The transaction and the command are sent on another session behind the close. -/
theorem lost_closedAtUpdate : ∃ news sent,
    closedAtUpdate.journal = begunThenSilent.journal ++ news ∧
      closedAtUpdate.world.control.sentByThen = some sent ∧ closedAtUpdate.world.sent ≠ sent ∧
        .lost ∈ news ∧ begunThenSilent.ctx.redo.isSome = true := by
  have owned : Owned closedWhileWaiting begunThenSilent := .called _ (.of_opened (by decide +kernel))
  obtain ⟨news, carried, _⟩ := Call.crosses_perform
    (Client.discreet_surroundings closedWhileWaiting) (.execute (.query "UPDATE") {}) begunThenSilent
  obtain ⟨sent, ended⟩ := Option.isSome_iff_exists.mp
    (by decide +kernel : closedAtUpdate.world.control.sentByThen.isSome = true)
  have more : closedAtUpdate.world.sent ≠ sent := fun same => by
    have whole : closedAtUpdate.world.control.sentByThen ≠ some closedAtUpdate.world.sent := by
      decide +kernel
    exact whole (same ▸ ended)
  exact ⟨news, sent, carried.journal, ended, more,
    lost_of_sent_since _ owned (by decide +kernel) carried.journal ended more⟩

end SqlWire
