import SqlWire.Client.Calls

/-!
# Reading fails for good

Whatever goes wrong while a response is read, from the socket up to the packets of a local file, it
breaks the connection. A command may fail before it is sent and leave the connection usable, but once
it is sent, either its response is read or the connection is lost (`breaks_readUntil`).
-/

namespace SqlWire

open Net (Env Link World)

variable {σ α β : Type} {env : Env} {run : EStateM Error σ α}

/-- Whatever a run fails with breaks the connection. -/
def Breaks (run : EStateM Error σ α) : Prop :=
  ∀ ⦃s e s'⦄, run s = .error e s' → e.isBroken = true

namespace Breaks

theorem bind {next : α → EStateM Error σ β} (h : Breaks run) (h' : ∀ a, Breaks (next a)) :
    Breaks (run >>= next) := by
  intro s e s' failed
  cases eq : run s with
  | ok a s₁ => exact h' a ((EStateM.bind_of_ok eq).symm.trans failed)
  | error e₁ s₁ =>
    cases (EStateM.bind_of_error eq).symm.trans failed
    exact h eq

theorem get : Breaks (MonadState.get : EStateM Error σ σ) := fun _ _ _ failed => by cases failed

theorem modify (f : σ → σ) : Breaks (modify f : EStateM Error σ PUnit) := fun _ _ _ failed => by
  cases failed

theorem attempt (run : EStateM Error σ α) : Breaks (run.attempt : EStateM Error σ _) := by
  intro s e s' failed
  unfold EStateM.attempt at failed
  split at failed <;> cases failed

end Breaks

/-! ## Sockets -/

theorem breaks_beginStep : Breaks (World.beginStep env) := by
  intro w e w' failed
  unfold World.beginStep at failed
  dsimp only at failed
  split at failed
  · injection failed with eq
    exact eq ▸ rfl
  · cases failed

theorem breaks_linkSend {link : Link} {bytes : ByteArray} : Breaks (link.send env bytes) := by
  intro w e w' failed
  unfold Link.send at failed
  split at failed
  · next began =>
    cases failed
    exact breaks_beginStep began
  · split at failed
    · cases failed
      rfl
    · cases failed

theorem isBroken_giveUp (link : Link) (since : Nat) (w : World) :
    (link.giveUp since w).1.isBroken = true := by
  unfold Link.giveUp
  split <;> rfl

theorem isBroken_starve (link : Link) (w : World) : (Link.starve env link w).1.isBroken = true := by
  unfold Link.starve
  dsimp only
  -- Whoever ends the wait, the stream is at its end or the socket has waited long enough.
  repeat' split
  all_goals first | rfl | exact isBroken_giveUp ..

theorem breaks_take {n : Nat} : Breaks (Link.take env n) := by
  intro ⟨link, w⟩ e s' failed
  dsimp only [Link.take] at failed
  split at failed
  · cases failed
  · split at failed
    · next began =>
      cases failed
      exact breaks_beginStep began
    · split at failed
      · cases failed
      · cases failed
        exact isBroken_starve ..

/-! ## Frames and packets -/

theorem breaks_flush {send : ByteArray → EStateM Error σ Unit} (h : ∀ bytes, Breaks (send bytes)) :
    Breaks (Packet.Outgoing.flush (Packet.handOn send) : EStateM Error (Packet.Outgoing σ) Unit) := by
  intro o e o' failed
  rw [Packet.Outgoing.flush_handOn] at failed
  split at failed
  · cases failed
  · next sent =>
    cases failed
    exact h _ sent

/-- A payload that does not reach the limit fails only with the connection. -/
theorem broken_or_le_of_writeFrom {send : ByteArray → EStateM Error σ Unit}
    (h : ∀ bytes, Breaks (send bytes)) {payload : ByteArray} {limit : Option Nat} {offset : Nat}
    {o o' : Packet.Outgoing σ} {e : Error} (within : offset ≤ payload.size)
    (failed : Packet.writeFrom (Packet.handOn send) payload limit offset o = .error e o') :
    e.isBroken = true ∨ ∃ max ∈ limit, max ≤ payload.size := by
  fun_induction Packet.writeFrom (Packet.handOn send) payload limit offset o with
  | case1 offset o size max refused =>
    obtain ⟨limit_eq, reached⟩ := Option.filter_eq_some_iff.mp refused
    have : max ≤ offset + size := of_decide_eq_true reached
    exact .inr ⟨max, limit_eq, by omega⟩
  | case2 offset o size _ header pending e₁ o₁ relieved =>
    cases failed
    unfold Packet.Outgoing.relieve at relieved
    split at relieved
    · exact .inl (breaks_flush h relieved)
    · cases relieved
  | case3 => cases failed
  | case4 offset o size _ header pending o₁ relieved _ ih => exact ih (by omega) failed

theorem breaks_readOnto {source : Packet.Source σ} (h : ∀ n, Breaks (source.pull n))
    (out : ByteArray) :
    Breaks (Packet.readOnto source out : EStateM Error (Packet.Incoming σ) ByteArray) := by
  intro i e i' failed
  fun_induction Packet.readOnto source out i with
  | case1 out i e₁ s head =>
    cases failed
    exact h _ head
  | case2 | case3 =>
    cases failed
    rfl
  | case4 out i head s _ header _ sequence _ e₁ s' body =>
    cases failed
    exact h _ body
  | case5 => cases failed
  | case6 out i head s _ header _ sequence _ body s' _ _ ih => exact ih failed

namespace Line

theorem breaks_pullRaw {n : Nat} : Breaks (pullRaw env n) := by
  intro line e line' failed
  unfold pullRaw at failed
  split at failed
  · cases failed
    rfl
  · split at failed
    · cases failed
    · next taken =>
      cases failed
      exact breaks_take taken

theorem breaks_readFrame : Breaks (readFrame env) := by
  intro line e line' failed
  dsimp only [readFrame] at failed
  split at failed
  · next head =>
    cases failed
    exact breaks_pullRaw head
  · split at failed
    · cases failed
      rfl
    · split at failed
      · cases failed
        rfl
      · split at failed
        · next body =>
          cases failed
          exact breaks_pullRaw body
        · split at failed
          · cases failed
            rfl
          · cases failed

theorem breaks_fill {n : Nat} {out : ByteArray} : Breaks (fill env n out) := by
  intro line e line' failed
  fun_induction fill env n out line with
  | case1 => cases failed
  | case2 n out line _ _ e₁ line₁ frame =>
    cases failed
    exact breaks_readFrame frame
  | case3 n out line _ _ line₁ frame ih => exact ih failed
  | case4 n out line _ _ size stop ih => exact ih failed

theorem breaks_pull {n : Nat} : Breaks (pull env n) := by
  intro line e line' failed
  unfold pull at failed
  split at failed
  · exact breaks_fill failed
  · exact breaks_pullRaw failed

theorem breaks_readPacket : Breaks (readPacket env) := by
  intro line e line' failed
  unfold readPacket at failed
  dsimp only at failed
  split at failed
  · cases failed
  · next read =>
    cases failed
    exact breaks_readOnto (fun _ => breaks_pull) _ read

theorem breaks_sendRaw {bytes : ByteArray} : Breaks (sendRaw env bytes) := by
  intro line e line' failed
  unfold sendRaw at failed
  split at failed
  · cases failed
    rfl
  · split at failed
    · cases failed
    · next sent =>
      cases failed
      exact breaks_linkSend sent

theorem breaks_send {bytes : ByteArray} : Breaks (send env bytes) := by
  intro line e line' failed
  unfold send at failed
  split at failed
  · exact breaks_sendRaw failed
  · exact breaks_sendRaw failed

theorem broken_or_le_of_writePacket {payload : ByteArray} {limit : Option Nat} {line line' : Line}
    {e : Error} (failed : writePacket env payload limit line = .error e line') :
    e.isBroken = true ∨ ∃ max ∈ limit, max ≤ payload.size := by
  dsimp only [writePacket, Packet.write] at failed
  split at failed
  · next written =>
    cases failed
    exact broken_or_le_of_writeFrom (fun _ => breaks_send) (Nat.zero_le _) written
  · split at failed
    · cases failed
    · split at failed
      · cases failed
      · next flushed =>
        cases failed
        exact .inl (breaks_flush (fun _ => breaks_send) flushed)

/-- Without a limit no payload is too large. -/
theorem breaks_writePacket {payload : ByteArray} : Breaks (writePacket env payload none) :=
  fun _ _ _ failed => (broken_or_le_of_writePacket failed).resolve_right nofun

end Line

/-! ## Responses -/

theorem breaks_onLine {run : EStateM Error Line α} (h : Breaks run) : Breaks (Client.onLine run) := by
  intro c e c' failed
  unfold Client.onLine at failed
  split at failed
  · cases failed
  · next ended =>
    cases failed
    exact h ended

namespace Exchange

variable {command : Command}

theorem breaks_sendPayload {payload : ByteArray} : Breaks (sendPayload env payload) :=
  breaks_onLine Line.breaks_writePacket

theorem breaks_sendFile {name : String} : Breaks (sendFile env name) := by
  refine Breaks.bind (.attempt _) fun result c e c' failed => ?_
  split at failed
  · cases failed
  · split at failed
    · next broken =>
      cases failed
      exact broken
    · cases failed

theorem breaks_answerFileRequest {name : String} : Breaks (answerFileRequest env command name) := by
  refine Breaks.bind .get fun c => ?_
  split
  · exact Breaks.bind (.modify _) fun _ => breaks_sendPayload
  · exact Breaks.bind breaks_sendFile fun _ => breaks_sendPayload

theorem breaks_readUntil {reader : Reader} : Breaks (readUntil env command reader) := by
  intro c e c' failed
  fun_induction readUntil env command reader c with
  | case1 => cases failed
  | case2 reader c _ e₁ c₁ packet =>
    cases failed
    exact breaks_onLine Line.breaks_readPacket packet
  | case3 =>
    cases failed
    rfl
  | case4 => cases failed
  | case5 reader c _ payload c₁ _ name reader' ctx _ e₁ c₂ file =>
    cases failed
    exact breaks_answerFileRequest file
  | case6 reader c _ payload c₁ _ name reader' ctx _ c₂ _ ih => exact ih failed
  | case7 reader c _ payload c₁ _ reader' ctx _ ih => exact ih failed
  | case8 reader c _ payload c₁ _ reader' ctx _ ih => exact ih failed

end Exchange

end SqlWire
