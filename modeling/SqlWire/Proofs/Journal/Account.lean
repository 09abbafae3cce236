import SqlWire.Client.Calls

/-!
# What a journal accounts for

Whatever a client does, its journal only grows, and the new events alone say what became of the redo
log: `Accounted c news c'`. `Noted duty c r` says this of a run that began at `c` and ended as `r`,
and that each new event is one that the run may note when it ends like that.

A `Duty` is what the events demand of the end of a run. `Duty.exchange` is the duty of everything
that stays on one session: a failure that breaks the connection is not hidden, so the run itself
ends with such an error. Because of `Duty.allows_of_ok` a run may go on after a part that went well
(`Noted.andThen`); a part whose failure is taken up needs `Notes.attempt_bind`.
-/

namespace SqlWire

open EStateM (Result)

/-- What an event leaves of a redo log. -/
def Session.RedoLog.after (log : Session.RedoLog) : Event → Session.RedoLog
  | .sent command => log.record command
  | .answered _ inTransaction => log.observe inTransaction
  | .opened | .lost | .adopted | .reset => []
  | .refused _ | .failed _ | .replaying | .stranded _ => log

/-- `c'` came from `c` by the events `news`: they were noted, and nothing else changed the redo log. -/
structure Accounted (c : Client) (news : Journal) (c' : Client) : Prop where
  journal : c'.journal = c.journal ++ news
  redo : c'.ctx.redo = c.ctx.redo.map (news.foldl Session.RedoLog.after)

namespace Accounted

variable {c c' c'' : Client} {news news' : Journal}

theorem still (journal : c'.journal = c.journal) (redo : c'.ctx.redo = c.ctx.redo) :
    Accounted c [] c' :=
  ⟨by rw [journal, List.append_nil], by rw [redo]; exact Option.map_id'.symm ▸ rfl⟩

theorem trans (h : Accounted c news c') (h' : Accounted c' news' c'') :
    Accounted c (news ++ news') c'' where
  journal := by rw [h'.journal, h.journal, List.append_assoc]
  redo := by
    rw [h'.redo, h.redo, Option.map_map]
    congr 1
    funext log
    exact List.foldl_append.symm

theorem isSome_redo (h : Accounted c news c') : c'.ctx.redo.isSome = c.ctx.redo.isSome := by
  rw [h.redo, Option.isSome_map]

/-- The events are determined by the journals. -/
theorem eq_of_journal (h : Accounted c news c') (h' : c'.journal = c.journal ++ news') :
    news = news' :=
  List.append_cancel_left (h.journal.symm.trans h')

end Accounted

/-! ## Duties -/

/-- The error is that of a batch. -/
def Error.isBatch : Error → Bool
  | .batch _ _ _ => true
  | _ => false

/-- The event is a command or a response. -/
def Event.isExchange : Event → Bool
  | .sent _ | .answered _ _ | .refused _ => true
  | _ => false

/-- The event is a response. -/
def Event.isAnswer : Event → Bool
  | .answered _ _ | .refused _ => true
  | _ => false

/-- The event is a command that is not for the redo log. -/
def Event.isAside : Event → Bool
  | .sent command => !command.canRedo
  | _ => false

/-- Which events a run may note that ends with this error, or well. -/
structure Duty where
  allows : Event → Option Error → Prop
  allows_of_ok {event : Event} : allows event none → ∀ finish, allows event finish

namespace Duty

/-- Events of some kinds, and failures. One that breaks the connection shows in the end. -/
def shown (kinds : Event → Bool) (shows : Error → Bool) : Duty where
  allows
    | .failed e, finish => e.isBroken → finish.any shows
    | event, _ => kinds event
  allows_of_ok {event} h finish := by
    cases event with
    | failed e => exact fun broken => absurd (h broken) (by simp)
    | _ => exact h

/-- Of what only reads. -/
def reading : Duty := shown (fun _ => false) Error.isBroken

/-- Of what reads a response to its end. -/
def answering : Duty := shown Event.isAnswer Error.isBroken

/-- Of what sends nothing for the redo log. -/
def aside : Duty := shown Event.isAside Error.isBroken

/-- Of what stays on one session. -/
def exchange : Duty := shown Event.isExchange Error.isBroken

/-- Of a batch: its error may stand for a failure that breaks the connection. -/
def batch : Duty := shown Event.isExchange fun e => e.isBroken || e.isBatch

/-- Of a call on a client with or without a redo log. With one the session may be lost, and then a
failure that broke it has been taken up. A failover that fails is never taken up. -/
def call (redo : Bool) (hides : Error → Bool) : Duty where
  allows
    | .failed e, finish => e.isBroken → redo = true ∨ finish.any fun e => e.isBroken || hides e
    | .lost, _ => redo = true
    | .stranded e, finish => finish = some e
    | _, _ => True
  allows_of_ok {event} h finish := by
    cases event with
    | failed e => exact fun broken => .inl ((h broken).resolve_right (by simp))
    | stranded e => cases h
    | _ => exact h

/-- What one duty allows the other one allows. -/
def Within (duty duty' : Duty) : Prop :=
  ∀ event finish, duty.allows event finish → duty'.allows event finish

theorem within_shown {kinds kinds' : Event → Bool} {shows shows' : Error → Bool}
    (h : ∀ event, kinds event → kinds' event) (h' : ∀ e, shows e → shows' e) :
    Within (shown kinds shows) (shown kinds' shows') := by
  intro event finish allowed
  cases event with
  | failed e =>
    intro broken
    cases finish with
    | none => exact absurd (allowed broken) (by simp)
    | some e' => exact h' e' (allowed broken)
  | _ => exact h _ allowed

theorem reading_within {kinds : Event → Bool} : Within reading (shown kinds Error.isBroken) :=
  within_shown (fun _ => nofun) fun _ => id

theorem reading_exchange : Within reading exchange := reading_within

theorem answering_exchange : Within answering exchange :=
  within_shown (fun event kind => by cases event <;> first | rfl | exact nomatch kind) fun _ => id

theorem aside_exchange : Within aside exchange :=
  within_shown (fun event kind => by cases event <;> first | rfl | exact nomatch kind) fun _ => id

theorem exchange_batch : Within exchange batch :=
  within_shown (fun _ => id) fun e broken => by rw [broken, Bool.true_or]

theorem shown_call {redo : Bool} {shows hides : Error → Bool}
    (h : ∀ e, shows e → e.isBroken || hides e) :
    Within (shown Event.isExchange shows) (call redo hides) := by
  intro event finish allowed
  cases event with
  | failed e =>
    intro broken
    cases finish with
    | none => exact absurd (allowed broken) (by simp)
    | some e' => exact .inr (h e' (allowed broken))
  | sent _ | answered _ _ | refused _ => trivial
  | _ => exact nomatch allowed

theorem exchange_call {redo : Bool} {hides : Error → Bool} : Within exchange (call redo hides) :=
  shown_call fun e broken => by rw [broken, Bool.true_or]

theorem batch_call {redo : Bool} : Within batch (call redo Error.isBatch) := shown_call fun _ => id

/-- On a client with a redo log a failure may also have been taken up. -/
theorem call_of_shown {shows hides : Error → Bool} {event : Event} {finish finish' : Option Error}
    (h : (shown Event.isExchange shows).allows event finish) :
    (call true hides).allows event finish' := by
  cases event with
  | failed e => exact fun _ => .inl rfl
  | sent _ | answered _ _ | refused _ => trivial
  | _ => exact nomatch h

/-- What went well is allowed whatever follows. -/
theorem call_of_shown_ok {redo : Bool} {shows hides : Error → Bool} {event : Event}
    {finish : Option Error} (h : (shown Event.isExchange shows).allows event none) :
    (call redo hides).allows event finish := by
  cases event with
  | failed e => exact fun broken => absurd (h broken) (by simp)
  | sent _ | answered _ _ | refused _ => trivial
  | _ => exact nomatch h

/-- Where any error may hide a failure, the run only has to report one. -/
theorem call_of_shown_hidden {redo : Bool} {shows : Error → Bool} {event : Event}
    {finish : Option Error} {e : Error} (h : (shown Event.isExchange shows).allows event finish) :
    (call redo fun _ => true).allows event (some e) := by
  cases event with
  | failed e => exact fun _ => .inr (Bool.or_true _)
  | sent _ | answered _ _ | refused _ => trivial
  | _ => exact nomatch h

theorem call_within {redo : Bool} {hides hides' : Error → Bool} (h : ∀ e, hides e → hides' e) :
    Within (call redo hides) (call redo hides') := by
  intro event finish allowed
  cases event with
  | failed e =>
    intro broken
    refine (allowed broken).imp_right fun shows => ?_
    cases finish with
    | none => exact absurd shows (by simp)
    | some e' =>
      simp only [Option.any_some, Bool.or_eq_true] at shows ⊢
      exact shows.imp_right (h e')
  | _ => exact allowed

end Duty

/-- What does not depend on failures stays when something is only read. -/
theorem Journal.foldl_of_reading {σ : Type} {after : σ → Event → σ} {news : Journal}
    {finish : Option Error} (still : ∀ s e, after s (.failed e) = s)
    (allowed : ∀ event ∈ news, Duty.reading.allows event finish) (s : σ) :
    news.foldl after s = s := by
  induction news with
  | nil => rfl
  | cons event news ih =>
    cases event with
    | failed e =>
      rw [List.foldl_cons, still]
      exact ih fun event mem => allowed event (.tail _ mem)
    | _ => exact nomatch allowed _ (.head _)

/-! ## Runs -/

variable {α β : Type}

/-- The events since `c` account for the state that a run leaves, and its end allows each of them. -/
def Noted (duty : Duty) (c : Client) (r : Result Error Client α) : Prop :=
  ∃ news, Accounted c news r.state ∧ ∀ event ∈ news, duty.allows event r.error?

namespace Noted

variable {duty duty' : Duty} {c c₁ : Client} {r : Result Error Client α}

theorem mono (h : Noted duty c r) (within : duty.Within duty') : Noted duty' c r := by
  obtain ⟨news, accounted, allowed⟩ := h
  exact ⟨news, accounted, fun event mem => within event _ (allowed event mem)⟩

theorem still (journal : r.state.journal = c.journal) (redo : r.state.ctx.redo = c.ctx.redo) :
    Noted duty c r :=
  ⟨[], .still journal redo, fun _ mem => nomatch mem⟩

/-- A run that notes one event. -/
theorem one (event : Event) (journal : r.state.journal = c.journal ++ [event])
    (redo : r.state.ctx.redo = c.ctx.redo.map (·.after event))
    (allowed : duty.allows event r.error?) : Noted duty c r :=
  ⟨[event], ⟨journal, redo⟩, fun _ mem => List.mem_singleton.mp mem ▸ allowed⟩

theorem andThen {a : β} (h : Noted duty c (.ok a c₁ : Result Error Client β)) (h' : Noted duty c₁ r) :
    Noted duty c r := by
  obtain ⟨news, accounted, allowed⟩ := h
  obtain ⟨news', accounted', allowed'⟩ := h'
  refine ⟨news ++ news', accounted.trans accounted', fun event mem => ?_⟩
  rcases List.mem_append.mp mem with first | second
  · exact duty.allows_of_ok (allowed event first) _
  · exact allowed' event second

/-- A failure is the same whatever the run would have given. -/
theorem recast {e : Error} (h : Noted duty c (.error e c₁ : Result Error Client β)) :
    Noted duty c (.error e c₁ : Result Error Client α) := h

/-- The state before the run may be changed in what is not accounted for. -/
theorem from_same (h : Noted duty c₁ r) (journal : c₁.journal = c.journal)
    (redo : c₁.ctx.redo = c.ctx.redo) : Noted duty c r :=
  .andThen (a := ()) (.still journal redo) h

theorem isSome_redo (h : Noted duty c r) : r.state.ctx.redo.isSome = c.ctx.redo.isSome := by
  obtain ⟨news, accounted, _⟩ := h
  exact accounted.isSome_redo

end Noted

/-- From every state, the run notes what its end allows. -/
def Notes (duty : Duty) (run : EStateM Error Client α) : Prop := ∀ c, Noted duty c (run c)

theorem Noted.bind {duty : Duty} {run : EStateM Error Client α} {next : α → EStateM Error Client β}
    {c : Client} (h : Noted duty c (run c)) (h' : ∀ a, Notes duty (next a)) :
    Noted duty c ((run >>= next) c) := by
  cases eq : run c with
  | ok a c₁ =>
    rw [EStateM.bind_of_ok eq]
    exact (eq ▸ h).andThen (h' a c₁)
  | error e c₁ =>
    rw [EStateM.bind_of_error eq]
    exact (eq ▸ h).recast

namespace Notes

variable {duty duty' : Duty} {run : EStateM Error Client α} {next : α → EStateM Error Client β}

theorem mono (h : Notes duty run) (within : duty.Within duty') : Notes duty' run :=
  fun c => (h c).mono within

theorem result (h : Notes duty run) {c : Client} {r : Result Error Client α} (eq : run c = r) :
    Noted duty c r := eq ▸ h c

theorem pure (a : α) : Notes duty (Pure.pure a : EStateM Error Client α) := fun _ => .still rfl rfl

theorem throw (e : Error) : Notes duty (throw e : EStateM Error Client α) := fun _ => .still rfl rfl

theorem get : Notes duty (MonadState.get : EStateM Error Client Client) := fun _ => .still rfl rfl

/-- A change of what is not accounted for. -/
theorem modify {f : Client → Client} (journal : ∀ c, (f c).journal = c.journal)
    (redo : ∀ c, (f c).ctx.redo = c.ctx.redo) :
    Notes duty (modify f : EStateM Error Client PUnit) := fun c => .still (journal c) (redo c)

theorem bind (h : Notes duty run) (h' : ∀ a, Notes duty (next a)) : Notes duty (run >>= next) :=
  fun c => (h c).bind h'

/-- A run that begins by looking at its state. -/
theorem get_bind {next : Client → EStateM Error Client β} (h : ∀ c, Noted duty c (next c c)) :
    Notes duty (MonadState.get >>= next) := h

/-- When the run fails with an error that breaks the connection, what follows must end with such an
error too. -/
theorem attempt_bind {kinds : Event → Bool} {next : Except Error α → EStateM Error Client β}
    (h : Notes (.shown kinds Error.isBroken) run)
    (h' : ∀ result, Notes (.shown kinds Error.isBroken) (next result))
    (keeps : ∀ e c, e.isBroken = true → (next (.error e) c).error?.any Error.isBroken) :
    Notes (.shown kinds Error.isBroken) (run.attempt >>= next) := by
  intro c
  obtain ⟨news, accounted, allowed⟩ := h c
  cases eq : run c with
  | ok a c₁ =>
    rw [EStateM.bind_of_ok (EStateM.attempt_of_ok eq)]
    rw [eq] at accounted allowed
    exact .andThen (a := ()) ⟨news, accounted, allowed⟩ (h' (.ok a) c₁)
  | error e c₁ =>
    rw [EStateM.bind_of_ok (EStateM.attempt_of_error eq)]
    rw [eq] at accounted allowed
    obtain ⟨news', accounted', allowed'⟩ := h' (.error e) c₁
    refine ⟨news ++ news', accounted.trans accounted', fun event mem => ?_⟩
    rcases List.mem_append.mp mem with first | second
    · cases event with
      | failed e' => exact fun broken => keeps e c₁ (allowed _ first broken)
      | _ => exact allowed _ first
    · exact allowed' event second

theorem broken_of_throw {e : Error} {other : EStateM Error Client α} {c : Client}
    (broken : e.isBroken = true) :
    ((if e.isBroken then MonadExcept.throw e else other) c).error?.any Error.isBroken := by
  rw [if_pos broken]
  exact broken

theorem broken_bind {c : Client} (broken : (run c).error?.any Error.isBroken) :
    ((run >>= next) c).error?.any Error.isBroken := by
  cases eq : run c with
  | ok a c₁ => simp [eq, Result.error?] at broken
  | error e c₁ =>
    rw [EStateM.bind_of_error eq]
    rwa [eq] at broken

theorem forM {list : List β} {f : β → EStateM Error Client Unit} (h : ∀ b, Notes duty (f b)) :
    Notes duty (list.forM f) := by
  induction list with
  | nil => exact .pure ()
  | cons b list ih => exact .bind (h b) fun _ => ih

end Notes

end SqlWire
