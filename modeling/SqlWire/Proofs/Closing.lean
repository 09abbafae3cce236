import SqlWire.Proofs.Call

/-!
# When a call closes the connection

A failure that breaks the connection should close it, since what the server still sends would be
taken for the answer to a later call. Without a redo log this holds of every call but a batch
(`isClosed_perform_iff`): what a batch reports is its first failure, and when that one leaves the
connection usable, a later one that does not goes unnoticed.

With a redo log a lost session is replaced. When that fails, the connection is closed only if the
failure is one that breaks connections (`isClosed_of_stranded`), although the open transaction is gone
in any case.
-/

namespace SqlWire

open Net (Env)

variable {news : Journal}

/-- A failure broke the connection during a call on a client without a redo log. Then the connection
stays open exactly when nobody else has closed it and the call reports an error that leaves the
connection usable; only a batch can report one. A closed connection takes no further calls. -/
theorem isClosed_perform_iff (env : Env) (call : Call) (c : Client) (isOpen : c.isClosed = false)
    (redo : c.ctx.redo = none)
    (journal : (call.perform env c).state.journal = c.journal ++ news)
    (broke : ∃ event ∈ news, event.breaks) :
    ((call.perform env c).state.isClosed = false ↔
      (call.attempt env c).state.isClosed = false ∧
        ∃ e, (call.attempt env c).error? = some e ∧ e.isBroken = false ∧ call.mayHide e) ∧
      ((call.perform env c).state.isClosed = true → ∀ env' (later : Call),
        (later.perform env' (call.perform env c).state).state.journal = c.journal ++ news) := by
  have guarded := call.guarded_perform env isOpen
  obtain ⟨news', accounted, allowed⟩ := call.conducts_attempt env c
  obtain rfl := accounted.eq_of_journal (guarded.journal.symm.trans journal)
  refine ⟨?_, fun isClosed env' later => ?refused⟩
  case refused =>
    obtain ⟨world, eq⟩ := later.perform_of_isClosed env' isClosed
    rw [eq]
    exact journal
  obtain ⟨event, mem, breaks⟩ := broke
  -- The failure shows in the end of the attempt: as such, or behind an error that may hide it.
  have shows : (call.attempt env c).error?.any fun e => e.isBroken || call.mayHide e := by
    cases event with
    | failed e => exact (allowed _ mem breaks).resolve_left (by simp [redo])
    | _ => cases breaks
  rw [guarded.isClosed, Bool.or_eq_false_iff]
  refine and_congr_right fun _ => ?_
  cases finish : (call.attempt env c).error? with
  | none => simp [finish] at shows
  | some e =>
    simp only [finish, Option.any_some, Bool.or_eq_true] at shows
    simp only [Option.any_some, Option.some.injEq, exists_eq_left']
    exact ⟨fun whole => ⟨whole, shows.resolve_left (by simp [whole])⟩, And.left⟩

/-- Two commands that are sent ahead. -/
def twoAhead : Call := .executeAll [.query "INSERT", .query "SELECT"] {}

/-- The first of them is refused by the server, and the stream ends before the answer to the other. -/
def refusedThenCut : Client :=
  .scripted [10, 0, 0, 1, 0xff, 0x26, 0x04, 0x23, 0x32, 0x33, 0x30, 0x30, 0x30, 0x21] none

theorem isOpen_refusedThenCut :
    (twoAhead.perform (.quiet {}) refusedThenCut).state.isClosed = false := by
  have broke := List.any_eq_true.mp (by decide +kernel :
    (twoAhead.perform (.quiet {}) refusedThenCut).state.journal.any Event.breaks = true)
  obtain ⟨e, finish, hidden⟩ := (Option.any_eq_true _ _).mp (by decide +kernel :
    (twoAhead.attempt (.quiet {}) refusedThenCut).error?.any
      (fun e => !e.isBroken && twoAhead.mayHide e) = true)
  rw [Bool.and_eq_true, Bool.not_eq_true'] at hidden
  have outcome := (isClosed_perform_iff (.quiet {}) twoAhead refusedThenCut rfl rfl rfl broke).1
  exact outcome.mpr ⟨by decide +kernel, e, finish, hidden⟩

/-- A failover failed during a call. Then the call fails with that very error, and the connection is
closed exactly when it is an error that breaks connections or somebody else has closed it. -/
theorem isClosed_of_stranded (env : Env) (call : Call) (c : Client) {e : Error}
    (isOpen : c.isClosed = false)
    (journal : (call.perform env c).state.journal = c.journal ++ news)
    (stranded : .stranded e ∈ news) :
    (call.attempt env c).error? = some e ∧
      ((call.perform env c).state.isClosed = true ↔
        (call.attempt env c).state.isClosed = true ∨ e.isBroken = true) := by
  have guarded := call.guarded_perform env isOpen
  obtain ⟨news', accounted, allowed⟩ := call.conducts_attempt env c
  obtain rfl := accounted.eq_of_journal (guarded.journal.symm.trans journal)
  have finish : (call.attempt env c).error? = some e := allowed _ stranded
  refine ⟨finish, ?_⟩
  rw [guarded.isClosed, finish, Bool.or_eq_true]
  rfl

/-- A failover fails with an error that leaves connections usable. -/
def Event.strandsWhole : Event → Bool
  | .stranded e => !e.isBroken
  | _ => false

/-- Surroundings in which no credential can be had for another session. -/
def withoutCredential : Env :=
  .quiet
    { host := "h"
      transactionReplay := true
      credentialSource := some (.singleSignOn fun _ => .error (.auth .noToken)) }

/-- The stream ends inside a transaction. -/
def cutInTransaction : Client := .scripted [] (some [.query "BEGIN"])

/-- A command that is to go on with the transaction. -/
def oneMore : Call := .execute (.query "INSERT") {}

theorem isOpen_withoutCredential :
    (oneMore.perform withoutCredential cutInTransaction).state.isClosed = false := by
  obtain ⟨event, stranded, whole⟩ := List.any_eq_true.mp (by decide +kernel :
    (oneMore.perform withoutCredential cutInTransaction).state.journal.any Event.strandsWhole = true)
  cases event with
  | stranded e =>
    have outcome :=
      (isClosed_of_stranded withoutCredential oneMore cutInTransaction rfl rfl stranded).2
    rw [← Bool.not_eq_true, outcome, not_or, Bool.not_eq_true, Bool.not_eq_true]
    exact ⟨by decide +kernel, (Bool.not_eq_true' _).mp whole⟩
  | _ => cases whole

end SqlWire
