import SqlWire.Proofs.Redo.Chronicle

/-!
# Databases of a transaction that is sent again

A failover sets the database that the client has recorded last and then sends the commands of the
transaction again, among them those that set databases. `databases_eq_iff` says when each command
runs under the database that it ran under at first: exactly if the transaction began under the one
that is recorded. So a database that was set in the middle of a transaction misleads the commands
before that.
-/

namespace SqlWire

open EStateM (Result)
open Net (Env World)
open Journal (Chronicle Deed setsDatabase?)

variable {env : Env} {command : Command} {c c' c₁ c₂ : Client}

namespace Journal

/-! ## Databases along a transaction -/

/-- The commands one after the other, from a database on, if all of them are accepted. -/
def accepting (database : Option String) : List Command → List Deed
  | [] => []
  | command :: rest =>
    ⟨command, false, database⟩ :: accepting ((setsDatabase? command).or database) rest

/-- The deeds ran one after the other, from one database to another. -/
def Leads : Option String → List Deed → Option String → Prop
  | first, [], last => first = last
  | first, deed :: rest, last => deed.database = first ∧ Leads deed.next rest last

theorem Leads.concat {first last : Option String} {deeds : List Deed} {deed : Deed}
    (h : Leads first deeds deed.database) (next : deed.next = last) :
    Leads first (deeds ++ [deed]) last := by
  induction deeds generalizing first with
  | nil => exact ⟨h.symm, next⟩
  | cons earlier deeds ih => exact ⟨h.1, ih h.2⟩

theorem setsDatabase?_of_not_canRedo {command : Command} (h : ¬ command.canRedo) :
    setsDatabase? command = none := by
  cases command <;> first | rfl | exact absurd rfl h

theorem setsDatabase?_of_isPrepare {command : Command} (h : Exchange.isPrepare command = true) :
    setsDatabase? command = none := by
  cases command <;> first | rfl | cases h

/-- The commands of the open transaction lead to the current database. -/
theorem leads_chronicle (journal : Journal) :
    ∃ first, Leads first journal.chronicle.transaction journal.chronicle.database := by
  have run : ∀ (journal : Journal) {h : Chronicle},
      (∃ first, Leads first h.transaction h.database) →
      ∃ first, Leads first (journal.foldl Chronicle.after h).transaction
        (journal.foldl Chronicle.after h).database := by
    intro journal
    induction journal with
    | nil => exact fun leads => leads
    | cons event journal ih =>
      intro h leads
      refine ih ?_
      cases event with
      | opened | lost | adopted | reset => exact ⟨_, rfl⟩
      | sent _ | refused _ | failed _ | replaying | stranded _ => exact leads
      | answered command inTransaction =>
        obtain ⟨first, leads⟩ := leads
        cases inTransaction with
        | false => exact ⟨_, rfl⟩
        | true =>
          refine ⟨first, ?_⟩
          simp only [Chronicle.after, Chronicle.answer, if_true]
          split
          · exact leads.concat rfl
          · next aside =>
            -- A command that is not for the log sets no database either.
            unfold Deed.next
            rw [setsDatabase?_of_not_canRedo aside]
            split <;> exact leads
  exact run journal ⟨none, rfl⟩

/-- What a command was and which database it ran under. -/
def Deed.ranUnder (deed : Deed) : Command × Option String := (deed.command, deed.database)

/-- Deeds that lead on, of which none that sets a database was refused, ran as if all were accepted.
Preparing statements makes no difference. -/
theorem Leads.ranUnder {first last : Option String} {deeds : List Deed} (h : Leads first deeds last)
    (set : ∀ deed ∈ deeds, deed.refused = true → setsDatabase? deed.command = none) :
    (deeds.filter (!·.prepares)).map Deed.ranUnder =
      (accepting first ((deeds.map Deed.command).filter (!Exchange.isPrepare ·))).map
        Deed.ranUnder := by
  induction deeds generalizing first with
  | nil => rfl
  | cons deed deeds ih =>
    obtain ⟨rfl, rest⟩ := h
    have next : deed.next = (setsDatabase? deed.command).or deed.database := by
      unfold Deed.next
      split
      · next refused => rw [set deed (.head _) refused, Option.none_or]
      · rfl
    rw [next] at rest
    have same := ih rest fun deed mem => set deed (.tail _ mem)
    cases prepares : Exchange.isPrepare deed.command with
    | true =>
      have none : setsDatabase? deed.command = none := setsDatabase?_of_isPrepare prepares
      rw [none, Option.none_or] at same
      simpa [Deed.prepares, prepares] using same
    | false => simpa [Deed.prepares, prepares, accepting, Deed.ranUnder] using same

/-- Commands run alike from two databases only if the first of them does. -/
theorem accepting_inj {database database' : Option String} {commands : List Command} :
    (accepting database commands).map Deed.ranUnder =
        (accepting database' commands).map Deed.ranUnder ↔
      commands = [] ∨ database = database' := by
  cases commands with
  | nil => simp [accepting]
  | cons command rest =>
    refine ⟨fun same => .inr ?_, fun eq => ?_⟩
    · simp only [accepting, List.map_cons, List.cons.injEq, Deed.ranUnder, Prod.mk.injEq] at same
      exact same.1.2
    · rw [eq.resolve_left (List.cons_ne_nil _ _)]

end Journal

/-! ## What a failover does -/

/-- The database that a failover sets: the one that is recorded, if it was changed. -/
def Session.Context.restored (lost : Session.Context) : Option String :=
  if lost.changed.has Session.Changed.database then lost.database else none

namespace Exchange

/-- The database that a property sets. -/
def propertyDatabase? (property : Session.Property) : Option String :=
  property.command?.bind setsDatabase?

theorem database_replayProperty {property : Session.Property}
    (h : replayProperty env property c = .ok () c') :
    c'.journal.chronicle.database =
      (propertyDatabase? property).or c.journal.chronicle.database := by
  unfold replayProperty at h
  unfold propertyDatabase?
  cases sets : property.command? with
  | none =>
    simp only [sets] at h
    cases h
    rfl
  | some command =>
    simp only [sets] at h
    obtain ⟨response, c₁, ran, h⟩ := EStateM.ok_of_bind h
    have other : isPrepare command = false := by
      cases property <;> cases sets <;> rfl
    obtain ⟨inTransaction, answered⟩ := chronicle_executeOnce other ran
    cases h
    exact congrArg Chronicle.database answered

theorem database_replayProperties {properties : List Session.Property}
    (h : properties.forM (replayProperty env) c = .ok () c') :
    c'.journal.chronicle.database = properties.foldl (fun database property =>
      (propertyDatabase? property).or database) c.journal.chronicle.database := by
  induction properties generalizing c with
  | nil =>
    cases h
    rfl
  | cons property properties ih =>
    obtain ⟨_, c₁, first, rest⟩ := EStateM.ok_of_bind h
    rw [ih rest, database_replayProperty first]
    rfl

/-- Of the properties that are set again, at most one sets a database. -/
theorem foldl_changedProperties (lost : Session.Context) :
    (changedProperties lost).foldl (fun database property =>
      (propertyDatabase? property).or database) none = lost.restored := by
  unfold changedProperties Session.Context.restored
  split <;> cases lost.database <;> split <;> cases lost.isolation <;> split <;> rfl

theorem database_prepareAgain {statement : PreparedStatement}
    (h : prepareAgain env statement c = .ok () c') :
    c'.journal.chronicle.database = c.journal.chronicle.database := by
  obtain ⟨mark, c₁, sent, h⟩ := EStateM.ok_of_bind h
  obtain ⟨response, c₂, read, h⟩ := EStateM.ok_of_bind h
  obtain ⟨inTransaction, answered⟩ := chronicle_readFor_ok read
  cases response with
  | prepared fresh =>
    cases h
    have same := (congrArg Chronicle.database answered).trans
      (congrArg Chronicle.database (congrArg (Chronicle.answer · _ inTransaction) (chronicle_send sent)))
    exact same
  | none | completions _ => cases h

theorem database_prepareAll {statements : List PreparedStatement}
    (h : statements.forM (prepareAgain env) c = .ok () c') :
    c'.journal.chronicle.database = c.journal.chronicle.database := by
  induction statements generalizing c with
  | nil =>
    cases h
    rfl
  | cons statement statements ih =>
    obtain ⟨_, c₁, first, rest⟩ := EStateM.ok_of_bind h
    rw [ih rest, database_prepareAgain first]

theorem replay_replayCommands {commands : List Command}
    (h : commands.forM (replayCommand env) c = .ok () c') :
    c'.journal.chronicle.replay =
      c.journal.chronicle.replay ++ Journal.accepting c.journal.chronicle.database commands := by
  induction commands generalizing c with
  | nil =>
    cases h
    exact (List.append_nil _).symm
  | cons command commands ih =>
    obtain ⟨_, c₁, first, rest⟩ := EStateM.ok_of_bind h
    obtain ⟨inTransaction, answered⟩ := chronicle_replayCommand first
    rw [ih rest, answered]
    exact List.append_assoc ..

theorem database_reconnect (h : reconnect env c = .ok () c') :
    c'.journal.chronicle.database = none := by
  unfold reconnect at h
  split at h
  · cases h
  · cases h
    exact congrArg Chronicle.database (Journal.chronicle_append _ [.adopted])

theorem database_restoreSession {lost : Session.Context}
    (fresh : c.journal.chronicle.database = none) (h : restoreSession env lost c = .ok () c') :
    c'.journal.chronicle.database = lost.restored := by
  obtain ⟨_, c₁, timed, h⟩ := EStateM.ok_of_bind h
  obtain ⟨_, c₂, set, h⟩ := EStateM.ok_of_bind h
  have journal : c₁.journal.chronicle = c.journal.chronicle := by
    unfold setTimeout at timed
    split at timed <;> cases timed
    rfl
  rw [database_prepareAll h]
  show c₂.journal.chronicle.database = _
  rw [database_replayProperties set, journal, fresh, foldl_changedProperties]

/-- The commands that a failover has sent again ran one after the other, from the database on that
was restored. -/
theorem replay_failover (h : failover env command c = .ok () c') :
    c'.journal.chronicle.replay = Journal.accepting c.ctx.restored
      ((replayed (c.ctx.redo.getD []) command).filter (!isPrepare ·)) := by
  obtain ⟨_, _, looked, h⟩ := EStateM.ok_of_bind h
  cases looked
  obtain ⟨_, c₁, _, h⟩ := EStateM.ok_of_bind h
  obtain ⟨_, c₂, opened, h⟩ := EStateM.ok_of_bind h
  obtain ⟨_, c₃, restored, h⟩ := EStateM.ok_of_bind h
  obtain ⟨_, c₄, noted, h⟩ := EStateM.ok_of_bind h
  cases noted
  rw [replay_replayCommands h]
  have begun : (c₃.note .replaying).journal.chronicle = { c₃.journal.chronicle with replay := [] } :=
    Journal.chronicle_append _ [.replaying]
  rw [begun, ← database_restoreSession (database_reconnect opened) restored]
  rfl

end Exchange

open Exchange

/-- A failover succeeds, which was to send again what was answered in the transaction, and no command
that sets a database was refused there. Then the commands run under the databases that they ran under
at first exactly if the first of them ran under the one that is restored. -/
theorem databases_eq_iff (recovered : failover env command c₁ = .ok () c₂)
    (whole : replayed (c₁.ctx.redo.getD []) command = c₁.journal.answered)
    (set : ∀ deed ∈ c₁.journal.chronicle.transaction, deed.refused = true →
      setsDatabase? deed.command = none) :
    c₂.journal.chronicle.replay.map Deed.ranUnder =
        (c₁.journal.chronicle.transaction.filter (!·.prepares)).map Deed.ranUnder ↔
      ∀ deed ∈ (c₁.journal.chronicle.transaction.filter (!·.prepares)).head?,
        deed.database = c₁.ctx.restored := by
  obtain ⟨first, leads⟩ := Journal.leads_chronicle c₁.journal
  have ran := leads.ranUnder set
  rw [ran, replay_failover recovered, whole, ← Journal.map_transaction, Journal.accepting_inj]
  generalize c₁.journal.chronicle.transaction.filter (!·.prepares) = deeds at ran
  cases commands : (c₁.journal.chronicle.transaction.map Deed.command).filter (!isPrepare ·) with
  | nil =>
    rw [commands] at ran
    rw [List.map_eq_nil_iff.mp ran]
    simp
  | cons command commands' =>
    rw [commands] at ran
    cases deeds with
    | nil => cases ran
    | cons deed deeds =>
      have under : deed.database = first := by
        simp only [Journal.accepting, List.map_cons, List.cons.injEq, Deed.ranUnder,
          Prod.mk.injEq] at ran
        exact ran.1.2
      simp [under, eq_comm]

/-- A client whose database was set in the middle of a transaction. Its server is about to end the
stream, and another one will answer. -/
def setAfterBegin : Client :=
  ((Call.setProperty (.database "b")).perform replaying
    ((Call.execute (.query "BEGIN") {}).perform replaying
      (.opened replaying (answeringInTurn [[true, true], [true, true, true, true]]))).state).state

/-- The client when the next command has lost the connection. -/
def cutBehindSet : Client := (executeOnce replaying (.query "UPDATE") {} setAfterBegin).state

/-- The beginning of the transaction runs under a database that was set only later. -/
theorem databases_cutBehindSet : ∃ c₂,
    failover replaying (.query "UPDATE") cutBehindSet = .ok () c₂ ∧
      c₂.journal.chronicle.replay.map Deed.ranUnder ≠
        (cutBehindSet.journal.chronicle.transaction.filter (!·.prepares)).map Deed.ranUnder := by
  obtain ⟨_, recovered⟩ := EStateM.Result.exists_ok
    (by decide +kernel :
      (failover replaying (.query "UPDATE") cutBehindSet).error?.isNone = true)
  refine ⟨_, recovered, fun same => ?_⟩
  have whole : replayed (cutBehindSet.ctx.redo.getD []) (.query "UPDATE") =
      cutBehindSet.journal.answered := by decide +kernel
  have accepted : cutBehindSet.journal.chronicle.transaction.all (!·.refused) = true := by
    decide +kernel
  have under := (databases_eq_iff recovered whole fun deed mem refused => by
    simpa [refused] using List.all_eq_true.mp accepted deed mem).mp same
  have misled : ((cutBehindSet.journal.chronicle.transaction.filter (!·.prepares)).head?.any
      fun deed => deed.database != cutBehindSet.ctx.restored) = true := by decide +kernel
  obtain ⟨deed, mem, other⟩ := (Option.any_eq_true _ _).mp misled
  exact bne_iff_ne.mp other (under deed mem)

end SqlWire
