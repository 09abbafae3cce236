import SqlWire.Proofs.Call
import SqlWire.Proofs.Statements.Opening
import SqlWire.Proofs.Statements.Record

/-!
# Use of prepared statements

`Usage env start held gone c` says that calls about prepared statements have led from `start` to `c`, which
of the statements that they gave out are still to be given back, and which of these the server has taken
away. `Usage.statements_conserved` puts together what holds then: the ids that are open on the server are
those of the entries in the cache, and the references of an entry are the statements that are held.
-/

namespace SqlWire

open EStateM (Result)
open Net (Env World)

variable {α : Type} {env : Env} {start c c' : Client} {deals : List Deal} {accounts : Accounts}
  {held gone : List PreparedStatement} {stale : Stale}

/-! ## Calls under their guard -/

theorem Client.IsLost.steady : Steady Client.IsLost := ⟨fun _ => id, id⟩

theorem Kept.steady : Steady (Kept env start deals accounts) where
  world links := fun
    | .inl lost => .inl lost
    | .inr ⟨more, books⟩ => .inr ⟨more, books.aside (.world links) (books.rest.of_same rfl) rfl⟩
  closeChannel := fun
    | .inl lost => .inl lost
    | .inr ⟨more, books⟩ => .inr ⟨more, books.aside .closed (books.rest.of_same rfl) rfl⟩

namespace Kept

variable {after : Except Error α → Accounts} {run : EStateM Error Client α}

theorem guarded (alike : ∀ e e', after (.error e) = after (.error e'))
    (refused : ∀ e, c.isClosed = true → after (.error e) = accounts)
    (keeps : Keeps env start accounts run after) (kept : Kept env start deals accounts c) :
    Yields (Client.guarded run) c fun given c' => Kept env start deals (after given) c' :=
  Client.yields_guarded (fun _ => steady) (fun {e e' _} kept => alike e e' ▸ kept)
    (fun e closed => (refused e closed).symm ▸ kept) (keeps kept)

theorem forget {statements : List PreparedStatement} (kept : Kept env start deals (.rest held stale) c)
    (fewer : statements ⊆ stale.statements) :
    Kept env start deals (.rest held { stale with statements }) c :=
  kept.imp_right fun ⟨more, books⟩ => ⟨more, { books with
    balanced few := (books.balanced few).forget fewer }⟩

theorem prepare {sql : String} (kept : Kept env start deals (.rest held stale) c) :
    Yields (Client.prepare env sql) c fun given c' =>
      Kept env start deals (.prepared held stale given) c' :=
  kept.guarded (fun _ _ => rfl) (fun _ _ => rfl) Exchange.keeps_prepare

theorem closeStatement {statement : PreparedStatement} (open_ : c.isClosed = false)
    (kept : Kept env start deals (.rest held stale) c) :
    Yields (Client.closeStatement env statement) c fun _ c' =>
      Kept env start deals (.rest (afterRelease held statement.handle) stale) c' :=
  kept.guarded (fun _ _ => rfl) (fun _ closed => by cases open_.symm.trans closed)
    Exchange.keeps_closeStatement

theorem executeBatch {sql : String} {paramSets : List (List Value)}
    (kept : Kept env start deals (.rest held stale) c) :
    Yields (Client.executeBatch env sql paramSets) c fun _ c' =>
      Kept env start deals (.rest held stale) c' :=
  kept.guarded (fun _ _ => rfl) (fun _ _ => rfl) Exchange.keeps_executeBatch

theorem sendOne {sql : String} (kept : Kept env start deals (.rest held stale) c) :
    Yields (Client.sendOne env (.prepare sql)) c fun _ c' =>
      Kept env start deals (.rest held stale) c' :=
  kept.guarded (fun _ _ => rfl) (fun _ _ => rfl) Exchange.keeps_sendOne

theorem readResponse {options : StatementOptions} (kept : Kept env start deals (.rest held stale) c) :
    Yields (Client.readResponse env options) c fun given c' =>
      Kept env start deals (.completed held stale given) c' :=
  Client.yields_timed (fun _ => steady) fun _ links =>
    (steady.world links kept).guarded (fun _ _ => rfl) (fun _ _ => rfl) Exchange.keeps_readResponse

/-- The journal tells whether the server has taken the statements away. -/
theorem reset (infile : start.infileError = none) (kept : Kept env start deals (.rest held stale) c) :
    let c' := (Client.reset env c).state
    ((c'.since start).accepted.resets = (c.since start).accepted.resets →
        Kept env start deals (.rest held stale) c') ∧
      ((c'.since start).accepted.resets ≠ (c.since start).accepted.resets →
        Kept env start deals (.rest [] (stale.taken held)) c') := by
  have counted {deals : List Deal} {accounts : Accounts} {c : Client}
      (books : Books env start deals accounts c) :
      (c.since start).accepted.resets = accounts.stale.resets :=
    (books.dealt.recorded infile).resets.trans books.resets
  have taken : Kept env start deals (.rest held stale) (Client.reset env c).state ∨
      Kept env start deals (.rest [] (stale.taken held)) (Client.reset env c).state :=
    (Client.yields_guarded (fun _ => steady.or steady) id (fun _ _ => .inl kept)
      (Exchange.yields_reset kept)).state
  rcases kept with lost | ⟨before, books⟩
  · have conducts : Conducts (fun _ => false) (Exchange.reset env) := Exchange.conducts_reset
    have lost : (Client.reset env c).state.IsLost :=
      (Client.yields_guarded (fun _ => Client.IsLost.steady) id (fun _ _ => lost)
        (conducts.lasting.yields lost)).state
    exact ⟨fun _ => .inl lost, fun _ => .inl lost⟩
  · rcases taken with (lost | ⟨more, after⟩) | (lost | ⟨more, after⟩)
    · exact ⟨fun _ => .inl lost, fun _ => .inl lost⟩
    · exact ⟨fun _ => .inr ⟨more, after⟩, fun other =>
        absurd ((counted after).trans (counted books).symm) other⟩
    · exact ⟨fun _ => .inl lost, fun _ => .inl lost⟩
    · exact ⟨fun same => absurd ((counted after).symm.trans (same.trans (counted books)))
        (Nat.succ_ne_self _), fun _ => .inr ⟨more, after⟩⟩

end Kept

/-! ## Calls about statements -/

/-- Calls about statements, one after the other, lead from `start` to a client. The statements in `held`
were given out and are still to be given back, each as often as it was given out, and those in `gone` as
well, but the server has taken these away. A call on a closed connection is refused, so a statement is given
back only on an open one. -/
inductive Usage (env : Env) (start : Client) :
    List PreparedStatement → List PreparedStatement → Client → Prop where
  | start : Usage env start [] [] start
  | prepared {held gone : List PreparedStatement} {c c' : Client} {sql : String}
      {statement : PreparedStatement} :
      Usage env start held gone c → Client.prepare env sql c = .ok statement c' →
      Usage env start (statement :: held) gone c'
  | unprepared {held gone : List PreparedStatement} {c c' : Client} {sql : String} {e : Error} :
      Usage env start held gone c → Client.prepare env sql c = .error e c' →
      Usage env start held gone c'
  | closed {held gone : List PreparedStatement} {c : Client} (statement : PreparedStatement) :
      Usage env start held gone c → statement ∈ held ++ gone → c.isClosed = false →
      Usage env start (afterRelease held statement.handle) (afterRelease gone statement.handle)
        (Client.closeStatement env statement c).state
  | batch {held gone : List PreparedStatement} {c : Client} (sql : String) (paramSets : List (List Value)) :
      Usage env start held gone c →
      Usage env start held gone (Client.executeBatch env sql paramSets c).state
  /-- A statement is prepared ahead. Its response is read by another call, or settled. -/
  | ahead {held gone : List PreparedStatement} {c : Client} (sql : String) :
      Usage env start held gone c →
      Usage env start held gone (Client.sendOne env (.prepare sql) c).state
  | received {held gone : List PreparedStatement} {c c' : Client} {options : StatementOptions}
      {statement : PreparedStatement} : Usage env start held gone c →
      Client.readResponse env options c = .ok (.prepared statement) c' →
      Usage env start (statement :: held) gone c'
  | unreceived {held gone : List PreparedStatement} {c : Client} (options : StatementOptions) :
      Usage env start held gone c →
      (∀ statement c', Client.readResponse env options c ≠ .ok (.prepared statement) c') →
      Usage env start held gone (Client.readResponse env options c).state
  /-- The server keeps the statements, since it is too old or has not accepted the reset. -/
  | reset {held gone : List PreparedStatement} {c : Client} : Usage env start held gone c →
      ((Client.reset env c).state.since start).accepted.resets = (c.since start).accepted.resets →
      Usage env start held gone (Client.reset env c).state
  | renewed {held gone : List PreparedStatement} {c : Client} : Usage env start held gone c →
      ((Client.reset env c).state.since start).accepted.resets ≠ (c.since start).accepted.resets →
      Usage env start [] (held ++ gone) (Client.reset env c).state

namespace Usage

/-- The books are kept for what is held, and for what is gone. -/
theorem kept (books : Books env start [] (.rest [] ⟨[], 0⟩) start) (usage : Usage env start held gone c) :
    ∃ resets, Kept env start [] (.rest held ⟨gone, resets⟩) c := by
  induction usage with
  | start => exact ⟨0, books.kept⟩
  | prepared _ ran ih =>
    obtain ⟨resets, kept⟩ := ih
    exact ⟨resets, kept.prepare.result ran⟩
  | unprepared _ ran ih =>
    obtain ⟨resets, kept⟩ := ih
    exact ⟨resets, kept.prepare.failure ran⟩
  | @closed held gone c statement _ _ open_ ih =>
    obtain ⟨resets, kept⟩ := ih
    have given : Kept env start [] (.rest (afterRelease held statement.handle) ⟨gone, resets⟩)
        (Client.closeStatement env statement c).state := (kept.closeStatement open_).state
    exact ⟨resets, given.forget List.eraseP_subset⟩
  | batch sql paramSets _ ih =>
    obtain ⟨resets, kept⟩ := ih
    exact ⟨resets, kept.executeBatch.state⟩
  | ahead sql _ ih =>
    obtain ⟨resets, kept⟩ := ih
    exact ⟨resets, kept.sendOne.state⟩
  | received _ ran ih =>
    obtain ⟨resets, kept⟩ := ih
    exact ⟨resets, kept.readResponse.result ran⟩
  | @unreceived held gone c options _ none ih =>
    obtain ⟨resets, kept⟩ := ih
    have read : Yields (Client.readResponse env options) c fun given c' =>
      Kept env start [] (.completed held ⟨gone, resets⟩ given) c' := kept.readResponse
    refine ⟨resets, ?_⟩
    cases ran : Client.readResponse env options c with
    | error e c' => exact read.failure ran
    | ok response c' =>
      cases response with
      | prepared statement => exact absurd ran (none statement c')
      | none | completions _ => exact read.result ran
  | reset _ same ih =>
    obtain ⟨resets, kept⟩ := ih
    exact ⟨resets, (kept.reset books.rest.infile).1 same⟩
  | renewed _ more ih =>
    obtain ⟨resets, kept⟩ := ih
    exact ⟨resets + 1, (kept.reset books.rest.infile).2 more⟩

/-- On a connection that is not lost, the ids that are open on the server are those of the entries in the
cache: each id that the server has returned was closed just once or is that of an entry. The references of
an entry are the statements that are held, and each of these has its entry, so its id is open and was not
closed. A batch leaves all references, whatever its outcome. -/
theorem statements_conserved {w w' : World} (opened : Client.new env w = .ok start w')
    (room : ∀ max ∈ start.ctx.maxAllowedPacket, 5 < max) (usage : Usage env start held gone c)
    (whole : ¬c.IsLost) (few : (c.since start).accepted.prepares < UInt32.size - 1) :
    (∃ deals ids, start.Deals env deals c ∧ Recorded (c.since start) deals ∧
      Deal.openBehind deals = some ids ∧ ids.Perm c.ctx.statements.ids) ∧
    (∀ e ∈ c.ctx.statements.entries, e.refCount = held.count e.statement) ∧
    held ⊆ c.ctx.statements.prepared ∧
    ∀ sql paramSets c', (Client.executeBatch env sql paramSets c).state = c' → ¬c'.IsLost →
      (c'.since start).accepted.prepares < UInt32.size - 1 →
      ∀ handle, c'.ctx.statements.refs handle = c.ctx.statements.refs handle := by
  have opening := Client.books_new opened room
  have balance {deals : List Deal} {held : List PreparedStatement} {stale : Stale} {c : Client}
      (books : Books env start deals (.rest held stale) c)
      (few : (c.since start).accepted.prepares < UInt32.size - 1) :
      Recorded (c.since start) deals ∧ Balanced deals (.rest held stale) c.ctx.statements :=
    have recorded := books.dealt.recorded opening.rest.infile
    ⟨recorded, books.balanced (recorded.few few)⟩
  obtain ⟨resets, kept⟩ := usage.kept opening
  obtain ⟨deals, books⟩ := kept.resolve_left whole
  obtain ⟨recorded, balanced⟩ := balance books few
  refine ⟨?_, fun e mem => balanced.refCount_eq mem, balanced.own, ?_⟩
  · obtain ⟨ids, behind, same⟩ := balanced.ids
    exact ⟨_, ids, books.dealt, recorded, behind, same⟩
  · rintro sql paramSets c' rfl whole' few' handle
    obtain ⟨more, books'⟩ := (kept.executeBatch.state).resolve_left whole'
    exact ((balance books' few').2.refs handle).trans (balanced.refs handle).symm

/-- Surroundings in which a batch has a statement of its own, which is not kept. -/
def preparing : Env :=
  .quiet { host := "h", autocommit := none, useServerPrepare := true, cacheStatements := false }

/-- A server that prepares a statement without parameters and runs it once. -/
def preparesOnce : World :=
  let prepared : Bytes := [12, 0, 0, 1, 0, 7, 0, 0, 0, 0, 0, 0, 0, 0, 0, 0]
  .start [⟨(greetingPacket ++ okPacket 2 false ++ okPacket 1 false ++ prepared ++
    okPacket 1 false).toWire, false⟩]

/-- The client behind a batch. -/
def behindBatch : Client :=
  (Client.executeBatch preparing "INSERT" [[]] (.opened preparing preparesOnce)).state

/-- The statement of the batch was closed. -/
theorem statements_conserved_batch :
    (behindBatch.since (.opened preparing preparesOnce)).closings = [7] ∧
      ∃ deals ids, (Client.opened preparing preparesOnce).Deals preparing deals behindBatch ∧
        Recorded (behindBatch.since (.opened preparing preparesOnce)) deals ∧
        Deal.openBehind deals = some ids ∧ ids.Perm behindBatch.ctx.statements.ids := by
  obtain ⟨start, opened⟩ := EStateM.Result.exists_ok
    (by decide +kernel : (Client.new preparing preparesOnce).error?.isNone = true)
  have same : Client.opened preparing preparesOnce = start := by
    unfold Client.opened
    rw [opened]
  subst same
  have room : (Client.opened preparing preparesOnce).ctx.maxAllowedPacket = none := by decide +kernel
  have usage : Usage preparing (.opened preparing preparesOnce) [] [] behindBatch := .batch _ _ .start
  exact ⟨by decide +kernel, (statements_conserved opened (by rw [room]; exact nofun) usage
    (by decide +kernel) (by decide +kernel)).1⟩

end Usage

end SqlWire
