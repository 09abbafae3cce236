import Mathlib.Data.Nat.Bitwise
import SqlWire.Proofs.Batch.Sent
import SqlWire.Proofs.Call
import SqlWire.Proofs.Handshake.Introduction
import SqlWire.Proofs.Handshake.Response
import SqlWire.Proofs.Properties.History
import SqlWire.Proofs.Statements.Opening

/-!
# The database of a new session

A client that opens a session believes that the session is in the database of the options. The server
has been told of it in the response to its greeting, or by a `USE` statement while the session is set
up. The response can only tell a server that says it can be told (`named_iff`): the statement is sent
where the database may have to be created, and not in place of what the response leaves out.
-/

namespace SqlWire

open Net (Env World)
open Handshake (Greeting clientCapabilities responseWith)

/-! ## `USE` statements -/

namespace Sql

/-- What stands in front of the closing backtick, at the end of the text. -/
def closeName? : List Char → Option (List Char)
  | [] => none
  | [c] => if c = '\x60' then some [] else none
  | c :: c' :: rest =>
    if c = '\x60' then if c' = '\x60' then (closeName? rest).map (c :: ·) else none
    else (closeName? (c' :: rest)).map (c :: ·)

/-- A name, with backticks around it or without. -/
def readName? : List Char → Option (List Char)
  | [] => none
  | c :: rest => if c = '\x60' then closeName? rest else some (c :: rest)

/-- The database that a `USE` statement names. -/
def usedDatabase? (sql : String) : Option String :=
  match sql.toList with
  | u :: s :: e :: blank :: name =>
    if [u, s, e].map Char.toLower = ['u', 's', 'e'] ∧ Text.isBlank blank = true then
      (readName? (name.dropWhile Text.isBlank)).map String.ofList
    else none
  | _ => none

theorem closeName?_quoted (name : List Char) :
    closeName? (name.flatMap Exchange.quotedNameChar ++ ['\x60']) = some name := by
  induction name with
  | nil => rfl
  | cons c name ih =>
    rw [List.flatMap_cons, List.append_assoc]
    by_cases tick : c = '\x60'
    · subst tick
      show (closeName? (name.flatMap Exchange.quotedNameChar ++ ['\x60'])).map _ = _
      rw [ih, Option.map_some]
    · have plain : Exchange.quotedNameChar c = [c] := if_neg (by simpa using tick)
      obtain ⟨c', rest, more⟩ : ∃ c' rest,
          name.flatMap Exchange.quotedNameChar ++ ['\x60'] = c' :: rest :=
        List.exists_cons_of_ne_nil (by simp)
      rw [more] at ih
      rw [plain, more, List.singleton_append, closeName?, if_neg tick, ih, Option.map_some]

theorem usedDatabase?_quoteName (name : String) :
    usedDatabase? ("USE " ++ Exchange.quoteName name) = some name := by
  have chars : ("USE " ++ Exchange.quoteName name).toList =
      'U' :: 'S' :: 'E' :: ' ' :: '\x60' :: (name.toList.flatMap Exchange.quotedNameChar ++ ['\x60']) := by
    simp [Exchange.quoteName]
  unfold usedDatabase?
  rw [chars]
  dsimp only
  rw [if_pos (by decide), List.dropWhile_cons_of_neg (by decide), readName?, if_pos rfl,
    closeName?_quoted, Option.map_some, String.ofList_toList]

/-- A text that begins with another letter is no `USE` statement. -/
theorem usedDatabase?_of_head {sql : String} {c : Char} {rest : List Char} (text : sql.toList = c :: rest)
    (other : c.toLower ≠ 'u') : usedDatabase? sql = none := by
  unfold usedDatabase?
  rw [text]
  split
  · next eq =>
    cases eq
    rw [if_neg (by simp [other])]
  · rfl

end Sql

open Sql (usedDatabase?)

/-! ## What a set-up sends -/

namespace Exchange

variable {env : Env} {c c' : Client}

theorem sent_setUp (clear : Clear c) (h : setUp env c = .ok () c') :
    c'.journal.sent = c.journal.sent ++ setUpCommands env.opts := by
  obtain ⟨⟨_, completions⟩, c₁, ran, h⟩ := EStateM.ok_of_bind h
  rw [← sent_runBatch (isPrepare_of_setUp env.opts) clear ran]
  dsimp only at h
  cases row : firstRow completions with
  | error fault =>
    simp only [row] at h
    cases h
  | ok cells =>
    simp only [row] at h
    cases h
    rfl

/-- A query of a set-up is for a database that may have to be created, or a statement of the options,
or no `USE` statement. -/
theorem cases_of_setUp {opts : Options} {sql : String} (mem : .query sql ∈ setUpCommands opts) :
    opts.createDatabase = true ∨ sql ∈ opts.initSql ∨ usedDatabase? sql = none := by
  have sets {rest : List Char} (text : sql.toList = 's' :: rest ∨ sql.toList = 'S' :: rest) :
      usedDatabase? sql = none := by
    rcases text with text | text <;> exact Sql.usedDatabase?_of_head text (by decide)
  unfold setUpCommands at mem
  simp only [List.mem_append] at mem
  rcases mem with ((((assigned | isolation) | autocommit) | database) | queries) | limits
  · split at assigned
    · cases assigned
    · cases List.mem_singleton.mp assigned
      exact .inr (.inr (sets (.inl (by rw [String.toList_append]; rfl))))
  · obtain ⟨level, -, eq⟩ := Option.bind_eq_some_iff.mp (Option.mem_toList.mp isolation)
    cases eq
    exact .inr (.inr (sets (.inr (by rw [String.toList_append]; rfl))))
  · obtain ⟨on, -, eq⟩ := Option.bind_eq_some_iff.mp (Option.mem_toList.mp autocommit)
    cases eq
    cases on <;> exact .inr (.inr (sets (.inl rfl)))
  · split at database
    · next create _ => exact .inl create
    · cases database
  · obtain ⟨text, mem, eq⟩ := List.mem_map.mp queries
    cases eq
    exact .inr (.inl mem)
  · cases List.mem_singleton.mp limits
    exact .inr (.inr (sets (.inr rfl)))

/-- Of the commands of a set-up, those that name a database are the one behind its creation, and
the statements of the options that do. -/
theorem used_of_setUp {opts : Options} {name : String} (wanted : opts.database = some name) :
    (∃ sql, .query sql ∈ setUpCommands opts ∧ usedDatabase? sql = some name) ↔
      opts.createDatabase = true ∨ ∃ sql ∈ opts.initSql, usedDatabase? sql = some name := by
  constructor
  · rintro ⟨sql, mem, used⟩
    rcases cases_of_setUp mem with create | own | none
    · exact .inl create
    · exact .inr ⟨sql, own, used⟩
    · rw [none] at used
      cases used
  · rintro (create | ⟨sql, mem, used⟩)
    · refine ⟨"USE " ++ quoteName name, ?_, Sql.usedDatabase?_quoteName name⟩
      unfold setUpCommands
      simp [create, wanted]
    · refine ⟨sql, ?_, used⟩
      unfold setUpCommands
      simp [mem]

end Exchange

/-! ## What a response names -/

namespace Handshake

theorem has_iff_testBit {caps : Capabilities} {flag : UInt64} {i : Nat} (bit : flag.toNat = 2 ^ i) :
    caps.has flag = caps.bits.toNat.testBit i := by
  have and : (caps.bits &&& flag).toNat = (caps.bits.toNat.testBit i).toNat * 2 ^ i := by
    rw [UInt64.toNat_and, bit, Nat.and_two_pow]
  unfold Capabilities.has
  cases set : caps.bits.toNat.testBit i with
  | true =>
    rw [set] at and
    rw [bne_iff_ne]
    intro zero
    rw [zero, Bool.toNat_true, Nat.one_mul] at and
    exact Nat.ne_of_lt (Nat.two_pow_pos i) and
  | false =>
    rw [set] at and
    rw [bne_eq_false_iff_eq]
    apply UInt64.toNat_inj.mp
    rw [and]
    simp

/-- Both sides have a flag of one bit. -/
theorem has_inter {a b : Capabilities} {flag : UInt64} {i : Nat} (bit : flag.toNat = 2 ^ i) :
    (a.inter b).has flag = (a.has flag && b.has flag) := by
  rw [has_iff_testBit bit, has_iff_testBit bit, has_iff_testBit bit]
  show (a.bits &&& b.bits).toNat.testBit i = _
  rw [UInt64.toNat_and, Nat.testBit_and]

theorem has_connectWithDatabase (opts : Options) :
    (clientCapabilities opts false).has Capabilities.connectWithDatabase =
      (opts.database.isSome && !opts.createDatabase) := by
  unfold clientCapabilities
  generalize (opts.database.isSome && !opts.createDatabase) = wanted
  cases opts.allowMultiQueries <;> cases opts.allowLocalInfile <;> cases opts.compress <;>
    cases wanted <;> rfl

/-- A response names the database to a server that can be told, unless it may have to be created. -/
theorem database_received {opts : Options} {name user : String} {processId : Nat} {greeting : Greeting}
    {plugin : Auth.Plugin} {auth : Bytes} (wanted : opts.database = some name) :
    (responseWith opts processId user ((clientCapabilities opts false).inter greeting.capabilities)
        plugin auth).received.database = some name ↔
      opts.createDatabase = false ∧
        greeting.capabilities.has Capabilities.connectWithDatabase = true := by
  unfold Response.received responseWith
  dsimp only
  rw [has_inter (i := 3) rfl, has_connectWithDatabase, wanted]
  cases opts.createDatabase <;>
    cases greeting.capabilities.has Capabilities.connectWithDatabase <;> simp

end Handshake

/-- The server was told of a database, in the client's response or by a `USE` statement. -/
def Named (response : Handshake.Response) (journal : Journal) (name : String) : Prop :=
  response.received.database = some name ∨
    ∃ sql, .query sql ∈ journal.sent ∧ usedDatabase? sql = some name

namespace Exchange

variable {env : Env} {w w' : World} {channel : Channel} {ctx : Session.Context} {journal : Journal}

theorem sent_connect (h : connect env true w = .ok (channel, ctx, journal) w') :
    journal.sent = setUpCommands env.opts := by
  obtain ⟨⟨channel', outcome⟩, w₁, _, h⟩ := EStateM.ok_of_bind h
  obtain ⟨_, w₂, _, h⟩ := EStateM.ok_of_bind h
  have ready : setUpSession env channel' (.new outcome env.opts) w₂ = _ := h
  unfold setUpSession at ready
  split at ready
  · next c set =>
    cases ready
    exact sent_setUp ⟨rfl, rfl, rfl⟩ set
  · cases ready

/-- Whoever opens a session takes it to be in the database of the options. The server was told of that
database exactly if it may have to be created, if the server has said that it can be told in the
response, or if a statement of the options tells it. What a server reads of a response is
`Handshake.Response.received`. -/
theorem named_iff {name : String} (wanted : env.opts.database = some name)
    (h : connect env true w = .ok (channel, ctx, journal) w') :
    ctx.database = some name ∧ ∃ opened outcome w₀ w₁ greeting response,
      Attempted env w (opened, outcome) w₁ w₀ ∧ Introduced env w₀ outcome w₁ greeting response ∧
      (response.Plain → Handshake.Received.read response.bytes = some (response.received, [])) ∧
      (Named response journal name ↔ env.opts.createDatabase = true ∨
        greeting.capabilities.has Capabilities.connectWithDatabase = true ∨
        ∃ sql ∈ env.opts.initSql, usedDatabase? sql = some name) := by
  have believed : ctx.known.database = env.opts.database := by
    rw [known_connect h]
    rfl
  refine ⟨believed.trans wanted, ?_⟩
  have sent := sent_connect h
  obtain ⟨⟨opened, outcome⟩, w₁, session, -⟩ := EStateM.ok_of_bind h
  obtain ⟨w₀, attempted, session⟩ := exists_attempted session
  obtain ⟨greeting, user, plugin, auth, introduced⟩ := introduced session
  refine ⟨opened, outcome, w₀, w₁, greeting, _, attempted, introduced,
    Handshake.Response.read_of_plain, ?_⟩
  unfold Named
  rw [Handshake.database_received wanted, sent, used_of_setUp wanted]
  cases env.opts.createDatabase <;> simp

/-- Surroundings in which sessions are to be in a database. -/
def inDatabase : Env := .quiet { host := "h", autocommit := none, database := some "db" }

/-- A server that cannot be told of the database in the response, and is not told of it later. -/
theorem named_iff_unannounced : ∃ channel ctx journal w',
    connect inDatabase true (answeringInTurn [[]]) = .ok (channel, ctx, journal) w' ∧
      ctx.database = some "db" ∧ ∃ opened outcome w₁ greeting response,
        Attempted inDatabase (answeringInTurn [[]]) (opened, outcome) w₁ (answeringInTurn [[]]) ∧
        Introduced inDatabase (answeringInTurn [[]]) outcome w₁ greeting response ∧
        ¬ Named response journal "db" := by
  obtain ⟨⟨channel, ctx, journal⟩, opened⟩ := EStateM.Result.exists_ok
    (by decide +kernel : (connect inDatabase true (answeringInTurn [[]])).error?.isNone = true)
  obtain ⟨believed, session, outcome, w₀, w₁, greeting, response, attempted, introduced, -, named⟩ :=
    named_iff rfl opened
  refine ⟨channel, ctx, journal, _, opened, believed, session, outcome, w₁, greeting, response, ?_⟩
  cases attempted with
  | again _ fetches => cases fetches
  | first opened =>
    refine ⟨.first opened, introduced, fun told => ?_⟩
    have silent : (nextGreeting? inDatabase (answeringInTurn [[]])).all
        (!·.capabilities.has Capabilities.connectWithDatabase) = true := by decide +kernel
    rw [introduced.nextGreeting?] at silent
    rcases named.mp told with create | announced | ⟨sql, mem, -⟩
    · cases create
    · rw [Option.all_some, announced] at silent
      cases silent
    · cases mem

end Exchange

end SqlWire
