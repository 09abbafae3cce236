import SqlWire.Reply.Prepared
import SqlWire.Session.Context

/-!
# Reading a response

A `Reader` takes the packets of one response and collects what it completes with. `Reader.step`
takes one packet and also brings the state of the session up to date. The packets are: an OK packet,
or a column count, the column definitions and the rows, each list with its end packet where the
session still has them; and after a prepare its own first packet and the definitions of parameters
and columns. An error packet ends a response anywhere.

With a fetch size the reader suspends when that many rows of a result set are there; what was read may
then be taken out. Behind the end of this result set the response is read as a whole.
-/

namespace SqlWire

/-- Everything that a command gave. -/
inductive Response where
  /-- The command has no response. -/
  | none
  | completions (completions : Array Completion)
  | prepared (statement : PreparedStatement)

def Response.toCompletions : Response → Array Completion
  | completions cs => cs
  | none | prepared _ => #[]

/-- What the reader wants next. -/
inductive ReadStep where
  | needPacket
  /-- Rows are to be taken before the next packet. -/
  | suspended
  /-- The server wants the content of a file before the next packet. -/
  | localFile (name : String)
  | done
  deriving DecidableEq, Repr

namespace Reader

/-- The packet that comes next. -/
inductive Stage where
  | start
  | columns (remaining : Nat)
  | columnsEnd
  | rows
  | params (remaining : Nat)
  | paramsEnd
  | preparedColumns (remaining : Nat)
  | preparedColumnsEnd
  | done
  deriving DecidableEq, Repr

/-- A prepared statement whose definitions are being read. -/
structure Pending where
  statementId : UInt32
  columnCount : Nat
  params : Array Column
  columns : Array Column

end Reader

/-- A response that is being read. -/
structure Reader where
  kind : ResponseKind
  sql : Option String
  stage : Reader.Stage
  deprecateEof : Bool
  fetchSize : Nat
  maxRows : UInt64
  /-- Rows are not kept. -/
  discarding : Bool
  /-- A result set of this response was given out in parts. -/
  suspendedOnce : Bool
  completions : Array Completion
  columns : Array Column
  current : Option ResultSet
  rowsSeen : UInt64
  pending : Option Reader.Pending
  error : Option ServerError

namespace Reader

open Session (Context)

def new (command : Command) (deprecateEof : Bool) (options : StatementOptions) : Reader where
  kind := command.responseKind
  sql := command.sql?
  stage := if command.responseKind == .none then .done else .start
  deprecateEof
  fetchSize := options.fetchSize
  maxRows := options.maxRows
  discarding := false
  suspendedOnce := false
  completions := #[]
  columns := #[]
  current := none
  rowsSeen := 0
  pending := none
  error := none

def isDone (r : Reader) : Bool := r.stage == .done

/-- Drops the rows, and does not suspend any more. -/
def discard (r : Reader) : Reader :=
  { r with
    discarding := true
    fetchSize := 0
    current := r.current.map fun set => { set with rows := #[] } }

def takeRows (r : Reader) : Array Row × Reader :=
  ((r.current.map (·.rows)).getD #[],
    { r with current := r.current.map fun set => { set with rows := #[] } })

def takePartial (r : Reader) : Option ResultSet × Reader :=
  (r.current.map fun set => { set with streaming := true },
    { r with current := r.current.map fun set => { set with rows := #[] } })

def takeCompletions (r : Reader) : Array Completion × Reader :=
  (r.completions, { r with completions := #[] })

/-- A step: what is wanted next or what was wrong, the reader and the session after it. -/
abbrev Result := EStateM.Result ProtocolFault (Reader × Context) ReadStep

/-- What is wanted next: nothing at the end. -/
def progress (r : Reader) : ReadStep := if r.isDone then .done else .needPacket

def beginRows (r : Reader) : Reader :=
  { r with
    rowsSeen := 0
    current := some ⟨r.columns, #[], false⟩
    columns := #[]
    stage := .rows }

def afterCompletion (r : Reader) (more : Bool) : Reader :=
  { r with stage := if more then .start else .done }

/-- The stage behind the parameters of a prepared statement. -/
def afterParams (r : Reader) : Stage :=
  match (r.pending.map (·.columnCount)).getD 0 with
  | 0 => .done
  | n => .preparedColumns n

def fail (r : Reader) (e : ServerError) : Reader :=
  { r with error := some e, current := none, pending := none, stage := .done }

def firstOfPrepare (r : Reader) (packet : Bytes) (ctx : Context) : Result :=
  if packet.head? == some Lead.ok then
    match PrepareOk.parse packet with
    | .error fault => .error fault (r, ctx)
    | .ok ok =>
      let r := { r with pending := some ⟨ok.statementId, ok.columns.toNat, #[], #[]⟩ }
      let r := { r with stage := if ok.params == 0 then r.afterParams else .params ok.params.toNat }
      .ok r.progress (r, ctx.addWarnings ok.warnings)
  else .error .notPrepareResponse (r, ctx)

def firstOfResult (r : Reader) (packet : Bytes) (ctx : Context) : Result :=
  match packet with
  | [] => .error .emptyResponse (r, ctx)
  | lead :: rest =>
    if lead == Lead.ok then
      match OkPacket.parse packet with
      | .error fault => .error fault (r, ctx)
      | .ok ok =>
        let r := { r with completions := r.completions.push (.ok ok) }
        let r := r.afterCompletion ok.status.moreResults
        .ok r.progress (r, ctx.applyStatus ok.status ok.warnings)
    else if lead == Lead.localFile && r.kind == .text then
      .ok (.localFile (Text.decodeLossy rest)) (r, ctx)
    else
      match columnCount packet with
      | .error fault => .error fault (r, ctx)
      | .ok count =>
        if count == 0 then .error .noColumns (r, ctx)
        else .ok .needPacket ({ r with columns := #[], stage := .columns count }, ctx)

def resultEnd (r : Reader) (packet : Bytes) : Except ProtocolFault (Status × UInt16) :=
  if r.deprecateEof then (OkPacket.parse packet).map fun ok => (ok.status, ok.warnings)
  else (EofPacket.parse packet).map fun eof => (eof.status, eof.warnings)

def endRows (r : Reader) (more : Bool) : Reader :=
  let completions := match r.current with
    | some set =>
      if r.discarding then r.completions
      else r.completions.push (.rows { set with streaming := false })
    | none => r.completions
  { r with
    fetchSize := if r.suspendedOnce then 0 else r.fetchSize
    current := none
    completions }.afterCompletion more

def row (r : Reader) (payload : ByteArray) (ctx : Context) : Result :=
  if isResultEnd payload[0]? payload.size r.deprecateEof then
    match r.resultEnd (Bytes.ofWire payload) with
    | .error fault => .error fault (r, ctx)
    | .ok (status, warnings) =>
      let r := r.endRows status.moreResults
      .ok r.progress (r, ctx.applyStatus status warnings)
  else
    let r := { r with rowsSeen := r.rowsSeen + 1 }
    let keep := !r.discarding && (r.maxRows == 0 || r.rowsSeen ≤ r.maxRows)
    match r.current with
    | none => .error .strayRow (r, ctx)
    | some set =>
      let rows := if keep then set.rows.push ⟨payload, r.kind == .binary⟩ else set.rows
      let r := { r with current := some { set with rows } }
      if 0 < r.fetchSize && r.fetchSize ≤ rows.size then
        .ok .suspended ({ r with suspendedOnce := true }, ctx)
      else .ok .needPacket (r, ctx)

/-- A definition of a prepared statement: `add` files it, and `next` is the stage behind it. -/
def definition (r : Reader) (packet : Bytes) (ctx : Context) (add : Column → Pending → Pending)
    (next : Reader → Stage) : Result :=
  match r.pending with
  | none => .error .strayDefinition (r, ctx)
  | some pending =>
    match Column.parse packet with
    | .error fault => .error fault (r, ctx)
    | .ok column =>
      let r := { r with pending := some (add column pending) }
      let r := { r with stage := next r }
      .ok r.progress (r, ctx)

def definitionsEnd (r : Reader) (packet : Bytes) (ctx : Context) (next : Reader) : Result :=
  match EofPacket.parse packet with
  | .error fault => .error fault (r, ctx)
  | .ok _ => .ok next.progress (next, ctx)

def column (r : Reader) (packet : Bytes) (ctx : Context) (remaining : Nat) : Result :=
  match Column.parse packet with
  | .error fault => .error fault (r, ctx)
  | .ok column =>
    let r := { r with columns := r.columns.push column }
    let r :=
      if 1 < remaining then { r with stage := .columns (remaining - 1) }
      else if r.deprecateEof then r.beginRows
      else { r with stage := .columnsEnd }
    .ok .needPacket (r, ctx)

/-- Takes the packet that the stage asks for. -/
def accept (r : Reader) (payload : ByteArray) (ctx : Context) : Result :=
  let packet := Bytes.ofWire payload
  match r.stage with
  | .start =>
    if r.kind == .prepare then r.firstOfPrepare packet ctx else r.firstOfResult packet ctx
  | .columns remaining => r.column packet ctx remaining
  | .columnsEnd => r.definitionsEnd packet ctx r.beginRows
  | .rows => r.row payload ctx
  | .params remaining =>
    r.definition packet ctx (fun column p => { p with params := p.params.push column }) fun r =>
      if 1 < remaining then .params (remaining - 1)
      else if r.deprecateEof then r.afterParams
      else .paramsEnd
  | .paramsEnd => r.definitionsEnd packet ctx { r with stage := r.afterParams }
  | .preparedColumns remaining =>
    r.definition packet ctx (fun column p => { p with columns := p.columns.push column }) fun r =>
      if 1 < remaining then .preparedColumns (remaining - 1)
      else if r.deprecateEof then .done
      else .preparedColumnsEnd
  | .preparedColumnsEnd => r.definitionsEnd packet ctx { r with stage := .done }
  | .done => .error (.afterResponse (payload[0]?.getD 0)) (r, ctx)

def step (payload : ByteArray) : EStateM ProtocolFault (Reader × Context) ReadStep := fun (r, ctx) =>
  if payload[0]? == some Lead.err && !r.isDone then
    match ServerError.parse (Bytes.ofWire payload) with
    | .error fault => .error fault (r, ctx)
    | .ok e => .ok .done (r.fail e, ctx.applyError)
  else r.accept payload ctx

def finish (r : Reader) : Except ProtocolFault (Except ServerError Response) :=
  match r.error with
  | some e => .ok (.error e)
  | none =>
    if !r.isDone then .error .unfinishedResponse
    else match r.kind with
      | .none => .ok (.ok .none)
      | .prepare =>
        match r.pending with
        | none => .error .missingPrepareOk
        | some p => .ok (.ok (.prepared ⟨0, p.statementId, r.sql.getD "", p.params, p.columns⟩))
      | .text | .binary => .ok (.ok (.completions r.completions))

end Reader

end SqlWire
