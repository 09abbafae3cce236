import SqlWire.Proofs.Alignment.Settling
import SqlWire.Proofs.Alignment.Transcript

/-!
# What a response tells of the session

OK packets, and EOF packets behind rows, carry the status of the session, and an error leaves no
further result. So the packets of a response decide which status the session has behind it
(`Answer.statusBehind`), whoever reads them: `Reader.status_step` is the step, and from it a client
that reads the response has just this status, and has sent nothing (`Exchange.took_receive`).
-/

namespace SqlWire

open EStateM (Result)
open Net (Env)
open Answer (Completes Point)
open Bytes (ofWire)
open Exchange (Stop)

namespace Answer

/-- The status of the session behind a packet. -/
def statusOf (deprecateEof : Bool) (point : Point) (packet : ByteArray) (status : Status) : Status :=
  let lead := packet[0]?
  if lead = some Lead.err then status.lastResult
  else match point with
  | .result =>
    if lead = some Lead.ok then
      ((OkPacket.parse (ofWire packet)).toOption.map OkPacket.status).getD status
    else status
  | .rows =>
    if isResultEnd lead packet.size deprecateEof then
      if deprecateEof then ((OkPacket.parse (ofWire packet)).toOption.map OkPacket.status).getD status
      else ((EofPacket.parse (ofWire packet)).toOption.map EofPacket.status).getD status
    else status
  | _ => status

/-- The status of the session behind some packets of a response. -/
def statusBehind (deprecateEof : Bool) : Point → List ByteArray → Status → Status
  | _, [], status => status
  | point, packet :: packets, status =>
    statusBehind deprecateEof ((next? deprecateEof point packet).getD .ended) packets
      (statusOf deprecateEof point packet status)

variable {deprecateEof : Bool} {point next : Point} {packet : ByteArray}

/-- A well-formed packet brings a response to one point only. -/
theorem next_of_follows (follows : Follows deprecateEof point packet next) :
    next? deprecateEof point packet = some next := by
  unfold next?
  cases follows with
  | error more lead parsed =>
    dsimp only
    rw [if_pos lead, if_neg more, parsed]
    rfl
  | ok lead parsed =>
    dsimp only
    rw [if_neg (by simp [lead, Lead.ok, Lead.err]), if_pos lead, parsed]
    rfl
  | columnCount parsed =>
    obtain ⟨notErr, notOk, -⟩ := head?_of_columnCount parsed
    rw [← getElem?_zero] at notErr notOk
    dsimp only
    rw [if_neg notErr, if_neg notOk, parsed]
    rfl
  | column parsed | param parsed | preparedColumn parsed =>
    have notErr := head?_of_column parsed
    rw [← getElem?_zero] at notErr
    dsimp only
    rw [if_neg notErr, parsed]
    rfl
  | columnsEnd parsed | paramsEnd parsed | preparedColumnsEnd parsed =>
    have notErr := head?_of_eof parsed
    rw [← getElem?_zero] at notErr
    dsimp only
    rw [if_neg notErr, parsed]
    rfl
  | row lead more =>
    dsimp only
    rw [if_neg lead, if_neg (by simp [more])]
  | endOk eof last parsed =>
    have lead : packet[0]? = some Lead.eof := by simp_all [isResultEnd]
    dsimp only
    rw [if_neg (by simp [lead, Lead.eof, Lead.err]), if_pos last, if_pos eof, parsed]
    rfl
  | endEof eof last parsed =>
    have lead : packet[0]? = some Lead.eof := by simp_all [isResultEnd]
    dsimp only
    rw [if_neg (by simp [lead, Lead.eof, Lead.err]), if_pos last, if_neg (by simp [eof]), parsed]
    rfl
  | prepared parsed =>
    have lead := head?_of_prepareOk parsed
    rw [← getElem?_zero] at lead
    dsimp only
    rw [if_neg (by simp [lead, Lead.ok, Lead.err]), parsed]
    rfl

end Answer

namespace Reader

open Session (Context)

variable {r : Reader} {ctx : Context} {point next : Point} {packet : ByteArray}

theorem ctx_definition {bytes : Bytes} {add : Column → Pending → Pending} {behind : Reader → Stage} :
    (r.definition bytes ctx add behind).state.2 = ctx := by
  unfold definition
  split
  · rfl
  · split <;> rfl

theorem ctx_definitionsEnd {bytes : Bytes} {r' : Reader} :
    (r.definitionsEnd bytes ctx r').state.2 = ctx := by
  unfold definitionsEnd
  split <;> rfl

theorem ctx_column {bytes : Bytes} {remaining : Nat} :
    (r.column bytes ctx remaining).state.2 = ctx := by
  unfold column
  split <;> rfl

theorem status_firstOfPrepare {bytes : Bytes} :
    (r.firstOfPrepare bytes ctx).state.2.status = ctx.status := by
  unfold firstOfPrepare
  split
  · split <;> rfl
  · rfl

theorem status_row_of_end {status : Status} {warnings : UInt16}
    (last : isResultEnd packet[0]? packet.size r.deprecateEof = true)
    (parsed : r.resultEnd (ofWire packet) = .ok (status, warnings)) :
    (r.row packet ctx).state.2.status = status := by
  unfold row
  rw [if_pos last, parsed]
  rfl

theorem ctx_row_of_more (more : isResultEnd packet[0]? packet.size r.deprecateEof = false) :
    (r.row packet ctx).state.2 = ctx := by
  unfold row
  rw [if_neg (by simp [more])]
  dsimp only
  split
  · rfl
  · -- Whether the row is kept makes no difference, nor does a full fetch.
    split <;> split <;> rfl

theorem status_firstOfResult_of_ok {ok : OkPacket} (lead : packet[0]? = some Lead.ok)
    (parsed : OkPacket.parse (ofWire packet) = .ok ok) :
    (r.firstOfResult (ofWire packet) ctx).state.2.status = ok.status := by
  rw [Answer.getElem?_zero] at lead
  obtain ⟨rest, eq⟩ := List.head?_eq_some_iff.mp lead
  rw [eq] at parsed ⊢
  unfold firstOfResult
  dsimp only
  rw [if_pos (by rfl), parsed]
  rfl

theorem ctx_firstOfResult_of_count (lead : packet[0]? ≠ some Lead.ok) :
    (r.firstOfResult (ofWire packet) ctx).state.2 = ctx := by
  rw [Answer.getElem?_zero] at lead
  unfold firstOfResult
  split
  · rfl
  · next first rest eq =>
    rw [eq, List.head?_cons, ne_eq, Option.some_inj] at lead
    rw [if_neg (by simp [lead])]
    split
    · rfl
    · split
      · rfl
      · split <;> rfl

/-- A reader takes over the status that a packet carries. -/
theorem status_step (expects : r.Expects point)
    (follows : Answer.Follows r.deprecateEof point packet next) :
    (step packet (r, ctx)).state.2.status =
      Answer.statusOf r.deprecateEof point packet ctx.status := by
  -- Without an error, the status depends on the point only.
  have plain (lead : packet[0]? ≠ some Lead.err) :
      Answer.statusOf r.deprecateEof point packet ctx.status = _ := if_neg lead
  cases follows with
  | error more lead parsed =>
    have going : r.isDone = false := by
      rw [← Bool.not_eq_true, isDone_iff expects]
      exact more
    rw [step_of_error going lead parsed]
    exact (if_pos lead).symm
  | ok lead parsed =>
    obtain ⟨stage, kind⟩ := expects
    have notErr : packet[0]? ≠ some Lead.err := by simp [lead, Lead.ok, Lead.err]
    rw [step_of_lead notErr, plain notErr, accept, stage]
    dsimp only
    rw [if_neg (by simpa using kind), if_pos lead, parsed]
    exact status_firstOfResult_of_ok lead parsed
  | columnCount parsed =>
    obtain ⟨stage, kind⟩ := expects
    obtain ⟨notErr, notOk, -⟩ := Answer.head?_of_columnCount parsed
    rw [← Answer.getElem?_zero] at notErr notOk
    rw [step_of_lead notErr, plain notErr, accept, stage]
    dsimp only
    rw [if_neg (by simpa using kind), if_neg notOk, ctx_firstOfResult_of_count notOk]
  | row lead more =>
    obtain ⟨stage, -⟩ := expects
    rw [step_of_lead lead, plain lead, accept, stage]
    dsimp only
    rw [ctx_row_of_more more, if_neg (by simp [more])]
  | @endOk _ ok eof last parsed =>
    obtain ⟨stage, -⟩ := expects
    have lead : packet[0]? = some Lead.eof := by simp_all [isResultEnd]
    have notErr : packet[0]? ≠ some Lead.err := by simp [lead, Lead.eof, Lead.err]
    have ended : r.resultEnd (ofWire packet) = .ok (ok.status, ok.warnings) := by
      rw [resultEnd, if_pos eof, parsed]
      rfl
    rw [step_of_lead notErr, plain notErr, accept, stage]
    dsimp only
    rw [status_row_of_end last ended, if_pos last, if_pos eof, parsed]
    rfl
  | @endEof _ ended eof last parsed =>
    obtain ⟨stage, -⟩ := expects
    have notErr : packet[0]? ≠ some Lead.err :=
      Answer.getElem?_zero packet ▸ Answer.head?_of_eof parsed
    have ended : r.resultEnd (ofWire packet) = .ok (ended.status, ended.warnings) := by
      rw [resultEnd, if_neg (by simp [eof]), parsed]
      rfl
    rw [step_of_lead notErr, plain notErr, accept, stage]
    dsimp only
    rw [status_row_of_end last ended, if_pos last, if_neg (by simp [eof]), parsed]
    rfl
  | prepared parsed =>
    obtain ⟨stage, kind⟩ := expects
    have lead : packet[0]? = some Lead.ok :=
      (Answer.getElem?_zero _).trans (Answer.head?_of_prepareOk parsed)
    have notErr : packet[0]? ≠ some Lead.err := by simp [lead, Lead.ok, Lead.err]
    rw [step_of_lead notErr, plain notErr, accept, stage]
    dsimp only
    rw [if_pos (by simpa using kind)]
    exact status_firstOfPrepare
  -- Definitions carry no status.
  | column parsed =>
    have notErr : packet[0]? ≠ some Lead.err :=
      Answer.getElem?_zero packet ▸ Answer.head?_of_column parsed
    rw [step_of_lead notErr, plain notErr, accept, expects.1]
    exact congrArg Context.status ctx_column
  | param parsed | preparedColumn parsed =>
    have notErr : packet[0]? ≠ some Lead.err :=
      Answer.getElem?_zero packet ▸ Answer.head?_of_column parsed
    rw [step_of_lead notErr, plain notErr, accept, expects.1]
    exact congrArg Context.status ctx_definition
  | columnsEnd parsed | paramsEnd parsed | preparedColumnsEnd parsed =>
    have notErr : packet[0]? ≠ some Lead.err :=
      Answer.getElem?_zero packet ▸ Answer.head?_of_eof parsed
    rw [step_of_lead notErr, plain notErr, accept, expects.1]
    exact congrArg Context.status ctx_definitionsEnd

end Reader

namespace Exchange

variable {format : Format} {packets : List ByteArray} {wire later : Bytes} {command : Command}
  {options : StatementOptions} {mark : Mark} {env : Env} {c c' : Client}

/-- The status of the session is this one, and nothing was sent. -/
structure Took (status : Status) (c c' : Client) : Prop where
  status : c'.ctx.status = status
  untouched : c.line.Untouched c'.line

/-- Who reads a response without a pause has the status that it tells, and has sent nothing. -/
theorem took_readUntil (faultless : env.Faultless) {reader reader' : Reader} {point : Point}
    {stop : Stop} (whole : reader.fetchSize = 0) (expects : reader.Expects point)
    (eof : reader.deprecateEof = format.deprecateEof)
    (completes : Completes format.deprecateEof point packets)
    (awaits : c.Awaits env format packets later)
    (read : readUntil env command reader c = .ok (reader', stop) c') :
    Took (Answer.statusBehind format.deprecateEof point packets c.ctx.status) c c' := by
  induction completes generalizing reader c with
  | ended =>
    rw [readUntil, if_pos ((Reader.isDone_iff expects).mpr rfl)] at read
    cases read
    exact ⟨rfl, .refl _⟩
  | @packet point next packet packets follows completes ih =>
    have going : reader.isDone = false := by
      rw [← Bool.not_eq_true, Reader.isDone_iff expects]
      rintro rfl
      cases (Completes.packet follows completes).eq_nil
    obtain ⟨c₁, taken, awaits₁⟩ := readPacket_of_awaits faultless awaits
    obtain ⟨line, pulled, line_eq⟩ := onLine_ok taken
    have ctx₁ : c₁.ctx = c.ctx := by rw [line_eq]; rfl
    have quiet : c.line.Untouched c₁.line := by
      rw [line_eq]
      exact Line.quiet_readPacket faultless pulled
    have behind := Answer.next_of_follows follows
    rw [← eof] at follows
    obtain ⟨wanted, reader₁, ctx₂, step, moved⟩ :
        Reader.Moves reader next (Reader.step packet (reader, c₁.ctx)) :=
      Reader.step_of_follows expects follows
    have status : (Reader.step packet (reader, c₁.ctx)).state.2.status = _ :=
      Reader.status_step expects follows
    rw [step, ctx₁] at status
    have more : wanted ≠ .suspended := by
      rintro rfl
      exact absurd step (((Reader.calm_step _).whole whole).2 _)
    rw [readUntil_of_step going taken step moved.noFile, if_neg more] at read
    obtain ⟨told, untouched⟩ := ih (Reader.fetchSize_step whole step) moved.expects
      (moved.deprecateEof.trans eof) (awaits_of_step awaits₁ step) read
    refine ⟨told.trans ?_, quiet.trans untouched⟩
    rw [Answer.statusBehind, behind, ← eof]
    exact congrArg _ status

/-- Finishing a response tells nothing more. -/
theorem took_finishResponse {reader : Reader} : Along (fun c => Took c.ctx.status c)
    (finishResponse command reader) := by
  intro c
  unfold finishResponse
  split
  · exact ⟨rfl, .refl _⟩
  · dsimp only
    split <;> exact ⟨rfl, .refl _⟩

/-- Whoever reads the response to a command without a pause has the status that it tells. -/
theorem took_readFor (faultless : env.Faultless) (whole : options.fetchSize = 0)
    (completes : Completes format.deprecateEof (.first command.responseKind) packets)
    (onWire : Answer.OnWire env format.compressed mark packets wire)
    (amid : c.Amid env format none (wire ++ later)) :
    Took (Answer.statusBehind format.deprecateEof (.first command.responseKind) packets c.ctx.status)
      c (readFor env command mark options c).state := by
  have awaits := amid.awaits.restore onWire
  have eof : c.ctx.deprecateEof = format.deprecateEof :=
    congrArg Format.deprecateEof amid.awaits.format
  have expects := Reader.expects_new command c.ctx.deprecateEof options
  obtain ⟨reader, stop, left, c₁, read, reads, -, -⟩ :=
    readUntil_of_awaits command faultless expects eof completes awaits
  obtain rfl := reads.stop_eq_done whole
  obtain ⟨told, untouched⟩ := took_readUntil faultless whole expects eof completes awaits read
  have finished : Took c₁.ctx.status c₁ (finishResponse command reader c₁).state :=
    took_finishResponse c₁
  have ran : readFor env command mark options c = finishResponse command reader c₁ := by
    unfold readFor
    dsimp only
    rw [read]
  rw [ran]
  exact ⟨finished.status.trans told, .trans ⟨untouched.link, untouched.links⟩ finished.untouched⟩

/-- The response to a command is given, or the error that it holds. -/
theorem took_receive (faultless : env.Faultless) (whole : options.fetchSize = 0)
    (other : isPrepare command = false)
    (completes : Completes format.deprecateEof (.first command.responseKind) packets)
    (onWire : Answer.OnWire env format.compressed mark packets wire)
    (amid : c.Amid env format none (wire ++ later)) :
    Yields (readFor env command mark options >>= complete env) c fun given c' =>
      c'.Amid env format none later ∧ Undisturbed c c' ∧
        Took (Answer.statusBehind format.deprecateEof (.first command.responseKind) packets
          c.ctx.status) c c' ∧
        ∃ result : Except ServerError Response, given = result.mapError Error.server := by
  have reading : Yields (readFor env command mark options) c _ :=
    readFor_of_amid faultless completes onWire amid
  refine .of_eq (receive_eq_readFor other c) ?_
  refine ((reading.and_state (undisturbed_readFor whole c)).and_state
    (took_readFor faultless whole completes onWire amid)).mono ?_
  rintro given c' ⟨⟨⟨-, result, current, gives, rfl, amid'⟩, undisturbed⟩, took⟩
  obtain rfl : current = none := by
    cases gives with
    | whole => rfl
    | paused reads => cases reads.stop_eq_done whole
  exact ⟨amid', undisturbed, took, result, rfl⟩

end Exchange

end SqlWire
