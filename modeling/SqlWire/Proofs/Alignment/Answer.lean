import SqlWire.Result.Reader

/-!
# Well-formed responses

What a server may send as the response to a command, packet by packet: `Follows` says where a
response stands behind a packet, and `Completes` that some packets are what is left of a response. A
reader that expects just that takes each packet (`Reader.step_of_follows`), whether or not it keeps
rows or suspends, and it is done exactly when the response is over.
-/

namespace SqlWire

namespace Answer

/-- Where a response stands. With definitions `more` says how many follow behind the next one. -/
inductive Point where
  | result
  | columns (more : Nat)
  | columnsEnd
  | rows
  | prepared
  | params (more columns : Nat)
  | paramsEnd (columns : Nat)
  | preparedColumns (more : Nat)
  | preparedColumnsEnd
  | ended
  deriving DecidableEq

namespace Point

def first : ResponseKind → Point
  | .none => ended
  | .text | .binary => result
  | .prepare => prepared

def afterResult (status : Status) : Point := if status.moreResults then result else ended

def afterColumn (deprecateEof : Bool) : Nat → Point
  | 0 => if deprecateEof then rows else columnsEnd
  | more + 1 => columns more

def beforeColumns : Nat → Point
  | 0 => ended
  | more + 1 => preparedColumns more

def beforeParams (columns : Nat) : Nat → Point
  | 0 => beforeColumns columns
  | more + 1 => params more columns

def afterParam (deprecateEof : Bool) (columns : Nat) : Nat → Point
  | 0 => if deprecateEof then beforeColumns columns else paramsEnd columns
  | more + 1 => params more columns

def afterPreparedColumn (deprecateEof : Bool) : Nat → Point
  | 0 => if deprecateEof then ended else preparedColumnsEnd
  | more + 1 => preparedColumns more

end Point

open Bytes (ofWire)

/-- A packet is well-formed at a point and brings a response to another. -/
inductive Follows (deprecateEof : Bool) : Point → ByteArray → Point → Prop where
  | error {point : Point} {packet : ByteArray} {e : ServerError} : point ≠ .ended →
      packet[0]? = some Lead.err → ServerError.parse (ofWire packet) = .ok e →
      Follows deprecateEof point packet .ended
  | ok {packet : ByteArray} {ok : OkPacket} : packet[0]? = some Lead.ok →
      OkPacket.parse (ofWire packet) = .ok ok →
      Follows deprecateEof .result packet (.afterResult ok.status)
  | columnCount {packet : ByteArray} {more : Nat} : columnCount (ofWire packet) = .ok (more + 1) →
      Follows deprecateEof .result packet (.columns more)
  | column {packet : ByteArray} {more : Nat} {column : Column} :
      Column.parse (ofWire packet) = .ok column →
      Follows deprecateEof (.columns more) packet (.afterColumn deprecateEof more)
  | columnsEnd {packet : ByteArray} {eof : EofPacket} : EofPacket.parse (ofWire packet) = .ok eof →
      Follows deprecateEof .columnsEnd packet .rows
  | row {packet : ByteArray} : packet[0]? ≠ some Lead.err →
      isResultEnd packet[0]? packet.size deprecateEof = false →
      Follows deprecateEof .rows packet .rows
  | endOk {packet : ByteArray} {ok : OkPacket} : deprecateEof = true →
      isResultEnd packet[0]? packet.size deprecateEof = true →
      OkPacket.parse (ofWire packet) = .ok ok →
      Follows deprecateEof .rows packet (.afterResult ok.status)
  | endEof {packet : ByteArray} {eof : EofPacket} : deprecateEof = false →
      isResultEnd packet[0]? packet.size deprecateEof = true →
      EofPacket.parse (ofWire packet) = .ok eof →
      Follows deprecateEof .rows packet (.afterResult eof.status)
  | prepared {packet : ByteArray} {ok : PrepareOk} : PrepareOk.parse (ofWire packet) = .ok ok →
      Follows deprecateEof .prepared packet (.beforeParams ok.columns.toNat ok.params.toNat)
  | param {packet : ByteArray} {more columns : Nat} {param : Column} :
      Column.parse (ofWire packet) = .ok param →
      Follows deprecateEof (.params more columns) packet (.afterParam deprecateEof columns more)
  | paramsEnd {packet : ByteArray} {columns : Nat} {eof : EofPacket} :
      EofPacket.parse (ofWire packet) = .ok eof →
      Follows deprecateEof (.paramsEnd columns) packet (.beforeColumns columns)
  | preparedColumn {packet : ByteArray} {more : Nat} {column : Column} :
      Column.parse (ofWire packet) = .ok column →
      Follows deprecateEof (.preparedColumns more) packet (.afterPreparedColumn deprecateEof more)
  | preparedColumnsEnd {packet : ByteArray} {eof : EofPacket} :
      EofPacket.parse (ofWire packet) = .ok eof →
      Follows deprecateEof .preparedColumnsEnd packet .ended

/-- The packets are what is left of a response. -/
inductive Completes (deprecateEof : Bool) : Point → List ByteArray → Prop where
  | ended : Completes deprecateEof .ended []
  | packet {point next : Point} {packet : ByteArray} {packets : List ByteArray} :
      Follows deprecateEof point packet next → Completes deprecateEof next packets →
      Completes deprecateEof point (packet :: packets)

theorem Completes.eq_nil {deprecateEof : Bool} {packets : List ByteArray}
    (h : Completes deprecateEof .ended packets) : packets = [] := by
  cases h with
  | ended => rfl
  | packet follows _ =>
    cases follows with
    | error more => exact absurd rfl more

/-- The point behind a packet, if it is well-formed. -/
def next? (deprecateEof : Bool) (point : Point) (packet : ByteArray) : Option Point :=
  let lead := packet[0]?
  if lead = some Lead.err then
    if point = .ended then none else (ServerError.parse (ofWire packet)).toOption.map fun _ => .ended
  else match point with
  | .result =>
    if lead = some Lead.ok then
      (OkPacket.parse (ofWire packet)).toOption.map fun ok => .afterResult ok.status
    else match (columnCount (ofWire packet)).toOption with
    | some (more + 1) => some (.columns more)
    | _ => none
  | .columns more =>
    (Column.parse (ofWire packet)).toOption.map fun _ => .afterColumn deprecateEof more
  | .columnsEnd => (EofPacket.parse (ofWire packet)).toOption.map fun _ => .rows
  | .rows =>
    if isResultEnd lead packet.size deprecateEof then
      if deprecateEof then
        (OkPacket.parse (ofWire packet)).toOption.map fun ok => .afterResult ok.status
      else (EofPacket.parse (ofWire packet)).toOption.map fun eof => .afterResult eof.status
    else some .rows
  | .prepared =>
    (PrepareOk.parse (ofWire packet)).toOption.map fun ok =>
      .beforeParams ok.columns.toNat ok.params.toNat
  | .params more columns =>
    (Column.parse (ofWire packet)).toOption.map fun _ => .afterParam deprecateEof columns more
  | .paramsEnd columns => (EofPacket.parse (ofWire packet)).toOption.map fun _ => .beforeColumns columns
  | .preparedColumns more =>
    (Column.parse (ofWire packet)).toOption.map fun _ => .afterPreparedColumn deprecateEof more
  | .preparedColumnsEnd => (EofPacket.parse (ofWire packet)).toOption.map fun _ => .ended
  | .ended => none

theorem exists_ok_of_toOption {α β ε : Type} {parsed : Except ε α} {f : α → β} {b : β}
    (h : parsed.toOption.map f = some b) : ∃ a, parsed = .ok a ∧ f a = b := by
  cases parsed with
  | error => cases h
  | ok a => exact ⟨a, rfl, Option.some_inj.mp h⟩

theorem follows_of_next {deprecateEof : Bool} {point next : Point} {packet : ByteArray}
    (h : next? deprecateEof point packet = some next) : Follows deprecateEof point packet next := by
  unfold next? at h
  dsimp only at h
  split at h
  · next lead =>
    split at h
    · cases h
    · next more =>
      obtain ⟨e, parsed, rfl⟩ := exists_ok_of_toOption h
      exact .error more lead parsed
  · next notErr =>
    cases point with
    | result =>
      dsimp only at h
      split at h
      · next lead =>
        obtain ⟨ok, parsed, rfl⟩ := exists_ok_of_toOption h
        exact .ok lead parsed
      · split at h
        · next more counted =>
          cases h
          have counted' : (columnCount (ofWire packet)).toOption.map id = some (more + 1) := by
            rw [counted]
            rfl
          obtain ⟨count, parsed, rfl⟩ := exists_ok_of_toOption counted'
          exact .columnCount parsed
        · cases h
    | columns more =>
      obtain ⟨column, parsed, rfl⟩ := exists_ok_of_toOption h
      exact .column parsed
    | columnsEnd =>
      obtain ⟨eof, parsed, rfl⟩ := exists_ok_of_toOption h
      exact .columnsEnd parsed
    | rows =>
      dsimp only at h
      split at h
      · next last =>
        split at h
        · next eof =>
          obtain ⟨ok, parsed, rfl⟩ := exists_ok_of_toOption h
          exact .endOk eof last parsed
        · next eof =>
          obtain ⟨eof', parsed, rfl⟩ := exists_ok_of_toOption h
          exact .endEof (Bool.not_eq_true _ ▸ eof) last parsed
      · next more =>
        cases h
        exact .row notErr (Bool.not_eq_true _ ▸ more)
    | prepared =>
      obtain ⟨ok, parsed, rfl⟩ := exists_ok_of_toOption h
      exact .prepared parsed
    | params more columns =>
      obtain ⟨column, parsed, rfl⟩ := exists_ok_of_toOption h
      exact .param parsed
    | paramsEnd columns =>
      obtain ⟨eof, parsed, rfl⟩ := exists_ok_of_toOption h
      exact .paramsEnd parsed
    | preparedColumns more =>
      obtain ⟨column, parsed, rfl⟩ := exists_ok_of_toOption h
      exact .preparedColumn parsed
    | preparedColumnsEnd =>
      obtain ⟨eof, parsed, rfl⟩ := exists_ok_of_toOption h
      exact .preparedColumnsEnd parsed
    | ended => cases h

/-- Packets are checked one by one. -/
theorem completes_of_next {deprecateEof : Bool} {point : Point} {packets : List ByteArray}
    (h : packets.foldlM (next? deprecateEof) point = some .ended) :
    Completes deprecateEof point packets := by
  induction packets generalizing point with
  | nil =>
    cases h
    exact .ended
  | cons packet packets ih =>
    obtain ⟨next, first, rest⟩ := Option.bind_eq_some_iff.mp h
    exact .packet (follows_of_next first) (ih rest)

/-! ## First bytes -/

theorem getElem?_zero (packet : ByteArray) : packet[0]? = (ofWire packet).head? := by
  rw [List.head?_eq_getElem?]
  obtain ⟨⟨bytes⟩⟩ := packet
  cases bytes <;> rfl

variable {packet : Bytes}

theorem head?_of_columnCount {count : Nat} (h : columnCount packet = .ok (count + 1)) :
    packet.head? ≠ some Lead.err ∧ packet.head? ≠ some Lead.ok ∧
      packet.head? ≠ some Lead.localFile := by
  cases packet with
  | nil => cases h
  | cons lead data =>
    refine ⟨?_, ?_, ?_⟩ <;> rintro ⟨⟩ <;> cases h

theorem head?_of_column {column : Column} (h : Column.parse packet = .ok column) :
    packet.head? ≠ some Lead.err := by
  cases packet with
  | nil => cases h
  | cons lead data =>
    rintro ⟨⟩
    cases h

theorem head?_of_eof {eof : EofPacket} (h : EofPacket.parse packet = .ok eof) :
    packet.head? ≠ some Lead.err := by
  cases packet with
  | nil => cases h
  | cons lead data =>
    rintro ⟨⟩
    cases h

theorem head?_of_prepareOk {ok : PrepareOk} (h : PrepareOk.parse packet = .ok ok) :
    packet.head? = some Lead.ok := by
  cases packet with
  | nil => cases h
  | cons lead data =>
    by_cases first : lead = Lead.ok
    · rw [first, List.head?_cons]
    · have refused : PrepareOk.parse (lead :: data) = .error (.unexpectedLead .prepareOk lead) := by
        simp [PrepareOk.parse, Field.readU8, bind, Except.bind, throw, throwThe, MonadExceptOf.throw, first]
      cases refused.symm.trans h

end Answer

namespace Reader

open Answer (Point Follows)
open Session (Context)

/-- A prepared statement with so many columns was announced. -/
def Announced (r : Reader) (columns : Nat) : Prop :=
  ∃ pending, r.pending = some pending ∧ pending.columnCount = columns

/-- The reader is where the response stands. -/
def Expects (r : Reader) : Point → Prop
  | .result => r.stage = .start ∧ r.kind ≠ .prepare
  | .columns more => r.stage = .columns (more + 1) ∧ r.kind ≠ .prepare
  | .columnsEnd => r.stage = .columnsEnd ∧ r.kind ≠ .prepare
  | .rows => r.stage = .rows ∧ r.kind ≠ .prepare ∧ r.current.isSome
  | .prepared => r.stage = .start ∧ r.kind = .prepare
  | .params more columns => r.stage = .params (more + 1) ∧ r.Announced columns
  | .paramsEnd columns => r.stage = .paramsEnd ∧ r.Announced columns
  | .preparedColumns more => r.stage = .preparedColumns (more + 1) ∧ r.pending.isSome
  | .preparedColumnsEnd => r.stage = .preparedColumnsEnd ∧ r.pending.isSome
  | .ended => r.stage = .done ∧ (r.kind = .prepare → r.error.isNone → r.pending.isSome)

variable {r : Reader} {ctx : Context} {point next : Point} {packet : ByteArray}

theorem expects_new (command : Command) (deprecateEof : Bool) (options : StatementOptions) :
    (new command deprecateEof options).Expects (.first command.responseKind) := by
  unfold new
  cases kind : command.responseKind with
  | none => exact ⟨rfl, fun prepare => nomatch prepare⟩
  | text | binary => exact ⟨rfl, fun prepare => nomatch prepare⟩
  | prepare => exact ⟨rfl, rfl⟩

/-- Whether rows are kept does not matter. -/
theorem Expects.discard (expects : r.Expects point) : r.discard.Expects point := by
  cases point with
  | rows =>
    obtain ⟨stage, kind, some⟩ := expects
    exact ⟨stage, kind, Option.isSome_map.trans some⟩
  | _ => exact expects

theorem isDone_iff (expects : r.Expects point) : r.isDone = true ↔ point = .ended := by
  have stage := expects
  cases point <;> simp only [Expects] at stage <;> simp [isDone, stage]

/-- A step goes well: another point is expected, and nothing else than a packet is wanted there. -/
structure Moved (r : Reader) (next : Point) (wanted : ReadStep) (r' : Reader) : Prop where
  expects : r'.Expects next
  deprecateEof : r'.deprecateEof = r.deprecateEof
  noFile : ∀ name, wanted ≠ .localFile name
  suspended : wanted = .suspended → next = .rows

/-- The result of a step that goes well. -/
def Moves (r : Reader) (next : Point) (result : Result) : Prop :=
  ∃ wanted r' ctx', result = .ok wanted (r', ctx') ∧ Moved r next wanted r'

variable {r' : Reader} {ctx' : Context}

theorem moves_progress (expects : r'.Expects next) (deprecateEof : r'.deprecateEof = r.deprecateEof) :
    Moves r next (.ok r'.progress (r', ctx')) := by
  refine ⟨_, _, _, rfl, expects, deprecateEof, fun name => ?_, ?_⟩ <;>
    unfold progress <;> split <;> nofun

theorem moves_needPacket (expects : r'.Expects next)
    (deprecateEof : r'.deprecateEof = r.deprecateEof) : Moves r next (.ok .needPacket (r', ctx')) :=
  ⟨_, _, _, rfl, expects, deprecateEof, nofun, nofun⟩

theorem step_of_lead (lead : packet[0]? ≠ some Lead.err) :
    step packet (r, ctx) = r.accept packet ctx := by
  unfold step
  exact if_neg (by simp [lead])

theorem step_of_error {e : ServerError} (going : r.isDone = false)
    (lead : packet[0]? = some Lead.err) (parsed : ServerError.parse (Bytes.ofWire packet) = .ok e) :
    step packet (r, ctx) = .ok .done (r.fail e, ctx.applyError) := by
  unfold step
  dsimp only
  rw [if_pos (by simp [lead, going]), parsed]

theorem expects_afterCompletion (kind : r.kind ≠ .prepare) (status : Status) :
    (r.afterCompletion status.moreResults).Expects (.afterResult status) := by
  unfold afterCompletion Point.afterResult
  split
  · exact ⟨rfl, kind⟩
  · exact ⟨rfl, fun prepare => absurd prepare kind⟩

/-- What is expected behind the parameters of a statement. -/
theorem expects_afterParams {columns : Nat} (announced : r.Announced columns) :
    ({ r with stage := r.afterParams } : Reader).Expects (.beforeColumns columns) := by
  obtain ⟨pending, held, count⟩ := announced
  have some : r.pending.isSome := held ▸ rfl
  cases columns with
  | zero => exact ⟨by simp [afterParams, held, count], fun _ _ => some⟩
  | succ more => exact ⟨by simp [afterParams, held, count], some⟩

theorem moves_firstOfResult_ok {ok : OkPacket} (kind : r.kind ≠ .prepare)
    (lead : packet[0]? = some Lead.ok) (parsed : OkPacket.parse (Bytes.ofWire packet) = .ok ok) :
    Moves r (.afterResult ok.status) (r.firstOfResult (Bytes.ofWire packet) ctx) := by
  rw [Answer.getElem?_zero] at lead
  obtain ⟨rest, eq⟩ := List.head?_eq_some_iff.mp lead
  rw [eq] at parsed ⊢
  unfold firstOfResult
  dsimp only
  rw [if_pos (by rfl), parsed]
  refine moves_progress (expects_afterCompletion ?_ _) rfl
  exact kind

theorem moves_firstOfResult_count {more : Nat} (kind : r.kind ≠ .prepare)
    (parsed : columnCount (Bytes.ofWire packet) = .ok (more + 1)) :
    Moves r (.columns more) (r.firstOfResult (Bytes.ofWire packet) ctx) := by
  obtain ⟨_, notOk, notFile⟩ := Answer.head?_of_columnCount parsed
  unfold firstOfResult
  split
  · next none => rw [none] at parsed; cases parsed
  · next lead rest eq =>
    rw [eq, List.head?_cons, ne_eq, Option.some_inj] at notOk notFile
    rw [if_neg (by simp [notOk]), if_neg (by simp [notFile]), parsed]
    exact moves_needPacket ⟨rfl, kind⟩ rfl

theorem moves_column {more : Nat} {column : Column} (kind : r.kind ≠ .prepare)
    (parsed : Column.parse (Bytes.ofWire packet) = .ok column) :
    Moves r (.afterColumn r.deprecateEof more) (r.column (Bytes.ofWire packet) ctx (more + 1)) := by
  unfold Reader.column
  rw [parsed]
  dsimp only
  cases more with
  | zero =>
    rw [if_neg (Nat.lt_irrefl 1), Point.afterColumn]
    by_cases eof : r.deprecateEof = true
    · rw [if_pos eof, if_pos eof]
      exact moves_needPacket ⟨rfl, kind, rfl⟩ rfl
    · rw [if_neg eof, if_neg eof]
      exact moves_needPacket ⟨rfl, kind⟩ rfl
  | succ more =>
    rw [if_pos (by omega)]
    exact moves_needPacket ⟨rfl, kind⟩ rfl

theorem moves_definitionsEnd {eof : EofPacket} {r' : Reader}
    (parsed : EofPacket.parse (Bytes.ofWire packet) = .ok eof) (expects : r'.Expects next)
    (deprecateEof : r'.deprecateEof = r.deprecateEof) :
    Moves r next (r.definitionsEnd (Bytes.ofWire packet) ctx r') := by
  unfold definitionsEnd
  rw [parsed]
  exact moves_progress expects deprecateEof

/-- A definition is filed in the statement, of which nothing else is asked. -/
theorem moves_definition {column : Column} {add : Column → Pending → Pending}
    {behind : Reader → Stage} (parsed : Column.parse (Bytes.ofWire packet) = .ok column)
    (some : r.pending.isSome)
    (expects : ∀ pending, r.pending = .some pending →
      let r' := { r with pending := .some (add column pending) }
      ({ r' with stage := behind r' } : Reader).Expects next) :
    Moves r next (r.definition (Bytes.ofWire packet) ctx add behind) := by
  obtain ⟨pending, held⟩ := Option.isSome_iff_exists.mp some
  unfold definition
  rw [held, parsed]
  exact moves_progress (expects pending held) rfl

theorem moves_row (kind : r.kind ≠ .prepare) (stage : r.stage = .rows) (some : r.current.isSome)
    (more : isResultEnd packet[0]? packet.size r.deprecateEof = false) :
    Moves r .rows (r.row packet ctx) := by
  have kept (set : ResultSet) : Moves r .rows
      (let r := { r with rowsSeen := r.rowsSeen + 1, current := .some set }
       if 0 < r.fetchSize && r.fetchSize ≤ set.rows.size then
         .ok .suspended ({ r with suspendedOnce := true }, ctx)
       else .ok .needPacket (r, ctx)) := by
    dsimp only
    split
    · exact ⟨_, _, _, rfl, ⟨stage, kind, rfl⟩, rfl, nofun, fun _ => rfl⟩
    · exact moves_needPacket ⟨stage, kind, rfl⟩ rfl
  obtain ⟨set, held⟩ := Option.isSome_iff_exists.mp some
  unfold row
  rw [more, if_neg Bool.false_ne_true]
  dsimp only
  rw [held]
  exact kept _

theorem moves_lastRow {status : Status} {warnings : UInt16} (kind : r.kind ≠ .prepare)
    (last : isResultEnd packet[0]? packet.size r.deprecateEof = true)
    (parsed : r.resultEnd (Bytes.ofWire packet) = .ok (status, warnings)) :
    Moves r (.afterResult status) (r.row packet ctx) := by
  unfold row
  rw [if_pos last, parsed]
  unfold endRows
  refine moves_progress (expects_afterCompletion ?_ _) rfl
  exact kind

theorem moves_firstOfPrepare {ok : PrepareOk}
    (parsed : PrepareOk.parse (Bytes.ofWire packet) = .ok ok) :
    Moves r (.beforeParams ok.columns.toNat ok.params.toNat)
      (r.firstOfPrepare (Bytes.ofWire packet) ctx) := by
  unfold firstOfPrepare
  rw [if_pos (by simp [Answer.head?_of_prepareOk parsed]), parsed]
  dsimp only
  refine moves_progress ?_ rfl
  by_cases none : ok.params = 0
  · rw [if_pos (by simp [none]), none]
    exact expects_afterParams (r := { r with
      pending := some ⟨ok.statementId, ok.columns.toNat, #[], #[]⟩ }) ⟨_, rfl, rfl⟩
  · have some : ok.params.toNat ≠ 0 := fun zero => none (UInt16.toNat_inj.mp zero)
    obtain ⟨more, eq⟩ := Nat.exists_eq_succ_of_ne_zero some
    rw [if_neg (by simp [none]), eq]
    exact ⟨rfl, _, rfl, rfl⟩

/-- A reader takes what follows in a well-formed response. -/
theorem step_of_follows (expects : r.Expects point) (follows : Follows r.deprecateEof point packet next) :
    Moves r next (step packet (r, ctx)) := by
  cases follows with
  | error more lead parsed =>
    have going : r.isDone = false := by
      rw [← Bool.not_eq_true, isDone_iff expects]
      exact more
    rw [step_of_error going lead parsed]
    exact ⟨_, _, _, rfl, ⟨rfl, fun _ none => nomatch none⟩, rfl, nofun, nofun⟩
  | ok lead parsed =>
    obtain ⟨stage, kind⟩ := expects
    rw [step_of_lead (by simp [lead, Lead.ok, Lead.err]), accept, stage]
    dsimp only
    rw [if_neg (by simpa using kind)]
    exact moves_firstOfResult_ok kind lead parsed
  | columnCount parsed =>
    obtain ⟨stage, kind⟩ := expects
    rw [step_of_lead (Answer.getElem?_zero _ ▸ (Answer.head?_of_columnCount parsed).1), accept, stage]
    dsimp only
    rw [if_neg (by simpa using kind)]
    exact moves_firstOfResult_count kind parsed
  | column parsed =>
    obtain ⟨stage, kind⟩ := expects
    rw [step_of_lead (Answer.getElem?_zero _ ▸ Answer.head?_of_column parsed), accept, stage]
    exact moves_column kind parsed
  | columnsEnd parsed =>
    obtain ⟨stage, kind⟩ := expects
    rw [step_of_lead (Answer.getElem?_zero _ ▸ Answer.head?_of_eof parsed), accept, stage]
    exact moves_definitionsEnd parsed ⟨rfl, kind, rfl⟩ rfl
  | row lead more =>
    obtain ⟨stage, kind, some⟩ := expects
    rw [step_of_lead lead, accept, stage]
    exact moves_row kind stage some more
  | @endOk _ ok eof last parsed =>
    obtain ⟨stage, kind, -⟩ := expects
    have lead : packet[0]? = some Lead.eof := by simp_all [isResultEnd]
    have ended : r.resultEnd (Bytes.ofWire packet) = .ok (ok.status, ok.warnings) := by
      rw [resultEnd, if_pos eof, parsed]
      rfl
    rw [step_of_lead (by simp [lead, Lead.eof, Lead.err]), accept, stage]
    exact moves_lastRow kind last ended
  | @endEof _ ended eof last parsed =>
    obtain ⟨stage, kind, -⟩ := expects
    have ended : r.resultEnd (Bytes.ofWire packet) = .ok (ended.status, ended.warnings) := by
      rw [resultEnd, if_neg (by simp [eof]), parsed]
      rfl
    rw [step_of_lead (Answer.getElem?_zero _ ▸ Answer.head?_of_eof parsed), accept, stage]
    exact moves_lastRow kind last ended
  | prepared parsed =>
    obtain ⟨stage, kind⟩ := expects
    have lead : packet[0]? = some Lead.ok :=
      (Answer.getElem?_zero _).trans (Answer.head?_of_prepareOk parsed)
    rw [step_of_lead (by simp [lead, Lead.ok, Lead.err]), accept, stage]
    dsimp only
    rw [if_pos (by simpa using kind)]
    exact moves_firstOfPrepare parsed
  | @param _ more columns _ parsed =>
    obtain ⟨stage, pending, held, count⟩ := expects
    rw [step_of_lead (Answer.getElem?_zero _ ▸ Answer.head?_of_column parsed), accept, stage]
    refine moves_definition parsed (held ▸ rfl) fun pending' held' => ?_
    obtain rfl := Option.some_inj.mp (held.symm.trans held')
    cases more with
    | zero =>
      by_cases eof : r.deprecateEof = true
      · simp only [eof]
        exact expects_afterParams ⟨_, rfl, count⟩
      · simp only [eof]
        exact ⟨rfl, _, rfl, count⟩
    | succ more => exact ⟨by simp, _, rfl, count⟩
  | paramsEnd parsed =>
    obtain ⟨stage, announced⟩ := expects
    rw [step_of_lead (Answer.getElem?_zero _ ▸ Answer.head?_of_eof parsed), accept, stage]
    exact moves_definitionsEnd parsed (expects_afterParams announced) rfl
  | @preparedColumn _ more _ parsed =>
    obtain ⟨stage, some⟩ := expects
    rw [step_of_lead (Answer.getElem?_zero _ ▸ Answer.head?_of_column parsed), accept, stage]
    refine moves_definition parsed some fun pending' held' => ?_
    cases more with
    | zero =>
      by_cases eof : r.deprecateEof = true
      · simp only [eof]
        exact ⟨rfl, fun _ _ => rfl⟩
      · simp only [eof]
        exact ⟨rfl, rfl⟩
    | succ more => exact ⟨by simp, rfl⟩
  | preparedColumnsEnd parsed =>
    obtain ⟨stage, some⟩ := expects
    rw [step_of_lead (Answer.getElem?_zero _ ▸ Answer.head?_of_eof parsed), accept, stage]
    exact moves_definitionsEnd parsed ⟨rfl, fun _ _ => some⟩ rfl

/-- Where the response is over, the reader has a result. -/
theorem exists_finish (expects : r.Expects .ended) : ∃ result, r.finish = .ok result := by
  obtain ⟨stage, prepared⟩ := expects
  unfold finish
  cases error : r.error with
  | some e => exact ⟨_, rfl⟩
  | none =>
    have done : r.isDone = true := by rw [isDone, stage]; rfl
    rw [done]
    cases kind : r.kind with
    | none | text | binary => exact ⟨_, rfl⟩
    | prepare =>
      obtain ⟨pending, held⟩ := Option.isSome_iff_exists.mp (prepared kind (by rw [error]; rfl))
      rw [held]
      exact ⟨_, rfl⟩

/-- The response to a prepare gives nothing but a statement. -/
theorem exists_statement_of_finish {response : Response} (kind : r.kind = .prepare)
    (finished : r.finish = .ok (.ok response)) : ∃ statement, response = .prepared statement := by
  unfold finish at finished
  rw [kind] at finished
  split at finished
  · cases finished
  · split at finished
    · cases finished
    · dsimp only at finished
      split at finished
      · cases finished
      · cases finished
        exact ⟨_, rfl⟩

end Reader

end SqlWire
