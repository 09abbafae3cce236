import SqlWire.Proofs.Response.Encoding
import SqlWire.Proofs.Response.Retold

/-!
# Results, as a server sends them

A server answers a command with one result after the other: an OK packet, or the columns and rows of a
result set. A reader that is given the packets asks for another one after each but the last, and
completes with these results (`mapM_step_of_sent`). It goes through a result set phase by phase: the
column definitions (`takes_definitions`), the rows (`takes_rows`) and what ends them.
-/

namespace SqlWire

open SqlWire.Field

/-- A result as a server sends it. -/
inductive SentResult where
  /-- An OK packet with the field of its info. -/
  | ok (packet : OkPacket) (info : Bytes)
  /-- A result set: where definitions and rows end with EOF packets, `columnsEnd` and the status and
  warnings of `last`, and else `last` as an OK packet with the field of its info. -/
  | rows (columns : List Column.Sent) (columnsEnd : EofPacket) (rows : List Bytes) (last : OkPacket)
      (info : Bytes)

namespace SentResult

/-- What the result reports at its end. -/
def report : SentResult → OkPacket
  | ok packet _ | rows _ _ _ packet _ => packet

def lastPacket (deprecateEof : Bool) : SentResult → Bytes
  | ok packet info => packet.bytes Lead.ok info
  | rows _ _ _ last info =>
    if deprecateEof then last.bytes Lead.eof info else EofPacket.bytes ⟨last.warnings, last.status⟩

/-- The definitions of columns and what ends them. -/
def definitions (deprecateEof : Bool) (columns : List Column.Sent) (columnsEnd : EofPacket) : List Bytes :=
  columns.map Column.Sent.bytes ++ if deprecateEof then [] else [columnsEnd.bytes]

/-- The packets before the last one. -/
def before (deprecateEof : Bool) : SentResult → List Bytes
  | ok _ _ => []
  | rows columns columnsEnd content _ _ =>
    lenEnc (UInt64.ofNat columns.length) :: (definitions deprecateEof columns columnsEnd ++ content)

def packets (deprecateEof : Bool) (result : SentResult) : List Bytes :=
  result.before deprecateEof ++ [result.lastPacket deprecateEof]

/-- What the result is for the client. -/
def completion (binary : Bool) : SentResult → Completion
  | ok packet _ => .ok packet
  | rows columns _ content _ _ =>
    .rows ⟨(columns.map Column.Sent.column).toArray,
      (content.map fun row => ⟨row.toWire, binary⟩).toArray, false⟩

/-- The result can be sent in the response to a command of this kind. -/
inductive Sendable (kind : ResponseKind) (deprecateEof : Bool) : SentResult → Prop where
  | ok {packet : OkPacket} {info : Bytes} (field : OkPacket.InfoField packet.info info) :
      Sendable kind deprecateEof (.ok packet info)
  | rows {columns : List Column.Sent} {columnsEnd : EofPacket} {rows : List Bytes} {last : OkPacket}
      {info : Bytes} (some : columns ≠ []) (few : columns.length ≤ 65535)
      (fits : ∀ column ∈ columns, column.Fits) (sent : ∀ row ∈ rows, Row.Sent kind row)
      (short : deprecateEof = true → (last.bytes Lead.eof info).length < maxPayload) :
      Sendable kind deprecateEof (.rows columns columnsEnd rows last info)

end SentResult

/-- The session behind results with these warnings, the last of them with this status. -/
def Session.Context.reported (ctx : Session.Context) (status : Status) (warnings : Nat) : Session.Context :=
  { ctx with status, warnings := ctx.warnings + UInt32.ofNat warnings }

theorem Session.Context.reported_zero (ctx : Session.Context) : ctx.reported ctx.status 0 = ctx := by
  have same : ctx.warnings + UInt32.ofNat 0 = ctx.warnings := UInt32.add_zero _
  rw [reported, same]

theorem Session.Context.reported_reported (ctx : Session.Context) (status status' : Status)
    (warnings more : Nat) :
    (ctx.reported status warnings).reported status' more = ctx.reported status' (warnings + more) := by
  dsimp only [reported]
  rw [UInt32.add_assoc, UInt32.ofNat_add]

theorem Session.Context.applyStatus_eq (ctx : Session.Context) (status : Status) (warnings : UInt16) :
    ctx.applyStatus status warnings = ctx.reported status warnings.toNat := by
  have counted : warnings.toUInt32 = UInt32.ofNat warnings.toNat := by
    apply UInt32.toNat_inj.mp
    rw [UInt16.toNat_toUInt32, UInt32.toNat_ofNat_of_lt' (Nat.lt_trans warnings.toNat_lt (by decide))]
  dsimp only [applyStatus, addWarnings, reported]
  rw [counted]

namespace Reader

open Session (Context)

variable {r : Reader} {ctx : Context}

/-- Another packet is wanted after each of these. -/
def Takes (s : Reader × Context) (packets : List Bytes) (s' : Reader × Context) : Prop :=
  (packets.map Bytes.toWire).mapM step s = .ok (List.replicate packets.length .needPacket) s'

namespace Takes

variable {s s' s'' : Reader × Context} {packet : Bytes} {packets more : List Bytes}

theorem nil : Takes s [] s := rfl

theorem cons (taken : step packet.toWire s = .ok .needPacket s') (rest : Takes s' packets s'') :
    Takes s (packet :: packets) s'' := by
  unfold Takes
  rw [List.map_cons, List.mapM_cons, EStateM.bind_of_ok taken, EStateM.bind_of_ok rest]
  rfl

theorem single (taken : step packet.toWire s = .ok .needPacket s') : Takes s [packet] s' :=
  .cons taken .nil

/-- Packets are followed by others, after which something else may be wanted. -/
theorem mapM_append {answers : List ReadStep} (taken : Takes s packets s')
    (rest : (more.map Bytes.toWire).mapM step s' = .ok answers s'') :
    ((packets ++ more).map Bytes.toWire).mapM step s =
      .ok (List.replicate packets.length .needPacket ++ answers) s'' := by
  rw [List.map_append, List.mapM_append, EStateM.bind_of_ok taken, EStateM.bind_of_ok rest]
  rfl

theorem append (taken : Takes s packets s') (rest : Takes s' more s'') : Takes s (packets ++ more) s'' := by
  unfold Takes
  rw [taken.mapM_append rest, List.length_append, List.replicate_append_replicate]

end Takes

theorem getElem?_toWire (packet : Bytes) : packet.toWire[0]? = packet.head? := by
  rw [Answer.getElem?_zero, Bytes.ofWire_toWire]

/-! ## Phases of a result set -/

theorem step_of_columnCount {count : Nat} (stage : r.stage = .start) (results : r.kind ≠ .prepare)
    (some : 0 < count) (few : count ≤ 65535) :
    step (lenEnc (UInt64.ofNat count)).toWire (r, ctx) =
      .ok .needPacket ({ r with columns := #[], stage := .columns count }, ctx) := by
  obtain ⟨more, rfl⟩ := Nat.exists_eq_succ_of_ne_zero (Nat.ne_of_gt some)
  have parsed := columnCount_lenEnc few
  obtain ⟨notErr, notOk, notFile⟩ := Answer.head?_of_columnCount parsed
  rw [step_of_lead (getElem?_toWire _ ▸ notErr), accept, stage, Bytes.ofWire_toWire]
  dsimp only
  rw [if_neg (by simpa using results)]
  unfold firstOfResult
  split
  · next none => rw [none] at parsed; cases parsed
  · next lead rest eq =>
    rw [eq, List.head?_cons, ne_eq, Option.some_inj] at notOk notFile
    rw [if_neg (by simp [notOk]), if_neg (by simp [notFile]), parsed]
    rfl

/-- The reader behind the definitions of columns. -/
def define (r : Reader) (columns : Array Column) : Reader :=
  let r := { r with columns := r.columns ++ columns }
  if r.deprecateEof then r.beginRows else { r with stage := .columnsEnd }

theorem step_of_column {column : Column.Sent} {remaining : Nat} (fits : column.Fits)
    (stage : r.stage = .columns remaining) :
    step column.bytes.toWire (r, ctx) = .ok .needPacket
      (if 1 < remaining then
        { r with columns := r.columns.push column.column, stage := .columns (remaining - 1) }
      else r.define #[column.column], ctx) := by
  have parsed := Column.Sent.parse_bytes fits
  rw [step_of_lead (getElem?_toWire _ ▸ Answer.head?_of_column parsed), accept, stage,
    Bytes.ofWire_toWire]
  dsimp only [Reader.column]
  rw [parsed]
  dsimp only
  split
  · rfl
  · rfl

theorem takes_columns (ctx : Context) {columns : List Column.Sent} (some : columns ≠ [])
    (fits : ∀ column ∈ columns, column.Fits) (stage : r.stage = .columns columns.length) :
    Takes (r, ctx) (columns.map Column.Sent.bytes)
      (r.define (columns.map Column.Sent.column).toArray, ctx) := by
  induction columns generalizing r with
  | nil => exact absurd rfl some
  | cons column columns ih =>
    obtain ⟨first, others⟩ := List.forall_mem_cons.mp fits
    have taken : step _ (r, ctx) = _ := step_of_column first stage
    cases columns with
    | nil =>
      rw [if_neg (by simp)] at taken
      exact .single taken
    | cons next columns =>
      rw [if_pos (by simp)] at taken
      have rest := ih (r := { r with
        columns := r.columns.push column.column
        stage := .columns (column :: next :: columns).length.pred }) nofun others rfl
      have together : r.columns.push column.column ++
          ((next :: columns).map Column.Sent.column).toArray =
          r.columns ++ ((column :: next :: columns).map Column.Sent.column).toArray := by
        simp
      unfold define at rest ⊢
      rw [← together]
      exact .cons taken rest

theorem step_of_columnsEnd (eof : EofPacket) (stage : r.stage = .columnsEnd) :
    step eof.bytes.toWire (r, ctx) = .ok .needPacket (r.beginRows, ctx) := by
  have parsed := EofPacket.parse_bytes eof
  rw [step_of_lead (getElem?_toWire _ ▸ Answer.head?_of_eof parsed), accept, stage, Bytes.ofWire_toWire]
  dsimp only [definitionsEnd]
  rw [parsed]
  rfl

/-- The definitions of all columns are taken, and what ends them. -/
theorem takes_definitions (ctx : Context) {columns : List Column.Sent} (columnsEnd : EofPacket)
    (some : columns ≠ []) (fits : ∀ column ∈ columns, column.Fits)
    (stage : r.stage = .columns columns.length) (none : r.columns = #[]) :
    Takes (r, ctx) (SentResult.definitions r.deprecateEof columns columnsEnd)
      ({ r with columns := (columns.map Column.Sent.column).toArray }.beginRows, ctx) := by
  have defined := takes_columns ctx some fits stage
  unfold SentResult.definitions
  unfold define at defined
  rw [none, Array.empty_append] at defined
  cases eof : r.deprecateEof with
  | true =>
    dsimp only at defined
    rw [eof, if_pos rfl] at defined
    rw [if_pos rfl, List.append_nil]
    exact defined
  | false =>
    dsimp only at defined
    rw [eof, if_neg Bool.false_ne_true] at defined
    rw [if_neg Bool.false_ne_true]
    exact defined.append (.single (step_of_columnsEnd columnsEnd rfl))

theorem takes_rows (ctx : Context) {set : ResultSet} {rows : List Bytes}
    (sent : ∀ row ∈ rows, Row.Sent r.kind row) (stage : r.stage = .rows) (whole : r.fetchSize = 0)
    (all : r.maxRows = 0) (keeping : r.discarding = false) (current : r.current = some set) :
    ∃ seen, Takes (r, ctx) rows ({ r with
      rowsSeen := seen
      current := some { set with
        rows := set.rows ++ (rows.map fun row => ⟨row.toWire, r.kind == .binary⟩).toArray } }, ctx) := by
  induction rows generalizing r set with
  | nil =>
    refine ⟨r.rowsSeen, ?_⟩
    rw [List.map_nil, Array.append_empty, ← current]
    exact .nil
  | cons row rows ih =>
    obtain ⟨first, others⟩ := List.forall_mem_cons.mp sent
    have between : isResultEnd row.toWire[0]? row.toWire.size r.deprecateEof = false := by
      rw [getElem?_toWire, Bytes.size_toWire]
      exact first.not_isResultEnd _
    have taken : step _ (r, ctx) = _ :=
      step_of_row stage (getElem?_toWire _ ▸ first.head?_ne_err) between current
    rw [isFull_zero whole, if_neg Bool.false_ne_true] at taken
    have keeps : r.keepsNext = true := by simp [keepsNext, keeping, all]
    obtain ⟨seen, rest⟩ := ih (r := r.withRow (r.extend row.toWire set)) others stage whole all keeping rfl
    refine ⟨seen, ?_⟩
    have together (rows : Array Row) : set.rows ++ (#[⟨row.toWire, r.kind == .binary⟩] ++ rows) =
        (r.extend row.toWire set).rows ++ rows := by
      rw [extend, keeps, if_pos rfl, Array.push_eq_append, Array.append_assoc]
    have split (rows : List Row) (row : Row) : (row :: rows).toArray = #[row] ++ rows.toArray := by
      simp
    rw [List.map_cons, split, together]
    have after := Takes.cons taken rest
    unfold withRow at after
    rw [isFull_zero whole, Bool.or_false] at after
    exact after

/-! ## Results -/

/-- A reader of results that keeps all rows, with these results so far. -/
structure Gathers (kind : ResponseKind) (deprecateEof : Bool) (completions : Array Completion)
    (r : Reader) : Prop where
  kind : r.kind = kind
  deprecateEof : r.deprecateEof = deprecateEof
  whole : r.fetchSize = 0
  all : r.maxRows = 0
  keeping : r.discarding = false
  accepted : r.error = none
  completions : r.completions = completions

theorem mapM_step_single {packet : Bytes} {wanted : ReadStep} {s s' : Reader × Context}
    (taken : step packet.toWire s = .ok wanted s') :
    ([packet].map Bytes.toWire).mapM step s = .ok [wanted] s' := by
  rw [List.map_singleton, List.mapM_cons, EStateM.bind_of_ok taken]
  rfl

theorem step_of_ok {packet : OkPacket} {info : Bytes} (field : OkPacket.InfoField packet.info info)
    (stage : r.stage = .start) (results : r.kind ≠ .prepare) :
    step (packet.bytes Lead.ok info).toWire (r, ctx) =
      let r' := { r with completions := r.completions.push (.ok packet) }.afterCompletion
        packet.status.moreResults
      .ok r'.progress (r', ctx.reported packet.status packet.warnings.toNat) := by
  have parsed := OkPacket.parse_bytes (.inl rfl) packet info
  rw [field.readInfo_eq] at parsed
  rw [step_of_lead (by rw [getElem?_toWire]; nofun), accept, stage, Bytes.ofWire_toWire]
  dsimp only
  rw [if_neg (by simpa using results)]
  unfold firstOfResult OkPacket.bytes at *
  dsimp only
  rw [if_pos (by rfl), parsed, ← Context.applyStatus_eq]
  rfl

theorem step_of_lastPacket (last : OkPacket) (info : Bytes)
    (short : r.deprecateEof = true → (last.bytes Lead.eof info).length < maxPayload)
    (stage : r.stage = .rows) :
    step (if r.deprecateEof then last.bytes Lead.eof info
        else EofPacket.bytes ⟨last.warnings, last.status⟩).toWire (r, ctx) =
      let r' := r.endRows last.status.moreResults
      .ok r'.progress (r', ctx.reported last.status last.warnings.toNat) := by
  rw [← Context.applyStatus_eq]
  cases eof : r.deprecateEof with
  | true =>
    rw [if_pos rfl]
    refine step_of_resultEnd stage (by rw [getElem?_toWire]; exact fun same => by cases same) ?_ ?_
    · rw [getElem?_toWire, Bytes.size_toWire, isResultEnd, eof]
      exact decide_eq_true (short eof)
    · rw [resultEnd, eof, if_pos rfl, Bytes.ofWire_toWire, OkPacket.parse_bytes (.inr rfl)]
      rfl
  | false =>
    rw [if_neg Bool.false_ne_true]
    refine step_of_resultEnd stage (by rw [getElem?_toWire]; exact fun same => by cases same) ?_ ?_
    · rw [getElem?_toWire, Bytes.size_toWire, isResultEnd, eof]
      rfl
    · rw [resultEnd, eof, if_neg Bool.false_ne_true, Bytes.ofWire_toWire, EofPacket.parse_bytes]
      rfl

variable {kind : ResponseKind} {deprecateEof : Bool} {completions : Array Completion}

/-- Where a response goes on behind a result. -/
def Stage.behind (result : SentResult) : Stage :=
  if result.report.status.moreResults then .start else .done

/-- A result is taken: another packet is wanted before its last one. -/
theorem mapM_step_of_result (ctx : Context) {result : SentResult}
    (gathers : r.Gathers kind deprecateEof completions) (results : kind ≠ .prepare)
    (stage : r.stage = .start) (sendable : result.Sendable kind deprecateEof) :
    ∃ r', ((result.packets deprecateEof).map Bytes.toWire).mapM step (r, ctx) =
        .ok (List.replicate (result.before deprecateEof).length .needPacket ++ [r'.progress])
          (r', ctx.reported result.report.status result.report.warnings.toNat) ∧
      r'.Gathers kind deprecateEof (completions.push (result.completion (kind == .binary))) ∧
      r'.stage = .behind result := by
  obtain ⟨rfl, rfl, whole, all, keeping, accepted, rfl⟩ := gathers
  cases sendable with
  | ok field =>
    exact ⟨_, mapM_step_single (step_of_ok field stage results),
      ⟨rfl, rfl, whole, all, keeping, accepted, rfl⟩, rfl⟩
  | @rows columns columnsEnd content last info some few fits sent short =>
    have counted : step _ (r, ctx) = _ :=
      step_of_columnCount stage results (List.length_pos_iff.mpr some) few
    have defined := takes_definitions ctx
      (r := { r with columns := #[], stage := .columns columns.length }) columnsEnd some fits rfl rfl
    obtain ⟨seen, listed⟩ := takes_rows ctx
      (r := { r with columns := (columns.map Column.Sent.column).toArray }.beginRows) sent rfl
      whole all keeping rfl
    rw [Array.empty_append] at listed
    have taken := (Takes.cons counted (defined.append listed)).mapM_append
      (mapM_step_single (step_of_lastPacket last info short rfl))
    refine ⟨_, taken, ⟨rfl, rfl, fetchSize_endRows _ whole, all, keeping, accepted, ?_⟩, rfl⟩
    unfold endRows
    rw [keeping]
    rfl

/-- The warnings that these results report. -/
def warningsOf : List SentResult → Nat
  | [] => 0
  | result :: results => result.report.warnings.toNat + warningsOf results

theorem warningsOf_concat (results : List SentResult) (last : SentResult) :
    warningsOf (results ++ [last]) = warningsOf results + last.report.warnings.toNat := by
  induction results with
  | nil => exact Nat.add_comm ..
  | cons result results ih => exact (congrArg _ ih).trans (Nat.add_assoc ..).symm

/-- Results that are followed by another one are taken one after the other. -/
theorem takes_results (ctx : Context) {results : List SentResult}
    (gathers : r.Gathers kind deprecateEof completions) (notPrepare : kind ≠ .prepare)
    (stage : r.stage = .start) (sendable : ∀ result ∈ results, result.Sendable kind deprecateEof)
    (chained : ∀ result ∈ results, result.report.status.moreResults = true) :
    ∃ r' status, Takes (r, ctx) (results.flatMap (·.packets deprecateEof))
        (r', ctx.reported status (warningsOf results)) ∧
      r'.Gathers kind deprecateEof
        (completions ++ (results.map (·.completion (kind == .binary))).toArray) ∧
      r'.stage = .start := by
  induction results generalizing r ctx completions with
  | nil =>
    refine ⟨r, ctx.status, ?_, ?_, stage⟩
    · have none : ctx.reported ctx.status (warningsOf []) = ctx := ctx.reported_zero
      rw [none]
      exact .nil
    · rw [List.map_nil, Array.append_empty]
      exact gathers
  | cons result results ih =>
    obtain ⟨first, others⟩ := List.forall_mem_cons.mp sendable
    obtain ⟨more, moreBehind⟩ := List.forall_mem_cons.mp chained
    obtain ⟨r₁, taken, gathers₁, stage₁⟩ := mapM_step_of_result ctx gathers notPrepare stage first
    rw [Stage.behind, if_pos more] at stage₁
    have wanted : r₁.progress = .needPacket := by simp [progress, isDone, stage₁]
    obtain ⟨r', status, rest, gathers', stage'⟩ :=
      ih (ctx.reported result.report.status result.report.warnings.toNat) gathers₁ stage₁ others
        moreBehind
    rw [Context.reported_reported] at rest
    refine ⟨r', status, ?_, ?_, stage'⟩
    · rw [List.flatMap_cons]
      refine .append ?_ rest
      rw [wanted] at taken
      unfold Takes
      rw [taken, SentResult.packets, List.length_append, ← List.replicate_append_replicate]
      rfl
    · rw [List.map_cons]
      simpa using gathers'

theorem finish_of_gathers (gathers : r.Gathers kind deprecateEof completions)
    (results : kind = .text ∨ kind = .binary) (done : r.isDone = true) :
    r.finish = .ok (.ok (.completions completions)) := by
  obtain ⟨rfl, -, -, -, -, accepted, rfl⟩ := gathers
  unfold finish
  rw [accepted, done]
  rcases results with text | binary
  · rw [text]; rfl
  · rw [binary]; rfl

/-- A response that a server sends is read as what it is: a reader wants another packet until it has the
last one, and completes with these results; the session takes over the last status and all warnings. -/
theorem mapM_step_of_sent {command : Command} {results : List SentResult} {last : SentResult}
    (ctx : Context) (kind : command.responseKind = .text ∨ command.responseKind = .binary)
    (sendable : ∀ result ∈ results ++ [last], result.Sendable command.responseKind deprecateEof)
    (chained : ∀ result ∈ results, result.report.status.moreResults = true)
    (ends : last.report.status.moreResults = false) :
    ∃ r, let packets := ((results ++ [last]).flatMap (·.packets deprecateEof)).map Bytes.toWire
      packets.mapM step (new command deprecateEof {}, ctx) =
        .ok (List.replicate (packets.length - 1) .needPacket ++ [.done])
          (r, ctx.reported last.report.status (warningsOf (results ++ [last]))) ∧
      r.finish = .ok (.ok (.completions
        ((results ++ [last]).map (·.completion (command.responseKind == .binary))).toArray)) := by
  have notPrepare : command.responseKind ≠ .prepare := by
    rcases kind with text | binary
    · exact text ▸ nofun
    · exact binary ▸ nofun
  have fresh : (new command deprecateEof {}).Gathers command.responseKind deprecateEof #[] :=
    ⟨rfl, rfl, rfl, rfl, rfl, rfl, rfl⟩
  have start : (new command deprecateEof {}).stage = .start := by
    have responds : (command.responseKind == .none) = false := by
      rcases kind with text | binary
      · rw [text]; rfl
      · rw [binary]; rfl
    rw [new, responds]
    rfl
  obtain ⟨others, own⟩ := List.forall_mem_append.mp sendable
  obtain ⟨r₁, status, taken, gathers₁, stage₁⟩ := takes_results ctx fresh notPrepare start others
    chained
  obtain ⟨r, takenLast, gathers, stage⟩ := mapM_step_of_result (ctx.reported status _) gathers₁
    notPrepare stage₁ (own last List.mem_cons_self)
  rw [Stage.behind, if_neg (Bool.eq_false_iff.mp ends)] at stage
  have done : r.isDone = true := by rw [isDone, stage]; rfl
  have wanted : r.progress = .done := if_pos done
  refine ⟨r, ?_, ?_⟩
  · have all := taken.mapM_append takenLast
    have length : (((results ++ [last]).flatMap (·.packets deprecateEof)).map Bytes.toWire).length - 1 =
        (results.flatMap (·.packets deprecateEof)).length + (last.before deprecateEof).length := by
      simp [SentResult.packets]
    rw [length, warningsOf_concat, ← List.replicate_append_replicate, List.append_assoc,
      List.flatMap_append, List.flatMap_singleton, all, wanted, Context.reported_reported]
  · rw [finish_of_gathers gathers kind done, Array.empty_append, List.map_append, List.map_singleton,
      List.push_toArray]

/-- A result set with a NULL and a text in its only column, and behind it an OK packet. -/
def procedureResults : List SentResult × SentResult :=
  ([.rows [⟨"def", ⟨"", "", "", "a", "a", 33, 1, 0xfd, 0, 0⟩, [0, 0]⟩] ⟨0, ⟨2⟩⟩
      [Row.textBytes [none], Row.textBytes [some [120]]] ⟨0, 0, ⟨10⟩, 1, ""⟩ []],
    .ok ⟨3, 0, ⟨2⟩, 2, "done"⟩ (lenEncText "done" ++ []))

theorem mapM_step_procedureResults :
    let ctx : Context := .new ⟨⟨0⟩, ⟨0⟩, 1, "", [], 0, false, ""⟩ {}
    let (results, last) := procedureResults
    ∃ r, let packets := ((results ++ [last]).flatMap (·.packets false)).map Bytes.toWire
      packets.mapM step (new (.query "CALL p()") false {}, ctx) =
        .ok (List.replicate (packets.length - 1) .needPacket ++ [.done])
          (r, ctx.reported ⟨2⟩ 3) ∧
      r.finish = .ok (.ok (.completions
        ((results ++ [last]).map (·.completion false)).toArray)) := by
  refine mapM_step_of_sent _ (.inl rfl) ?_ ?_ rfl
  · refine List.forall_mem_append.mpr ⟨List.forall_mem_singleton.mpr ?_, List.forall_mem_singleton.mpr ?_⟩
    · refine .rows nofun (by decide) (List.forall_mem_singleton.mpr (by unfold Column.Sent.Fits; decide))
        (List.forall_mem_cons.mpr ⟨?_, List.forall_mem_singleton.mpr ?_⟩) nofun
      · exact .text nofun fun _ mem => nomatch List.mem_singleton.mp mem
      · exact .text nofun fun _ mem => Option.some_inj.mp (List.mem_singleton.mp mem) ▸ by decide
    · exact .ok (.counted [] (by decide))
  · exact List.forall_mem_singleton.mpr rfl

end Reader

end SqlWire
