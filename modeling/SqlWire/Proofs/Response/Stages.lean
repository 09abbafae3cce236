import SqlWire.Proofs.Malformed
import SqlWire.Proofs.Response.Indifference

/-!
# What a reader holds at each stage

The stage of a reader says which packet comes next, and so what the reader must have at hand: a result
set for a row, a statement for the definition of a parameter, and how many definitions are still to
come. `Definitions` is kept beside the reader: what the server has announced, and what it has sent
since.

`Placed` says what is held at which stage. A step keeps it whatever the packet is (`leads_step`), the
server's errors and packets that are refused included, and so does the reader's holder between the
steps. So what a stage needs is always there, and a reader never finds fault with its lack
(`Followed.provided_of_acts`).
-/

namespace SqlWire

namespace Reader

open Session (Context)

/-- The definitions that the server has announced last, and those that it has sent since. -/
structure Definitions where
  paramCount : Nat := 0
  columnCount : Nat := 0
  params : List Column := []
  columns : List Column := []
  deriving DecidableEq, Repr

namespace Definitions

/-- What the first packet of a result announces. -/
def announced (kind : ResponseKind) (packet : Bytes) : Definitions :=
  if kind = .prepare then
    match PrepareOk.parse packet with
    | .ok ok => { paramCount := ok.params.toNat, columnCount := ok.columns.toNat }
    | .error _ => {}
  else
    match SqlWire.columnCount packet with
    | .ok count => { columnCount := count }
    | .error _ => {}

/-- Behind a packet that a reader has taken. -/
def after (d : Definitions) (r : Reader) (packet : Bytes) : Definitions :=
  match r.stage, Column.parse packet with
  | .start, _ => announced r.kind packet
  | .columns _, .ok column | .preparedColumns _, .ok column =>
    { d with columns := d.columns ++ [column] }
  | .params _, .ok column => { d with params := d.params ++ [column] }
  | _, _ => d

theorem announced_of_prepareOk {kind : ResponseKind} {packet : Bytes} {ok : PrepareOk}
    (prepare : kind = .prepare) (parsed : PrepareOk.parse packet = .ok ok) :
    announced kind packet =
      { paramCount := ok.params.toNat, columnCount := ok.columns.toNat } := by
  simp only [announced, prepare, if_pos, parsed]

theorem announced_of_columnCount {kind : ResponseKind} {packet : Bytes} {count : Nat}
    (results : kind ≠ .prepare) (parsed : SqlWire.columnCount packet = .ok count) :
    announced kind packet = { columnCount := count } := by
  simp only [announced, if_neg results, parsed]

end Definitions

/-- What comes to a reader: a packet, in whatever state the session is, or its holder. -/
inductive Act where
  | take (payload : ByteArray) (ctx : Context)
  | hold (action : Action)

/-- A reader, and the definitions of its response. -/
structure Followed where
  reader : Reader
  definitions : Definitions

def Followed.after (f : Followed) : Act → Followed
  | .take payload ctx =>
    match step payload (f.reader, ctx) with
    | .ok _ (r, _) => ⟨r, f.definitions.after f.reader (Bytes.ofWire payload)⟩
    | .error _ (r, _) => ⟨r, f.definitions⟩
  | .hold action => { f with reader := action.apply f.reader }

/-- A statement as far as its definitions are there. -/
structure Pending.Described (p : Pending) (d : Definitions) : Prop where
  columnCount : p.columnCount = d.columnCount
  params : p.params.toList = d.params
  columns : p.columns.toList = d.columns

/-- The statement that is being described. -/
def Describes (r : Reader) (d : Definitions) : Prop := ∃ p, r.pending = some p ∧ p.Described d

/-- What a reader has at hand at a stage. -/
def Holds (r : Reader) (d : Definitions) : Stage → Prop
  | .start => True
  | .columns n => r.kind ≠ .prepare ∧ r.columns.toList = d.columns ∧ 0 < n ∧
      n + d.columns.length = d.columnCount
  | .columnsEnd | .rows => r.kind ≠ .prepare
  | .params n => r.Describes d ∧ d.columns = [] ∧ 0 < n ∧ n + d.params.length = d.paramCount
  | .paramsEnd => r.Describes d ∧ d.columns = []
  | .preparedColumns n => r.Describes d ∧ 0 < n ∧ n + d.columns.length = d.columnCount
  | .preparedColumnsEnd => r.Describes d
  | .done => r.kind = .prepare → r.error = none → ∃ p, r.pending = some p

/-- A reader has at hand what its stage needs. -/
structure Placed (d : Definitions) (r : Reader) : Prop where
  current : r.current.isSome = true ↔ r.stage = .rows
  held : r.Holds d r.stage

/-- What a step comes to, whatever its end. -/
def Leads (d d' : Definitions) : Result → Prop
  | .ok _ (r, _) => Placed d' r
  | .error fault (r, _) => fault.isAstray = false ∧ Placed d r

variable {r : Reader} {ctx : Context} {d d' : Definitions} {packet : Bytes} {payload : ByteArray}
  {n : Nat}

namespace Placed

theorem of_stage {stage : Stage} (at_stage : r.stage = stage) (other : (stage == .rows) = false)
    (none : r.current = none) (held : r.Holds d stage) : Placed d r where
  current := by
    rw [none, at_stage]
    exact iff_of_false Bool.false_ne_true (beq_eq_false_iff_ne.mp other)
  held := at_stage ▸ held

theorem new (command : Command) (deprecateEof : Bool) (options : StatementOptions) :
    Placed {} (new command deprecateEof options) := by
  unfold Reader.new
  cases kind : command.responseKind with
  | none => exact .of_stage rfl rfl rfl nofun
  | text | binary | prepare => exact .of_stage rfl rfl rfl trivial

/-- Without rows no result set is being read. -/
theorem current_none {stage : Stage} (placed : Placed d r) (at_stage : r.stage = stage)
    (other : (stage == .rows) = false) : r.current = none := by
  rw [← Option.not_isSome_iff_eq_none, placed.current, at_stage]
  exact beq_eq_false_iff_ne.mp other

theorem held_at {stage : Stage} (placed : Placed d r) (at_stage : r.stage = stage) :
    r.Holds d stage := at_stage ▸ placed.held

theorem apply (placed : Placed d r) (action : Action) : Placed d (action.apply r) := by
  obtain ⟨current, held⟩ := placed
  cases action with
  | discard | takeRows | takePartial => exact ⟨by rwa [← Option.isSome_map] at current, held⟩
  | takeCompletions => exact ⟨current, held⟩

/-- An error of the server ends a response. -/
theorem fail (e : ServerError) : Placed d (r.fail e) := .of_stage rfl rfl rfl nofun

/-- Behind a result set or an OK packet there is another one, or nothing. -/
theorem afterCompletion (none : r.current = none) (results : r.kind ≠ .prepare) {more : Bool} :
    Placed d (r.afterCompletion more) := by
  cases more with
  | true => exact .of_stage rfl rfl none trivial
  | false => exact .of_stage rfl rfl none fun prepare => absurd prepare results

/-- Behind the parameters of a statement come as many columns as were announced. -/
theorem afterParams (none : r.current = none) (describes : r.Describes d) (first : d.columns = []) :
    Placed d { r with stage := r.afterParams } := by
  obtain ⟨p, pending, described⟩ := describes
  have count : (r.pending.map (·.columnCount)).getD 0 = d.columnCount := by
    rw [pending, ← described.columnCount]
    rfl
  cases columns : d.columnCount with
  | zero =>
    have stage : r.afterParams = .done := by simp only [Reader.afterParams, count, columns]
    exact .of_stage stage rfl none fun _ _ => ⟨p, pending⟩
  | succ n =>
    have stage : r.afterParams = .preparedColumns (n + 1) := by
      simp only [Reader.afterParams, count, columns]
    refine .of_stage stage rfl none ⟨⟨p, pending, described⟩, n.succ_pos, ?_⟩
    rw [first, columns, List.length_nil]

theorem endRows (results : r.kind ≠ .prepare) {more : Bool} : Placed d (r.endRows more) := by
  unfold Reader.endRows
  refine .afterCompletion ?_ ?_
  · rfl
  · exact results

theorem beginRows (results : r.kind ≠ .prepare) : Placed d r.beginRows :=
  ⟨⟨fun _ => rfl, fun _ => rfl⟩, results⟩

end Placed

/-! ## Steps -/

namespace Leads

theorem ok {wanted : ReadStep} (placed : Placed d' r) : Leads d d' (.ok wanted (r, ctx)) := placed

theorem refused {fault : ProtocolFault} (placed : Placed d r) (fit : fault.isAstray = false) :
    Leads d d' (.error fault (r, ctx)) := ⟨fit, placed⟩

/-- A packet that is malformed. -/
theorem malformed {α : Type} {read : Except ProtocolFault α} {fault : ProtocolFault}
    (placed : Placed d r) (formal : Formal read) (failed : read = .error fault) :
    Leads d d' (.error fault (r, ctx)) := .refused placed (formal.not_astray failed)

end Leads

theorem leads_firstOfPrepare (placed : Placed d r) (stage : r.stage = .start)
    (prepare : r.kind = .prepare) :
    Leads d (.announced r.kind packet) (r.firstOfPrepare packet ctx) := by
  have none : r.current = none := placed.current_none stage rfl
  unfold firstOfPrepare
  split
  · split
    · next failed => exact .malformed placed (PrepareOk.formal_parse packet) failed
    · next ok parsed =>
      rw [Definitions.announced_of_prepareOk prepare parsed]
      have described : Pending.Described ⟨ok.statementId, ok.columns.toNat, #[], #[]⟩
          { paramCount := ok.params.toNat, columnCount := ok.columns.toNat } := ⟨rfl, rfl, rfl⟩
      refine .ok ?_
      split
      · exact .afterParams none ⟨_, rfl, described⟩ rfl
      · next some =>
        have positive : 0 < ok.params.toNat := by
          refine Nat.pos_of_ne_zero fun zero => some ?_
          rw [beq_iff_eq, ← UInt16.toNat_inj]
          exact zero
        exact .of_stage rfl rfl none ⟨⟨_, rfl, described⟩, rfl, positive, rfl⟩
  · exact .refused placed rfl

theorem leads_firstOfResult (placed : Placed d r) (stage : r.stage = .start)
    (results : r.kind ≠ .prepare) :
    Leads d (.announced r.kind packet) (r.firstOfResult packet ctx) := by
  have none : r.current = none := placed.current_none stage rfl
  unfold firstOfResult
  split
  · exact .refused placed rfl
  split
  · split
    · next failed => exact .malformed placed (OkPacket.formal_parse _) failed
    · refine .ok (.afterCompletion ?_ ?_)
      · exact none
      · exact results
  split
  · exact .ok (.of_stage stage rfl none trivial)
  split
  · next failed => exact .malformed placed (formal_columnCount _) failed
  · next count parsed =>
    rw [Definitions.announced_of_columnCount results parsed]
    split
    · exact .refused placed rfl
    · next some =>
      have positive : 0 < count := by simpa [Nat.pos_iff_ne_zero] using some
      exact .ok (.of_stage rfl rfl none ⟨results, rfl, positive, rfl⟩)

/-- One definition more is there, and one less to come. -/
theorem left_of_another {columns : List Column} {column : Column} {count : Nat} (another : 1 < n)
    (left : n + columns.length = count) :
    0 < n - 1 ∧ n - 1 + (columns ++ [column]).length = count := by
  rw [List.length_append, List.length_singleton]
  omega

theorem leads_column (placed : Placed d r) (stage : r.stage = .columns n) :
    Leads d (d.after r packet) (r.column packet ctx n) := by
  have none : r.current = none := placed.current_none stage rfl
  obtain ⟨results, read, left, count⟩ := placed.held_at stage
  unfold Reader.column
  split
  · next failed => exact .malformed placed (Column.formal_parse _) failed
  · next column parsed =>
    have after : d.after r packet = { d with columns := d.columns ++ [column] } := by
      simp only [Definitions.after, stage, parsed]
    rw [after]
    refine .ok ?_
    split
    · next another =>
      have more : (r.columns.push column).toList = d.columns ++ [column] := by
        rw [Array.toList_push, read]
      exact .of_stage rfl rfl none ⟨results, more, left_of_another another count⟩
    split
    · exact .beginRows results
    · exact .of_stage rfl rfl none results

/-- The definition of a parameter or of a column of a statement. -/
theorem leads_definition {add : Column → Pending → Pending} {next : Reader → Stage} {p : Pending}
    (placed : Placed d r) (pending : r.pending = some p)
    (added : ∀ column, Column.parse packet = .ok column →
      Placed d' { r with
        pending := some (add column p)
        stage := next { r with pending := some (add column p) } }) :
    Leads d d' (r.definition packet ctx add next) := by
  unfold definition
  rw [pending]
  dsimp only
  split
  · next failed => exact .malformed placed (Column.formal_parse _) failed
  · next column parsed => exact .ok (added column parsed)

theorem leads_param (placed : Placed d r) (stage : r.stage = .params n) :
    Leads d (d.after r packet)
      (r.definition packet ctx (fun column p => { p with params := p.params.push column }) fun r =>
        if 1 < n then .params (n - 1) else if r.deprecateEof then r.afterParams else .paramsEnd) := by
  have none : r.current = none := placed.current_none stage rfl
  obtain ⟨⟨p, pending, described⟩, first, left, count⟩ := placed.held_at stage
  refine leads_definition placed pending fun column parsed => ?_
  have after : d.after r packet = { d with params := d.params ++ [column] } := by
    simp only [Definitions.after, stage, parsed]
  have more : Pending.Described { p with params := p.params.push column }
      { d with params := d.params ++ [column] } :=
    ⟨described.columnCount, by rw [Array.toList_push, described.params], described.columns⟩
  rw [after]
  dsimp only
  split
  · next another =>
    exact .of_stage rfl rfl none ⟨⟨_, rfl, more⟩, first, left_of_another another count⟩
  split
  · exact .afterParams (r := { r with pending := some _ }) none ⟨_, rfl, more⟩ first
  · exact .of_stage rfl rfl none ⟨⟨_, rfl, more⟩, first⟩

theorem leads_preparedColumn (placed : Placed d r) (stage : r.stage = .preparedColumns n) :
    Leads d (d.after r packet)
      (r.definition packet ctx (fun column p => { p with columns := p.columns.push column }) fun r =>
        if 1 < n then .preparedColumns (n - 1)
        else if r.deprecateEof then .done else .preparedColumnsEnd) := by
  have none : r.current = none := placed.current_none stage rfl
  obtain ⟨⟨p, pending, described⟩, left, count⟩ := placed.held_at stage
  refine leads_definition placed pending fun column parsed => ?_
  have after : d.after r packet = { d with columns := d.columns ++ [column] } := by
    simp only [Definitions.after, stage, parsed]
  have more : Pending.Described { p with columns := p.columns.push column }
      { d with columns := d.columns ++ [column] } :=
    ⟨described.columnCount, described.params, by rw [Array.toList_push, described.columns]⟩
  rw [after]
  dsimp only
  split
  · next another =>
    exact .of_stage rfl rfl none ⟨⟨_, rfl, more⟩, left_of_another another count⟩
  split
  · exact .of_stage rfl rfl none fun _ _ => ⟨_, rfl⟩
  · exact .of_stage rfl rfl none ⟨_, rfl, more⟩

theorem leads_definitionsEnd {next : Reader} (placed : Placed d r) (behind : Placed d next) :
    Leads d d (r.definitionsEnd packet ctx next) := by
  unfold definitionsEnd
  split
  · next failed => exact .malformed placed (EofPacket.formal_parse _) failed
  · exact .ok behind

theorem formal_resultEnd : Formal (r.resultEnd packet) := by
  unfold resultEnd
  split
  · exact .bind (OkPacket.formal_parse _) fun _ => .pure _
  · exact .bind (EofPacket.formal_parse _) fun _ => .pure _

theorem leads_row (placed : Placed d r) (stage : r.stage = .rows) :
    Leads d d (r.row payload ctx) := by
  have results : r.kind ≠ .prepare := placed.held_at stage
  cases last : isResultEnd payload[0]? payload.size r.deprecateEof with
  | true =>
    unfold row
    rw [last, if_pos rfl]
    split
    · next failed => exact .malformed placed formal_resultEnd failed
    · exact .ok (.endRows results)
  | false =>
    obtain ⟨set, current⟩ := Option.isSome_iff_exists.mp (placed.current.mpr stage)
    rw [row_of_current current last]
    exact ⟨⟨fun _ => stage, fun _ => rfl⟩, placed.held⟩

theorem leads_accept (placed : Placed d r) :
    Leads d (d.after r (Bytes.ofWire payload)) (r.accept payload ctx) := by
  unfold accept
  dsimp only
  split
  · next stage =>
    have first : d.after r (Bytes.ofWire payload) = .announced r.kind (Bytes.ofWire payload) := by
      simp only [Definitions.after, stage]
    rw [first]
    split
    · next prepare => exact leads_firstOfPrepare placed stage (beq_iff_eq.mp prepare)
    · next results => exact leads_firstOfResult placed stage fun prepare => results (beq_iff_eq.mpr prepare)
  · next stage => exact leads_column placed stage
  · next stage =>
    rw [show d.after r _ = d by simp only [Definitions.after, stage]]
    exact leads_definitionsEnd placed (.beginRows (placed.held_at stage))
  · next stage =>
    rw [show d.after r _ = d by simp only [Definitions.after, stage]]
    exact leads_row placed stage
  · next stage => exact leads_param placed stage
  · next stage =>
    rw [show d.after r _ = d by simp only [Definitions.after, stage]]
    obtain ⟨describes, first⟩ := placed.held_at stage
    exact leads_definitionsEnd placed (.afterParams (placed.current_none stage rfl) describes first)
  · next stage => exact leads_preparedColumn placed stage
  · next stage =>
    rw [show d.after r _ = d by simp only [Definitions.after, stage]]
    obtain ⟨p, pending, -⟩ := placed.held_at stage
    exact leads_definitionsEnd placed
      (.of_stage rfl rfl (placed.current_none stage rfl) fun _ _ => ⟨p, pending⟩)
  · exact .refused placed rfl

/-- A step keeps at hand what the next stage needs, and never lacks it. -/
theorem leads_step (placed : Placed d r) (payload : ByteArray) (ctx : Context) :
    Leads d (d.after r (Bytes.ofWire payload)) (step payload (r, ctx)) := by
  unfold step
  dsimp only
  split
  · split
    · next failed => exact .malformed placed (ServerError.formal_parse _) failed
    · exact .ok (.fail _)
  · exact leads_accept placed

/-! ## Runs -/

theorem Followed.placed_after {f : Followed} (placed : Placed f.definitions f.reader) (act : Act) :
    Placed (f.after act).definitions (f.after act).reader := by
  cases act with
  | hold action => exact placed.apply action
  | take payload ctx =>
    have leads := leads_step placed payload ctx
    unfold Followed.after
    dsimp only
    cases stepped : step payload (f.reader, ctx) with
    | ok wanted s =>
      rw [stepped] at leads
      exact leads
    | error fault s =>
      rw [stepped] at leads
      exact leads.2

theorem Followed.placed_run {f : Followed} (placed : Placed f.definitions f.reader)
    (acts : List Act) :
    Placed (acts.foldl after f).definitions (acts.foldl after f).reader := by
  induction acts generalizing f with
  | nil => exact placed
  | cons act acts ih => exact ih (placed_after placed act)

/-! ## What is at hand -/

/-- A statement is being described. -/
def Stage.describes : Stage → Bool
  | params _ | paramsEnd | preparedColumns _ | preparedColumnsEnd => true
  | start | columns _ | columnsEnd | rows | done => false

theorem Placed.describes (placed : Placed d r) (describing : r.stage.describes = true) :
    r.Describes d := by
  have held := placed.held
  cases stage : r.stage <;> rw [stage] at held describing
  case params | paramsEnd | preparedColumns => exact held.1
  case preparedColumnsEnd => exact held
  all_goals cases describing

/-- A response that is not there yet is the only thing that `finish` finds fault with. -/
theorem Placed.finish_error {fault : ProtocolFault} (placed : Placed d r)
    (failed : r.finish = .error fault) : r.isDone = false ∧ fault = .unfinishedResponse := by
  unfold finish at failed
  split at failed
  · cases failed
  · next unrefused =>
    cases done : r.isDone with
    | false =>
      rw [done] at failed
      cases failed
      exact ⟨rfl, rfl⟩
    | true =>
      rw [done] at failed
      cases kind : r.kind with
      | none | text | binary =>
        rw [kind] at failed
        cases failed
      | prepare =>
        obtain ⟨p, pending⟩ := placed.held_at (beq_iff_eq.mp done) kind unrefused
        rw [kind, pending] at failed
        cases failed

/-- What a reader needs is there, and it never says that it is not. -/
structure Followed.Provided (f : Followed) : Prop where
  current : f.reader.current.isSome = true ↔ f.reader.stage = .rows
  describes : f.reader.stage.describes = true → f.reader.Describes f.definitions
  columns : ∀ n, f.reader.stage = .columns n ∨ f.reader.stage = .preparedColumns n →
    0 < n ∧ n + f.definitions.columns.length = f.definitions.columnCount
  params : ∀ n, f.reader.stage = .params n →
    0 < n ∧ n + f.definitions.params.length = f.definitions.paramCount
  step : ∀ payload ctx fault s, Reader.step payload (f.reader, ctx) = .error fault s →
    fault.isAstray = false
  finish : ∀ fault, f.reader.finish = .error fault → fault.isAstray = false
  done : f.reader.isDone = true → ∃ given, f.reader.finish = .ok given

theorem Followed.provided_of_placed {f : Followed} (placed : Placed f.definitions f.reader) :
    f.Provided where
  current := placed.current
  describes := placed.describes
  columns n := by
    rintro (stage | stage)
    · exact (placed.held_at stage).2.2
    · exact (placed.held_at stage).2
  params n stage := (placed.held_at stage).2.2
  step payload ctx fault s failed := by
    have leads := leads_step placed payload ctx
    rw [failed] at leads
    exact leads.1
  finish fault failed := by
    rw [(placed.finish_error failed).2]
    rfl
  done ended := by
    cases finished : f.reader.finish with
    | ok given => exact ⟨given, rfl⟩
    | error fault =>
      have going : f.reader.isDone = false := (placed.finish_error finished).1
      rw [ended] at going
      cases going

/-- Whatever packets a reader takes and whatever its holder does, it has what its stage needs: a result
set exactly where rows come, a statement wherever one is described, and as many definitions to come as
were announced and have not been read. So it never lacks them, and gives a response at its end. -/
theorem Followed.provided_of_acts (command : Command) (deprecateEof : Bool)
    (options : StatementOptions) (acts : List Act) :
    (acts.foldl after ⟨new command deprecateEof options, {}⟩).Provided :=
  provided_of_placed (placed_run (.new command deprecateEof options) acts)

/-- A statement with two parameters and one column, of which one definition was read. An end packet in
place of the other one is refused. -/
example :
    let ctx : Context := .new ⟨⟨0⟩, ⟨0⟩, 1, "", [], 0, false, ""⟩ {}
    let param : ByteArray := ⟨#[0, 0, 0, 0, 0, 0, 12, 33, 0, 0, 0, 0, 0, 3, 0, 0, 0, 0, 0]⟩
    let f := [.take ⟨#[0, 7, 0, 0, 0, 1, 0, 2, 0, 0, 0, 0]⟩ ctx, .take param ctx, .hold .discard,
      .take ⟨#[254, 0, 0, 2, 0]⟩ ctx].foldl Followed.after ⟨new (.prepare "") false {}, {}⟩
    f.reader.stage = .params 1 ∧ f.definitions.paramCount = 2 ∧ f.definitions.params.length = 1 := by
  decide

end Reader

end SqlWire
