import SqlWire.Proofs.Alignment.Answer
import SqlWire.Proofs.Reads
import SqlWire.Proofs.Response.Row

/-!
# Readers told otherwise

`Reader.retold` is a reader that gives out rows in other portions and has other results before its
own. Apart from rows it takes packets in the same way (`step_retold`); as long as neither gives out
rows in portions, it does so throughout (`reads_retold_iff`).
-/

namespace SqlWire.Reader

open Session (Context)
open Exchange (Stop)

variable {r r' : Reader} {packet : ByteArray} {ctx ctx' : Context} {wanted : ReadStep}

/-- The same reader with other portions of rows, and with results before its own. -/
def retold (r : Reader) (fetchSize : Nat) (once : Bool) (before : Array Completion) : Reader :=
  { r with fetchSize, suspendedOnce := once, completions := before ++ r.completions }

/-- A step of a reader that is retold. -/
def Result.retold (result : Result) (size : Nat) (once : Bool) (before : Array Completion) : Result :=
  match result with
  | .ok wanted (r, ctx) => .ok wanted (r.retold size once before, ctx)
  | .error fault (r, ctx) => .error fault (r.retold size once before, ctx)

variable {size : Nat} {once : Bool} {before : Array Completion}

theorem retold_firstOfPrepare (packet : Bytes) :
    (r.retold size once before).firstOfPrepare packet ctx =
      (r.firstOfPrepare packet ctx).retold size once before := by
  unfold firstOfPrepare
  split
  · split <;> rfl
  · rfl

theorem retold_firstOfResult (packet : Bytes) :
    (r.retold size once before).firstOfResult packet ctx =
      (r.firstOfResult packet ctx).retold size once before := by
  unfold firstOfResult
  split
  · rfl
  · split
    · split
      · rfl
      · simp [Result.retold, retold, afterCompletion, progress, isDone]
    · have kind : (r.retold size once before).kind = r.kind := rfl
      rw [kind]
      split
      · rfl
      · split
        · rfl
        · split <;> rfl

theorem retold_column (packet : Bytes) (remaining : Nat) :
    (r.retold size once before).column packet ctx remaining =
      (r.column packet ctx remaining).retold size once before := by
  have eof : (r.retold size once before).deprecateEof = r.deprecateEof := rfl
  unfold Reader.column
  split
  · rfl
  · dsimp only
    rw [eof]
    by_cases more : 1 < remaining
    · rw [if_pos more, if_pos more]
      rfl
    · rw [if_neg more, if_neg more]
      split <;> rfl

theorem retold_definition (packet : Bytes) (add : Column → Pending → Pending) {next : Reader → Stage}
    (blind : ∀ r, next (r.retold size once before) = next r) :
    (r.retold size once before).definition packet ctx add next =
      (r.definition packet ctx add next).retold size once before := by
  have pending : (r.retold size once before).pending = r.pending := rfl
  unfold definition
  rw [pending]
  split
  · rfl
  · next pending _ =>
    split
    · rfl
    · next column _ =>
      have next_eq := blind { r with pending := some (add column pending) }
      dsimp only [Result.retold, retold] at next_eq ⊢
      rw [next_eq]
      rfl

theorem retold_definitionsEnd (packet : Bytes) (next : Reader) :
    (r.retold size once before).definitionsEnd packet ctx (next.retold size once before) =
      (r.definitionsEnd packet ctx next).retold size once before := by
  unfold definitionsEnd
  split <;> rfl

/-- Apart from rows, packets are taken in the same way. -/
theorem retold_accept (payload : ByteArray) (stage : r.stage ≠ .rows) :
    (r.retold size once before).accept payload ctx =
      (r.accept payload ctx).retold size once before := by
  have stage_eq : (r.retold size once before).stage = r.stage := rfl
  have kind_eq : (r.retold size once before).kind = r.kind := rfl
  unfold accept
  rw [stage_eq, kind_eq]
  split
  case h_1 =>
    split
    · exact retold_firstOfPrepare _
    · exact retold_firstOfResult _
  case h_2 => exact retold_column ..
  case h_3 => exact retold_definitionsEnd _ r.beginRows
  case h_4 rows => exact absurd rows stage
  case h_5 => exact retold_definition _ _ fun _ => rfl
  case h_6 => exact retold_definitionsEnd _ { r with stage := r.afterParams }
  case h_7 => exact retold_definition _ _ fun _ => rfl
  case h_8 => exact retold_definitionsEnd _ { r with stage := .done }
  case h_9 => rfl

theorem step_retold (h : r.stage ≠ .rows ∨ packet[0]? = some Lead.err) :
    step packet (r.retold size once before, ctx) =
      Result.retold (step packet (r, ctx)) size once before := by
  have done_eq : (r.retold size once before).isDone = r.isDone := rfl
  unfold step
  dsimp only
  rw [done_eq]
  by_cases refused : (packet[0]? == some Lead.err && !r.isDone) = true
  · rw [if_pos refused, if_pos refused]
    split <;> rfl
  · rw [if_neg refused, if_neg refused]
    refine retold_accept packet fun rows => refused ?_
    rw [h.resolve_left (absurd rows), isDone, rows]
    rfl

/-! ## Rows -/

/-- A packet among the rows ends the result set, or is a row of it. -/
theorem row_cases (stage : r.stage = .rows) (lead : packet[0]? ≠ some Lead.err)
    (taken : step packet (r, ctx) = .ok wanted (r', ctx')) :
    (∃ status warnings, isResultEnd packet[0]? packet.size r.deprecateEof = true ∧
        r.resultEnd (Bytes.ofWire packet) = .ok (status, warnings) ∧
        r' = r.endRows status.moreResults ∧ wanted = r'.progress) ∨
      ∃ set, isResultEnd packet[0]? packet.size r.deprecateEof = false ∧ r.current = some set ∧
        r' = r.withRow (r.extend packet set) ∧
        wanted = if r.isFull (r.extend packet set) then .suspended else .needPacket := by
  have row : step packet (r, ctx) = r.row packet ctx := by
    rw [step_of_lead lead, accept, stage]
  rw [row] at taken
  cases last : isResultEnd packet[0]? packet.size r.deprecateEof with
  | true =>
    unfold Reader.row at taken
    rw [last, if_pos rfl] at taken
    split at taken
    · cases taken
    · next status warnings ended =>
      cases taken
      exact .inl ⟨status, warnings, rfl, ended, rfl, rfl⟩
  | false =>
    cases current : r.current with
    | none =>
      unfold Reader.row at taken
      rw [last, if_neg Bool.false_ne_true] at taken
      dsimp only at taken
      rw [current] at taken
      cases taken
    | some set =>
      rw [row_of_current current last] at taken
      cases taken
      exact .inr ⟨set, rfl, rfl, rfl, rfl⟩

/-- The end of a result set among the rows. -/
theorem step_of_resultEnd {status : Status} {warnings : UInt16} (stage : r.stage = .rows)
    (lead : packet[0]? ≠ some Lead.err)
    (last : isResultEnd packet[0]? packet.size r.deprecateEof = true)
    (ended : r.resultEnd (Bytes.ofWire packet) = .ok (status, warnings)) :
    step packet (r, ctx) = .ok (r.endRows status.moreResults).progress
      (r.endRows status.moreResults, ctx.applyStatus status warnings) := by
  rw [step_of_lead lead, accept, stage]
  dsimp only
  unfold Reader.row
  rw [last, if_pos rfl, ended]

/-- A row that is put into the result set that is being read. -/
theorem step_of_row {set : ResultSet} (stage : r.stage = .rows) (lead : packet[0]? ≠ some Lead.err)
    (more : isResultEnd packet[0]? packet.size r.deprecateEof = false) (current : r.current = some set) :
    step packet (r, ctx) =
      .ok (if r.isFull (r.extend packet set) then .suspended else .needPacket)
        (r.withRow (r.extend packet set), ctx) := by
  rw [step_of_lead lead, accept, stage]
  exact row_of_current current more

/-- After portions of rows a retold reader must not go on with other ones. -/
theorem endRows_retold (more : Bool) (h : once = true → size = 0) :
    (r.retold size once before).endRows more = (r.endRows more).retold size once before := by
  have size_eq : (if once = true then 0 else size) = size := by
    split
    · next once => exact (h once).symm
    · rfl
  unfold endRows retold
  cases current : r.current with
  | none => simp [afterCompletion, size_eq]
  | some set =>
    cases discarding : r.discarding <;> simp [afterCompletion, size_eq]

/-- A reader without a fetch size takes packets as any reader that is retold without one. -/
theorem retold_row (whole : r.fetchSize = 0) :
    (r.retold 0 once before).row packet ctx =
      Result.retold (r.row packet ctx) 0 once before := by
  have eof : (r.retold 0 once before).deprecateEof = r.deprecateEof := rfl
  cases last : isResultEnd packet[0]? packet.size r.deprecateEof with
  | true =>
    have resultEnd (packet : Bytes) : (r.retold 0 once before).resultEnd packet = r.resultEnd packet :=
      rfl
    unfold Reader.row
    rw [eof, last, if_pos rfl, if_pos rfl, resultEnd]
    split
    · rfl
    · dsimp only
      rw [endRows_retold _ fun _ => rfl]
      rfl
  | false =>
    cases current : r.current with
    | none =>
      have none : (r.retold 0 once before).current = none := current
      unfold Reader.row
      rw [eof, last, if_neg Bool.false_ne_true, if_neg Bool.false_ne_true]
      dsimp only
      rw [current, none]
      rfl
    | some set =>
      have short (set : ResultSet) : (r.retold 0 once before).isFull set = false := isFull_zero rfl
      rw [row_of_current current last, row_of_current (r := r.retold 0 once before) current last,
        isFull_zero whole, short, withRow, short, Bool.or_false]
      rfl

theorem step_retold_zero (whole : r.fetchSize = 0) :
    step packet (r.retold 0 once before, ctx) =
      Result.retold (step packet (r, ctx)) 0 once before := by
  by_cases other : r.stage ≠ .rows ∨ packet[0]? = some Lead.err
  · exact step_retold other
  · simp only [not_or, Decidable.not_not] at other
    obtain ⟨stage, lead⟩ := other
    rw [step_of_lead lead, step_of_lead lead, accept, accept, stage]
    have stage' : (r.retold 0 once before).stage = .rows := stage
    rw [stage']
    exact retold_row whole

/-- Readers without a fetch size read alike. -/
theorem reads_retold_iff {packets left : List ByteArray} {stop : Stop} (whole : r.fetchSize = 0) :
    (r.retold 0 once before).Reads packets r' stop left ↔
      ∃ r₁, r.Reads packets r₁ stop left ∧ r' = r₁.retold 0 once before := by
  constructor
  · intro reads
    generalize from_eq : r.retold 0 once before = from_ at reads
    induction reads generalizing r with
    | done done =>
      subst from_eq
      exact ⟨r, .done done, rfl⟩
    | suspended going taken =>
      subst from_eq
      exact absurd taken (((calm_step _).whole rfl).2 _)
    | next going taken more _ ih =>
      subst from_eq
      rw [step_retold_zero whole] at taken
      cases step_eq : step _ (r, _) with
      | error fault s => rw [step_eq] at taken; cases taken
      | ok wanted s =>
        rw [step_eq] at taken
        cases taken
        obtain ⟨r₁, reads, rfl⟩ := ih (fetchSize_step whole step_eq) rfl
        exact ⟨r₁, .next going step_eq more reads, rfl⟩
  · rintro ⟨r₁, reads, rfl⟩
    induction reads with
    | done done => exact .done done
    | suspended going taken => exact absurd taken (((calm_step _).whole whole).2 _)
    | @next r _ _ ctx _ _ packet _ _ _ going taken more _ ih =>
      have retaken : step packet (r.retold 0 once before, ctx) = _ := step_retold_zero whole
      rw [taken] at retaken
      exact .next going retaken more (ih (fetchSize_step whole taken))

end SqlWire.Reader
