import SqlWire.Proofs.Response.Row
import SqlWire.Run

/-!
# What rows have no part in

How many rows a reader keeps or gives out at a time, and what is taken out of it or dropped between
its steps, has no part in how it takes packets. `Reader.bare` forgets all that, and a step does the
same with what is left (`bared_step`). So two readers of one response stand at the same stage behind
each packet, fail alike, want the same files and leave the same session (`sights_eq`).
-/

namespace SqlWire

/-- What a reader that suspends wants once its rows are taken. -/
def ReadStep.resumed : ReadStep → ReadStep
  | suspended => needPacket
  | wanted => wanted

namespace Reader

open Session (Context)

variable {r r' : Reader} {ctx : Context}

/-- The reader without rows and results, and without the limits on them. Whether a result set is being
read is left. -/
def bare (r : Reader) : Reader :=
  { r with
    fetchSize := 0
    maxRows := 0
    discarding := false
    suspendedOnce := false
    completions := #[]
    columns := #[]
    current := r.current.map fun _ => ⟨#[], #[], false⟩
    rowsSeen := 0 }

@[simp] theorem bare_bare (r : Reader) : r.bare.bare = r.bare := by
  simp [bare, Function.comp_def]

@[simp] theorem isDone_bare (r : Reader) : r.bare.isDone = r.isDone := rfl

/-- The result of a step apart from rows and results. -/
def bared : Result → Except ProtocolFault ReadStep × Reader × Context
  | .ok wanted (r, ctx) => (.ok wanted.resumed, r.bare, ctx)
  | .error fault (r, ctx) => (.error fault, r.bare, ctx)

/-! ## Steps -/

theorem bared_error (fault : ProtocolFault) (same : r.bare = r'.bare) :
    bared (.error fault (r, ctx)) = bared (.error fault (r', ctx)) := by
  rw [bared, bared, same]

theorem bared_ok {wanted wanted' : ReadStep} (wants : wanted.resumed = wanted'.resumed)
    (same : r.bare = r'.bare) : bared (.ok wanted (r, ctx)) = bared (.ok wanted' (r', ctx)) := by
  rw [bared, bared, wants, same]

theorem bared_progress (same : r.bare = r'.bare) :
    bared (.ok r.progress (r, ctx)) = bared (.ok r'.progress (r', ctx)) := by
  have stage : r.isDone = r'.isDone := by rw [← isDone_bare r, same, isDone_bare]
  refine bared_ok ?_ same
  rw [progress, progress, stage]

theorem bared_firstOfPrepare (packet : Bytes) :
    bared (r.firstOfPrepare packet ctx) = bared (r.bare.firstOfPrepare packet ctx) := by
  unfold firstOfPrepare
  split
  · split
    · exact bared_error _ (bare_bare r).symm
    · exact bared_progress (by simp [bare, afterParams, Function.comp_def])
  · exact bared_error _ (bare_bare r).symm

theorem bared_firstOfResult (packet : Bytes) :
    bared (r.firstOfResult packet ctx) = bared (r.bare.firstOfResult packet ctx) := by
  have same := (bare_bare r).symm
  unfold firstOfResult
  split
  · exact bared_error _ same
  · split
    · split
      · exact bared_error _ same
      · exact bared_progress (by simp [bare, afterCompletion, Function.comp_def])
    · -- Whether a file may be wanted depends on the kind of response, which is left.
      split
      · rw [if_pos (by assumption)]
        exact bared_ok rfl same
      · rw [if_neg (by assumption)]
        split
        · exact bared_error _ same
        · split
          · exact bared_error _ same
          · exact bared_ok rfl (by simp [bare, Function.comp_def])

theorem bared_column (packet : Bytes) (remaining : Nat) :
    bared (r.column packet ctx remaining) = bared (r.bare.column packet ctx remaining) := by
  unfold Reader.column
  split
  · exact bared_error _ (bare_bare r).symm
  · refine bared_ok rfl ?_
    by_cases more : 1 < remaining
    · simp [bare, more, Function.comp_def]
    · cases eof : r.deprecateEof <;> simp [bare, beginRows, more, eof, Function.comp_def]

theorem bared_definition (packet : Bytes) (add : Column → Pending → Pending) {next : Reader → Stage}
    (blind : ∀ r, next r = next r.bare) :
    bared (r.definition packet ctx add next) = bared (r.bare.definition packet ctx add next) := by
  unfold definition
  have same := (bare_bare r).symm
  have pending : r.bare.pending = r.pending := rfl
  rw [pending]
  split
  · exact bared_error _ same
  · split
    · exact bared_error _ same
    · refine bared_progress ?_
      dsimp only
      rw [blind]
      simp [bare, Function.comp_def]

theorem bared_definitionsEnd (packet : Bytes) {next next' : Reader} (same : next.bare = next'.bare) :
    bared (r.definitionsEnd packet ctx next) = bared (r.bare.definitionsEnd packet ctx next') := by
  unfold definitionsEnd
  split
  · exact bared_error _ (bare_bare r).symm
  · exact bared_progress same

theorem bare_endRows (more : Bool) : (r.endRows more).bare = (r.bare.endRows more).bare := by
  simp [endRows, afterCompletion, bare]

theorem bared_row (payload : ByteArray) :
    bared (r.row payload ctx) = bared (r.bare.row payload ctx) := by
  have eof : r.bare.deprecateEof = r.deprecateEof := rfl
  cases last : isResultEnd payload[0]? payload.size r.deprecateEof with
  | true =>
    have resultEnd (packet : Bytes) : r.bare.resultEnd packet = r.resultEnd packet := rfl
    unfold row
    rw [eof, last, if_pos rfl, if_pos rfl, resultEnd]
    split
    · exact bared_error _ (bare_bare r).symm
    · exact bared_progress (bare_endRows _)
  | false =>
    -- Of the rows it is only asked whether a result set is being read.
    cases current : r.current with
    | none =>
      have none : r.bare.current = none := by rw [bare, current]; rfl
      unfold row
      rw [eof, last, if_neg Bool.false_ne_true, if_neg Bool.false_ne_true]
      dsimp only
      rw [current, none]
      exact bared_error _ (by simp [bare, current])
    | some set =>
      have some : r.bare.current = some ⟨#[], #[], false⟩ := by rw [bare, current]; rfl
      rw [row_of_current current last, row_of_current some last]
      refine bared_ok ?_ (by simp [bare, withRow])
      split <;> split <;> rfl

theorem bared_accept (payload : ByteArray) :
    bared (r.accept payload ctx) = bared (r.bare.accept payload ctx) := by
  have stage : r.bare.stage = r.stage := rfl
  have kind : r.bare.kind = r.kind := rfl
  unfold accept
  rw [stage, kind]
  split
  case h_1 =>
    split
    · exact bared_firstOfPrepare _
    · exact bared_firstOfResult _
  case h_2 => exact bared_column ..
  case h_3 => exact bared_definitionsEnd _ (by simp [bare, beginRows])
  case h_4 => exact bared_row _
  case h_5 => exact bared_definition _ _ fun _ => rfl
  case h_6 => exact bared_definitionsEnd _ (by simp [bare, afterParams, Function.comp_def])
  case h_7 => exact bared_definition _ _ fun _ => rfl
  case h_8 => exact bared_definitionsEnd _ (by simp [bare, Function.comp_def])
  case h_9 => exact bared_error _ (bare_bare r).symm

/-- A step does the same, apart from rows and results, whatever these were before. -/
theorem bared_step (payload : ByteArray) (r : Reader) (ctx : Context) :
    bared (step payload (r, ctx)) = bared (step payload (r.bare, ctx)) := by
  unfold step
  dsimp only
  rw [isDone_bare]
  by_cases refused : (payload[0]? == some Lead.err && !r.isDone) = true
  · rw [if_pos refused, if_pos refused]
    split
    · exact bared_error _ (bare_bare r).symm
    · exact bared_ok rfl (by simp [bare, Reader.fail])
  · rw [if_neg refused, if_neg refused]
    exact bared_accept _

/-! ## Two readers -/

/-- What the holder of a reader may do between its steps. -/
inductive Action where
  | discard
  | takeRows
  | takePartial
  | takeCompletions
  deriving DecidableEq, Repr

def Action.apply (r : Reader) : Action → Reader
  | discard => r.discard
  | takeRows => r.takeRows.2
  | takePartial => r.takePartial.2
  | takeCompletions => r.takeCompletions.2

theorem bare_apply (r : Reader) (action : Action) : (action.apply r).bare = r.bare := by
  cases action <;> simp [Action.apply, Reader.discard, Reader.takeRows, Reader.takePartial,
    Reader.takeCompletions, bare, Function.comp_def]

theorem bare_applyAll (r : Reader) (actions : List Action) :
    (actions.foldl Action.apply r).bare = r.bare := by
  induction actions generalizing r with
  | nil => rfl
  | cons action actions ih => rw [List.foldl_cons, ih, bare_apply]

theorem bare_new (command : Command) (deprecateEof : Bool) (options : StatementOptions) :
    (new command deprecateEof options).bare = new command deprecateEof {} := rfl

/-- What can be told of a step without the rows. -/
structure Sight where
  /-- What is wanted next, or what was wrong with the packet. -/
  given : Except ProtocolFault ReadStep
  stage : Stage
  refusal : Option ServerError
  ctx : Context

def sight (result : Result) : Sight :=
  let (given, r, ctx) := bared result
  ⟨given, r.stage, r.error, ctx⟩

/-- What can be told of the steps of a reader that takes these packets, with actions placed before the
packet of each number. -/
def sights (r : Reader) (ctx : Context) (placed : Nat → List Action) : List ByteArray → List Sight
  | [] => []
  | packet :: packets =>
    let result := step packet ((placed 0).foldl Action.apply r, ctx)
    sight result :: result.state.1.sights result.state.2 (fun i => placed (i + 1)) packets

theorem bared_state {result result' : Result} (same : bared result = bared result') :
    result.state.1.bare = result'.state.1.bare ∧ result.state.2 = result'.state.2 := by
  cases result <;> cases result' <;> simp_all [bared, EStateM.Result.state]

theorem sights_eq_of_bare (same : r.bare = r'.bare) (placed placed' : Nat → List Action)
    (packets : List ByteArray) : r.sights ctx placed packets = r'.sights ctx placed' packets := by
  induction packets generalizing r r' ctx placed placed' with
  | nil => rfl
  | cons packet packets ih =>
    have steps : bared (step packet ((placed 0).foldl Action.apply r, ctx)) =
        bared (step packet ((placed' 0).foldl Action.apply r', ctx)) := by
      rw [bared_step, bare_applyAll, same, ← bare_applyAll r' (placed' 0), ← bared_step]
    obtain ⟨readers, sessions⟩ := bared_state steps
    refine List.cons_eq_cons.mpr ⟨?_, ?_⟩
    · rw [sight, sight, steps]
    · rw [sessions]
      exact ih readers _ _

/-- Readers of one response that keep other rows, and whose holders do other things between the steps,
go the same way. -/
theorem sights_eq (command : Command) (deprecateEof : Bool) (options options' : StatementOptions)
    (placed placed' : Nat → List Action) (ctx : Context) (packets : List ByteArray) :
    (new command deprecateEof options).sights ctx placed packets =
      (new command deprecateEof options').sights ctx placed' packets :=
  sights_eq_of_bare (by rw [bare_new, bare_new]) placed placed' packets

end Reader

end SqlWire
