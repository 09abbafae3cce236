import SqlWire.Result.Reader
import SqlWire.Run

/-!
# What a reader leaves alone

A reader brings the status and the warnings of the session up to date; the rest, such as the redo log,
is not its business. It goes on reading the kind of response that it has begun, and without a fetch
size it reads results as a whole.
-/

namespace SqlWire.Reader

open Session (Context)

/-- The same session, of which the server has reported something since. -/
def Updated (ctx ctx' : Context) : Prop := ∃ status warnings, ctx' = { ctx with status, warnings }

/-- A step keeps all but what the server reports and the kind of response, and does not suspend a
reader without a fetch size. -/
structure Calm (r : Reader) (ctx : Context) (result : Result) : Prop where
  updated : Updated ctx result.state.2
  kind : result.state.1.kind = r.kind
  whole : r.fetchSize = 0 → result.state.1.fetchSize = 0 ∧ ∀ s, result ≠ .ok .suspended s

variable {r r' : Reader} {ctx ctx' : Context}

theorem Calm.redo {result : Result} (h : Calm r ctx result) : result.state.2.redo = ctx.redo := by
  obtain ⟨_, _, eq⟩ := h.updated
  rw [eq]

theorem Updated.refl : Updated ctx ctx := ⟨_, _, rfl⟩

theorem Calm.error {fault : ProtocolFault} (updated : Updated ctx ctx') (kind : r'.kind = r.kind)
    (size : r.fetchSize = 0 → r'.fetchSize = 0) : Calm r ctx (.error fault (r', ctx')) :=
  ⟨updated, kind, fun whole => ⟨size whole, fun _ => nofun⟩⟩

theorem Calm.ok {step : ReadStep} (updated : Updated ctx ctx') (kind : r'.kind = r.kind)
    (size : r.fetchSize = 0 → r'.fetchSize = 0) (step_ne : r.fetchSize = 0 → step ≠ .suspended) :
    Calm r ctx (.ok step (r', ctx')) :=
  ⟨updated, kind, fun whole => ⟨size whole, fun _ eq => step_ne whole (by injection eq)⟩⟩

theorem needPacket_ne : ReadStep.needPacket ≠ .suspended := by decide

theorem localFile_ne (name : String) : ReadStep.localFile name ≠ .suspended := by
  intro eq
  cases eq

theorem progress_ne (r : Reader) : r.progress ≠ .suspended := by
  unfold progress
  split <;> exact nofun

theorem calm_firstOfPrepare (packet : Bytes) : Calm r ctx (r.firstOfPrepare packet ctx) := by
  unfold firstOfPrepare
  split
  · split
    · exact .error .refl rfl id
    · exact .ok ⟨_, _, rfl⟩ rfl id fun _ => progress_ne _
  · exact .error .refl rfl id

theorem calm_firstOfResult (packet : Bytes) : Calm r ctx (r.firstOfResult packet ctx) := by
  unfold firstOfResult
  split
  · exact .error .refl rfl id
  · split
    · split
      · exact .error .refl rfl id
      · exact .ok ⟨_, _, rfl⟩ rfl id fun _ => progress_ne _
    · split
      · exact .ok ⟨_, _, rfl⟩ rfl id fun _ => localFile_ne _
      · split
        · exact .error .refl rfl id
        · split
          · exact .error .refl rfl id
          · exact .ok ⟨_, _, rfl⟩ rfl id fun _ => needPacket_ne

theorem fetchSize_endRows (more : Bool) (whole : r.fetchSize = 0) :
    (r.endRows more).fetchSize = 0 := by
  simp only [endRows, afterCompletion]
  split
  · rfl
  · exact whole

theorem calm_row (payload : ByteArray) : Calm r ctx (r.row payload ctx) := by
  unfold row
  split
  · split
    · exact .error .refl rfl id
    · exact .ok ⟨_, _, rfl⟩ rfl (fetchSize_endRows _) fun _ => progress_ne _
  · dsimp only
    split
    · exact .error .refl rfl id
    · -- Whether the row is kept makes no difference; only a full fetch suspends.
      split <;> split
      case isTrue.isTrue full | isFalse.isTrue full =>
        exact .ok ⟨_, _, rfl⟩ rfl id fun whole => by simp [whole] at full
      case isTrue.isFalse | isFalse.isFalse => exact .ok ⟨_, _, rfl⟩ rfl id fun _ => needPacket_ne

theorem calm_definition (packet : Bytes) (add : Column → Pending → Pending) (next : Reader → Stage) :
    Calm r ctx (r.definition packet ctx add next) := by
  unfold definition
  split
  · exact .error .refl rfl id
  · split
    · exact .error .refl rfl id
    · exact .ok ⟨_, _, rfl⟩ rfl id fun _ => progress_ne _

theorem calm_definitionsEnd (packet : Bytes) (kind : r'.kind = r.kind)
    (size : r.fetchSize = 0 → r'.fetchSize = 0) : Calm r ctx (r.definitionsEnd packet ctx r') := by
  unfold definitionsEnd
  split
  · exact .error .refl rfl id
  · exact .ok .refl kind size fun _ => progress_ne _

theorem calm_column (packet : Bytes) (remaining : Nat) :
    Calm r ctx (r.column packet ctx remaining) := by
  unfold column
  split
  · exact .error .refl rfl id
  · refine .ok .refl ?_ (fun whole => ?_) fun _ => needPacket_ne
    · split
      · rfl
      · split <;> rfl
    · split
      · exact whole
      · split <;> exact whole

theorem calm_accept (payload : ByteArray) : Calm r ctx (r.accept payload ctx) := by
  unfold accept
  split
  case h_1 =>
    split
    · exact calm_firstOfPrepare _
    · exact calm_firstOfResult _
  case h_2 => exact calm_column ..
  case h_3 => exact calm_definitionsEnd _ rfl id
  case h_4 => exact calm_row _
  case h_5 => exact calm_definition ..
  case h_6 => exact calm_definitionsEnd _ rfl id
  case h_7 => exact calm_definition ..
  case h_8 => exact calm_definitionsEnd _ rfl id
  case h_9 => exact .error .refl rfl id

theorem calm_step (payload : ByteArray) : Calm r ctx (step payload (r, ctx)) := by
  dsimp only [step]
  split
  · split
    · exact .error .refl rfl id
    · exact .ok ⟨_, _, rfl⟩ rfl id fun _ => nofun
  · exact calm_accept payload

theorem fetchSize_step {payload : ByteArray} {next : ReadStep} (whole : r.fetchSize = 0)
    (h : step payload (r, ctx) = .ok next (r', ctx')) : r'.fetchSize = 0 := by
  have calm : Calm r ctx (step payload (r, ctx)) := calm_step payload
  rw [h] at calm
  exact (calm.whole whole).1

theorem kind_step {payload : ByteArray} {next : ReadStep}
    (h : step payload (r, ctx) = .ok next (r', ctx')) : r'.kind = r.kind := by
  have calm : Calm r ctx (step payload (r, ctx)) := calm_step payload
  rw [h] at calm
  exact calm.kind

/-- Only the response to a prepare gives a statement. -/
theorem kind_of_finish {statement : PreparedStatement}
    (h : r.finish = .ok (.ok (.prepared statement))) : r.kind = .prepare := by
  unfold finish at h
  split at h
  · cases h
  · split at h
    · cases h
    · split at h
      · cases h
      · next kind => exact kind
      · cases h
      · cases h

end SqlWire.Reader
