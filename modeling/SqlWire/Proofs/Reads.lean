import SqlWire.Exchange.Failover
import SqlWire.Proofs.Journal.Reader

/-!
# Readings

A reading takes packets one by one until the reader suspends or is done, as `readUntil` does with
those that it gets (`reads_of_readUntil`). It goes on with the kind of response that it began with,
and without a fetch size it goes to the end. What a reader makes of a packet does not depend on the
session that it brings up to date, so the packets alone determine a reading (`Reads.unique`).
-/

namespace SqlWire

open Net (Env)
open Exchange (Stop)

namespace Reader

open Session (Context)

/-- A reader takes packets one by one until it suspends or is done; it leaves those behind. -/
inductive Reads : Reader → List ByteArray → Reader → Stop → List ByteArray → Prop where
  | done {r : Reader} {packets : List ByteArray} : r.isDone = true → Reads r packets r .done packets
  | suspended {r r' : Reader} {ctx ctx' : Context} {packet : ByteArray}
      {packets : List ByteArray} : r.isDone = false →
      step packet (r, ctx) = .ok .suspended (r', ctx') →
      Reads r (packet :: packets) r' .suspended packets
  | next {r r' r'' : Reader} {ctx ctx' : Context} {wanted : ReadStep} {packet : ByteArray}
      {packets left : List ByteArray} {stop : Stop} : r.isDone = false →
      step packet (r, ctx) = .ok wanted (r', ctx') → wanted ≠ .suspended →
      Reads r' packets r'' stop left → Reads r (packet :: packets) r'' stop left

variable {r r' : Reader} {packets left : List ByteArray} {stop : Stop}

/-- Reading goes on with the kind of response that it began with. -/
theorem Reads.kind (reads : r.Reads packets r' stop left) : r'.kind = r.kind := by
  induction reads with
  | done => rfl
  | suspended _ step => exact kind_step step
  | next _ step _ _ ih => exact ih.trans (kind_step step)

/-- A reader without a fetch size reads to the end. -/
theorem Reads.stop_eq_done (reads : r.Reads packets r' stop left) (whole : r.fetchSize = 0) :
    stop = .done := by
  induction reads with
  | done => rfl
  | suspended _ step => exact absurd step (((calm_step _).whole whole).2 _)
  | next _ step _ _ ih => exact ih (fetchSize_step whole step)

/-! ## What a step depends on -/

/-- What a step wants next, and the reader behind it. -/
def outcome : Result → Option (ReadStep × Reader)
  | .ok wanted (r, _) => some (wanted, r)
  | .error _ _ => none

theorem outcome_firstOfPrepare (packet : Bytes) (ctx ctx' : Context) :
    outcome (r.firstOfPrepare packet ctx) = outcome (r.firstOfPrepare packet ctx') := by
  unfold firstOfPrepare
  split
  · split <;> rfl
  · rfl

theorem outcome_firstOfResult (packet : Bytes) (ctx ctx' : Context) :
    outcome (r.firstOfResult packet ctx) = outcome (r.firstOfResult packet ctx') := by
  unfold firstOfResult
  split
  · rfl
  · split
    · split <;> rfl
    · split
      · rfl
      · split
        · rfl
        · split <;> rfl

theorem outcome_row (payload : ByteArray) (ctx ctx' : Context) :
    outcome (r.row payload ctx) = outcome (r.row payload ctx') := by
  unfold row
  split
  · split <;> rfl
  · dsimp only
    split
    · rfl
    · split <;> split <;> rfl

theorem outcome_definition (packet : Bytes) (ctx ctx' : Context) (add : Column → Pending → Pending)
    (next : Reader → Stage) :
    outcome (r.definition packet ctx add next) = outcome (r.definition packet ctx' add next) := by
  unfold definition
  split
  · rfl
  · split <;> rfl

theorem outcome_definitionsEnd (packet : Bytes) (ctx ctx' : Context) (next : Reader) :
    outcome (r.definitionsEnd packet ctx next) = outcome (r.definitionsEnd packet ctx' next) := by
  unfold definitionsEnd
  split <;> rfl

theorem outcome_column (packet : Bytes) (ctx ctx' : Context) (remaining : Nat) :
    outcome (r.column packet ctx remaining) = outcome (r.column packet ctx' remaining) := by
  unfold Reader.column
  split <;> rfl

theorem outcome_accept (payload : ByteArray) (ctx ctx' : Context) :
    outcome (r.accept payload ctx) = outcome (r.accept payload ctx') := by
  unfold accept
  dsimp only
  split
  · split
    · exact outcome_firstOfPrepare ..
    · exact outcome_firstOfResult ..
  · exact outcome_column ..
  · exact outcome_definitionsEnd ..
  · exact outcome_row ..
  · exact outcome_definition ..
  · exact outcome_definitionsEnd ..
  · exact outcome_definition ..
  · exact outcome_definitionsEnd ..
  · rfl

/-- What a reader makes of a packet does not depend on the session. -/
theorem outcome_step (payload : ByteArray) (ctx ctx' : Context) :
    outcome (step payload (r, ctx)) = outcome (step payload (r, ctx')) := by
  unfold step
  dsimp only
  split
  · split <;> rfl
  · exact outcome_accept ..

/-- The same packets are read in the same way. -/
theorem Reads.unique {left₁ left₂ : List ByteArray} {r₁ r₂ : Reader} {stop₁ stop₂ : Stop}
    (h : r.Reads packets r₁ stop₁ left₁) (h' : r.Reads packets r₂ stop₂ left₂) :
    r₁ = r₂ ∧ stop₁ = stop₂ ∧ left₁ = left₂ := by
  -- Two steps with one packet, whatever the sessions.
  have same {r r₁ r₂ : Reader} {packet : ByteArray} {ctx ctx' ctx₁ ctx₂ : Context}
      {wanted wanted' : ReadStep} (step : Reader.step packet (r, ctx) = .ok wanted (r₁, ctx₁))
      (step' : Reader.step packet (r, ctx') = .ok wanted' (r₂, ctx₂)) : wanted = wanted' ∧ r₁ = r₂ := by
    have outcomes := outcome_step (r := r) packet ctx ctx'
    rw [step, step'] at outcomes
    exact Prod.mk.inj (Option.some_inj.mp outcomes)
  induction h with
  | done done =>
    cases h' with
    | done => exact ⟨rfl, rfl, rfl⟩
    | suspended going | next going => cases going.symm.trans done
  | suspended going step =>
    cases h' with
    | done done => cases going.symm.trans done
    | suspended _ step' => exact ⟨(same step step').2, rfl, rfl⟩
    | next _ step' more => exact absurd (same step step').1.symm more
  | next going step more _ ih =>
    cases h' with
    | done done => cases going.symm.trans done
    | suspended _ step' => exact absurd (same step step').1 more
    | next _ step' _ reads =>
      obtain ⟨-, rfl⟩ := same step step'
      exact ih reads

end Reader

namespace Exchange

variable {env : Env} {command : Command} {mark : Mark} {options : StatementOptions}
  {reader reader' : Reader} {stop : Stop} {c c' : Client}

/-- What is read until a reader stops is a reading of some packets. -/
theorem reads_of_readUntil (read : readUntil env command reader c = .ok (reader', stop) c') :
    ∃ packets left, reader.Reads packets reader' stop left := by
  fun_induction readUntil env command reader c with
  | case1 reader c done =>
    cases read
    exact ⟨[], [], .done done⟩
  | case2 | case3 | case5 => cases read
  | case4 reader c more payload c₁ _ reader₁ ctx step =>
    cases read
    exact ⟨[payload], [], .suspended (Bool.not_eq_true _ ▸ more) step⟩
  | case6 reader c more payload c₁ _ name reader₁ ctx step c₂ _ ih
  | case7 reader c more payload c₁ _ reader₁ ctx step ih
  | case8 reader c more payload c₁ _ reader₁ ctx step ih =>
    obtain ⟨packets, left, reads⟩ := ih read
    exact ⟨payload :: packets, left, .next (Bool.not_eq_true _ ▸ more) step nofun reads⟩

theorem kind_of_readUntil (read : readUntil env command reader c = .ok (reader', stop) c') :
    reader'.kind = reader.kind := by
  obtain ⟨packets, left, reads⟩ := reads_of_readUntil read
  exact reads.kind

theorem stop_of_readUntil (whole : reader.fetchSize = 0)
    (read : readUntil env command reader c = .ok (reader', stop) c') : stop = .done := by
  obtain ⟨packets, left, reads⟩ := reads_of_readUntil read
  exact reads.stop_eq_done whole

/-- What a response gives is what its reader finishes with. -/
theorem finish_of_finishResponse {response : Response}
    (h : finishResponse command reader c = .ok response c') : reader.finish = .ok (.ok response) := by
  unfold finishResponse at h
  split at h
  · cases h
  · next result finish =>
    dsimp only at h
    split at h
    · cases h
    · next verdict =>
      cases h
      unfold Exchange.verdict at verdict
      split at verdict
      · cases verdict
      · cases verdict
      · cases verdict
        exact finish

/-- Only the response to a prepare gives a statement. -/
theorem isPrepare_of_prepared {statement : PreparedStatement}
    (h : readFor env command mark options c = .ok (.prepared statement) c') :
    isPrepare command = true := by
  unfold readFor at h
  dsimp only at h
  split at h
  · cases h
  · cases h
  · next reader c₁ read =>
    have kind : reader.kind = command.responseKind := kind_of_readUntil read
    rw [Reader.kind_of_finish (finish_of_finishResponse h)] at kind
    cases command <;> first | rfl | cases kind

end Exchange

end SqlWire
