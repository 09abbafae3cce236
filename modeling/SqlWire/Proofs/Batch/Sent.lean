import SqlWire.Proofs.Batch.Items
import SqlWire.Proofs.Redo.Replay
import SqlWire.Proofs.Undisturbed

/-!
# What a batch has sent

A batch that succeeds has sent each of its commands, in order, whether ahead or one by one, as long as
it prepares no statements: with these, others may be closed (`sent_runBatch`).
-/

namespace SqlWire.Exchange

open Net (Env)

variable {α : Type} {env : Env} {command : Command} {commands : List Command} {mark : Mark}
  {options : StatementOptions} {c c' : Client} {response : Response}

theorem sent_send (h : send env command c = .ok mark c') :
    c'.journal.sent = c.journal.sent ++ [command] := by
  rw [(send_ok h).journal, Journal.sent_append]
  rfl

theorem sent_receive (other : isPrepare command = false)
    (h : (readFor env command mark options >>= complete env) c = .ok response c') :
    c'.journal.sent = c.journal.sent := by
  rw [receive_eq_readFor other] at h
  exact sent_of_noted (notes_readFor.result h)

theorem sent_executeOnce (other : isPrepare command = false)
    (h : executeOnce env command options c = .ok response c') :
    c'.journal.sent = c.journal.sent ++ [command] := by
  obtain ⟨mark, c₁, sent, received⟩ := EStateM.ok_of_bind h
  rw [sent_receive other received, sent_send sent]

/-- Items that all succeed send what each of them sends. -/
theorem sent_attempts {attempt : α → EStateM Error Client Response} (sends : α → List Command)
    {items : List α} {ends : List (Except Error Response)}
    (each : ∀ item ∈ items, ∀ {c c' response}, attempt item c = .ok response c' →
      c'.journal.sent = c.journal.sent ++ sends item)
    (h : Attempts attempt c items ends c') (good : ∀ e, .error e ∉ ends) :
    c'.journal.sent = c.journal.sent ++ items.flatMap sends := by
  induction h with
  | done => exact (List.append_nil _).symm
  | @answered c c₁ c' item items response ends ran _ ih =>
    have rest := ih (fun item mem => each item (.tail _ mem)) fun e mem => good e (.tail _ mem)
    rw [rest, each item (.head _) ran, List.flatMap_cons, List.append_assoc]
  | failed | broke => exact absurd (.head _) (good _)

theorem sent_sends {sent : List (Command × Mark)} (h : Sends env c commands sent none c') :
    c'.journal.sent = c.journal.sent ++ commands ∧ sent.map Prod.fst = commands := by
  generalize unsent : (none : Option Error) = none' at h
  induction h with
  | all => exact ⟨(List.append_nil _).symm, rfl⟩
  | @sent c c₁ c' command commands mark sent unsent' ran _ ih =>
    obtain ⟨journal, eq⟩ := ih unsent
    rw [journal, sent_send ran, List.append_assoc, List.map_cons, eq]
    exact ⟨rfl, rfl⟩
  | stopped => cases unsent

theorem sent_proceeds {ends : List (Except Error Response)}
    (other : ∀ command ∈ commands, isPrepare command = false)
    (h : Proceeds env options c commands ends none c') (good : ∀ e, .error e ∉ ends) :
    c'.journal.sent = c.journal.sent ++ commands := by
  cases h with
  | sequential _ attempts =>
    rw [sent_attempts ([·]) (fun command mem => sent_executeOnce (other command mem))
      attempts good, List.flatMap_singleton']
  | @pipelined sent _ _ c₁ _ _ sends attempts =>
    obtain ⟨journal, rfl⟩ := sent_sends sends
    rw [← journal, sent_attempts (fun _ => []) (fun item mem c c' response received => ?_)
      attempts good, List.flatMap_eq_nil_iff.mpr fun _ _ => rfl, List.append_nil]
    rw [List.append_nil]
    exact sent_receive (other _ (List.mem_map_of_mem mem)) received

theorem sent_runBatch {result : Array BatchOutcome × Array Completion}
    (other : ∀ command ∈ commands, isPrepare command = false) (clear : Clear c)
    (h : runBatch env commands options c = .ok result c') :
    c'.journal.sent = c.journal.sent ++ commands := by
  have settled : settle env c = .ok () c := settle_of_clear clear
  obtain ⟨ends, unsent, c₂, completions, proceeds, ran⟩ :=
    runBatch_proceeds commands options settled
  rw [ran] at h
  -- What had kept an item from its end would be the cause of a failure.
  cases cause : (unsent <|> ends.findSome? Batch.failure?) with
  | some e =>
    rw [cause] at h
    cases h
  | none =>
    rw [cause] at h
    cases h
    cases unsent with
    | some e => cases cause
    | none =>
      refine sent_proceeds other proceeds fun e mem => ?_
      have ended : Batch.failure? (.error e) = none := List.findSome?_eq_none_iff.mp cause _ mem
      cases ended

end SqlWire.Exchange
