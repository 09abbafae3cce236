import SqlWire.Proofs.Statements.Answers

/-!
# Deals and the journal

The journal of a client has each command that closes an id, and each prepare and each reset that the
server accepted. `Recorded news deals` says that these are the ones among the deals; it holds for the deals
of any run (`Client.Deals.recorded`), so a run determines which ids it closes, how many it is given and
how often the server takes all of them away.
-/

namespace SqlWire

open EStateM (Result)
open Net (Env)

variable {env : Env} {command : Command} {start c c' c₁ : Client} {new deals : List Deal}
  {news : Journal}

namespace Journal

/-- The id that a command closes. -/
def closes? : Command → Option UInt32
  | .closeStatement id => some id
  | _ => none

def closings (journal : Journal) : List UInt32 := journal.sent.filterMap closes?

/-- Commands about statements that the server has accepted. -/
structure Accepted where
  /-- The next answer is a refusal. -/
  refusing : Bool
  prepares : Nat
  resets : Nat

def Accepted.after (accepted : Accepted) : Event → Accepted
  | .refused _ => { accepted with refusing := true }
  | .answered command _ =>
    if accepted.refusing then { accepted with refusing := false }
    else match command with
      | .prepare _ => { accepted with prepares := accepted.prepares + 1 }
      | .resetConnection => { accepted with resets := accepted.resets + 1 }
      | _ => accepted
  | _ => accepted

/-- How many statements the server has prepared, and how often it has taken all of them away. -/
def accepted (journal : Journal) : Accepted := journal.foldl Accepted.after ⟨false, 0, 0⟩

end Journal

open Journal (Accepted)

def Deal.closed? : Deal → Option UInt32
  | closed id _ => some id
  | _ => none

/-- The deals are those that the journal tells of. -/
structure Recorded (news : Journal) (deals : List Deal) : Prop where
  closings : news.closings = deals.filterMap Deal.closed?
  accepted : ∀ prepares resets, news.foldl Accepted.after ⟨false, prepares, resets⟩ =
    ⟨false, prepares + deals.countP Deal.isReturned, resets + deals.countP Deal.isReset⟩

namespace Recorded

theorem nil : Recorded [] [] := ⟨rfl, fun _ _ => rfl⟩

theorem append {news' : Journal} {new : List Deal} (h : Recorded news deals) (h' : Recorded news' new) :
    Recorded (news ++ news') (deals ++ new) where
  closings := by
    unfold Journal.closings Journal.sent at *
    rw [List.filterMap_append, List.filterMap_append, List.filterMap_append, ← h.closings,
      ← h'.closings]
    unfold Journal.closings Journal.sent
    rfl
  accepted prepares resets := by
    rw [List.foldl_append, h.accepted, h'.accepted, List.countP_append, List.countP_append,
      Nat.add_assoc, Nat.add_assoc]

/-- Whoever reads a part of a response makes no deals. -/
theorem of_reading {finish : Option Error} (allowed : ∀ event ∈ news, Duty.reading.allows event finish) :
    Recorded news [] := by
  induction news with
  | nil => exact .nil
  | cons event news ih =>
    have others := ih fun event mem => allowed event (.tail _ mem)
    cases event with
    | failed e => exact ⟨others.closings, others.accepted⟩
    | _ => exact nomatch allowed _ (.head _)

theorem prepares (h : Recorded news deals) :
    news.accepted.prepares = deals.countP Deal.isReturned :=
  (congrArg Accepted.prepares (h.accepted 0 0)).trans (Nat.zero_add _)

theorem resets (h : Recorded news deals) : news.accepted.resets = deals.countP Deal.isReset :=
  (congrArg Accepted.resets (h.accepted 0 0)).trans (Nat.zero_add _)

theorem few (h : Recorded news deals) (few : news.accepted.prepares < UInt32.size - 1) :
    Deal.Few deals := by
  rwa [h.prepares] at few

end Recorded

theorem Reader.prepared_of_finish {r : Reader} {response : Response} (kind : r.kind = .prepare)
    (finish : r.finish = .ok (.ok response)) : ∃ statement, response = .prepared statement := by
  unfold Reader.finish at finish
  rw [kind] at finish
  split at finish
  · cases finish
  · split at finish
    · cases finish
    · dsimp only at finish
      split at finish <;> cases finish
      exact ⟨_, rfl⟩

namespace Exchange

/-- A refusal makes no deal. -/
theorem recorded_refused {e : Error} {inTransaction : Bool} :
    Recorded [.refused e, .answered command inTransaction] [] where
  closings := rfl
  accepted _ _ := rfl

/-- An answer without a statement is recorded as a reset or not at all. -/
theorem recorded_answered {inTransaction : Bool} (other : isPrepare command = false) :
    Recorded [.answered command inTransaction] (if command = .resetConnection then [.reset] else []) := by
  cases command with
  | prepare sql => cases other
  | _ => exact ⟨rfl, fun _ _ => rfl⟩

theorem recorded_returned {id : UInt32} {inTransaction : Bool} (prepares : isPrepare command = true) :
    Recorded [.answered command inTransaction] [.returned id] := by
  cases command with
  | prepare sql => exact ⟨rfl, fun _ _ => rfl⟩
  | _ => cases prepares

/-- The end of a response, with the deal that it makes. -/
theorem recorded_finishResponse {reader : Reader} {result : Except ServerError Response}
    (kind : reader.kind = command.responseKind) (finish : reader.finish = .ok result)
    (whole : isPrepare command = true → c.infileError = none) :
    ∃ news, (finishResponse command reader c).state.journal = c.journal ++ news ∧
      Recorded news (Deal.answered command c.infileError result) ∧
      (finishResponse command reader c).state.infileError = none := by
  have prepare {statement : PreparedStatement} (prepared : result = .ok (.prepared statement)) :
      isPrepare command = true :=
    isPrepare_of_kind (kind.symm.trans (Reader.kind_of_finish (prepared ▸ finish)))
  unfold finishResponse
  rw [finish]
  dsimp only
  cases gave : verdict c.infileError result with
  | error e =>
    have none : Deal.answered command c.infileError result = [] := by
      cases result with
      | error e => rfl
      | ok response =>
        cases infile : c.infileError with
        | none =>
          rw [infile] at gave
          cases gave
        | some e =>
          cases response with
          | prepared statement => cases infile.symm.trans (whole (prepare rfl))
          | none | completions _ => simp [Deal.answered]
    exact ⟨[.refused e, .answered command _], List.append_assoc .., none ▸ recorded_refused, rfl⟩
  | ok response =>
    obtain ⟨infile, rfl⟩ : c.infileError = none ∧ result = .ok response := by
      unfold verdict at gave
      split at gave <;> cases gave
      exact ⟨‹_›, rfl⟩
    refine ⟨[.answered command _], rfl, ?_, rfl⟩
    cases prepares : isPrepare command with
    | true =>
      obtain ⟨statement, rfl⟩ :=
        Reader.prepared_of_finish (kind.trans (kind_of_isPrepare prepares)) finish
      exact recorded_returned prepares
    | false =>
      cases response with
      | prepared statement => cases (prepare rfl).symm.trans prepares
      | none | completions _ =>
        unfold Deal.answered
        rw [infile]
        simpa using recorded_answered prepares

end Exchange

/-! ## Runs -/

/-- A step is recorded. Nothing keeps a response back behind it. -/
theorem Client.Step.recorded (step : c.Step env new c') (infile : c.infileError = none) :
    ∃ news, c'.journal = c.journal ++ news ∧ Recorded news new ∧ c'.infileError = none := by
  cases step with
  | aside aside =>
    cases aside with
    | known _ _ _ same journal =>
      rcases journal with journal | journal
      · exact ⟨[], journal.trans (List.append_nil _).symm, .nil, same.trans infile⟩
      · exact ⟨[.reset], journal, ⟨rfl, fun _ _ => rfl⟩, same.trans infile⟩
    | cached | restored | limited | world | closed => exact ⟨[], (List.append_nil _).symm, .nil, infile⟩
  | @sent _ command mark sent =>
    refine ⟨[.sent command], (Exchange.send_ok sent).journal, ⟨?_, ?_⟩, ?_⟩
    · cases command <;> rfl
    · cases command <;> exact fun _ _ => rfl
    · have same : (Exchange.send env command c).state.infileError = c.infileError :=
        Exchange.infileError_send
      rw [sent] at same
      exact same.trans infile
  | @unsent _ command e unsent =>
    obtain ⟨news, accounted, allowed⟩ := Exchange.send_error unsent
    have same : (Exchange.send env command c).state.infileError = c.infileError :=
      Exchange.infileError_send
    rw [unsent] at same
    exact ⟨news, accounted.journal, .of_reading allowed, same.trans infile⟩
  | @answered c₁ command reader reader' result begins read finish =>
    obtain ⟨news, accounted, allowed⟩ := Exchange.notes_readUntil.result read
    have kind : reader'.kind = command.responseKind :=
      (Exchange.kind_of_readUntil read).trans begins.kind
    have whole : Exchange.isPrepare command = true → c₁.infileError = none := fun prepares =>
      (Exchange.done_of_readUntil (begins.kind.trans (Exchange.kind_of_isPrepare prepares))
        begins.isPrepared read).2.trans infile
    obtain ⟨news', journal, recorded, none⟩ := Exchange.recorded_finishResponse kind finish whole
    refine ⟨news ++ news', ?_, (Recorded.of_reading allowed).append recorded, none⟩
    rw [journal, show c₁.journal = _ from accounted.journal, List.append_assoc]

/-- What happened on the connection since the client was at `start`. -/
def Client.since (c start : Client) : Journal := c.journal.drop start.journal.length

/-- The deals of a run are those that its journal tells of. -/
theorem Client.Deals.recorded (dealt : start.Deals env deals c) (infile : start.infileError = .none) :
    Recorded (c.since start) deals := by
  have records : ∃ news, c.journal = start.journal ++ news ∧ Recorded news deals ∧
      c.infileError = .none := by
    induction dealt with
    | none => exact ⟨[], (List.append_nil _).symm, .nil, infile⟩
    | more dealt step ih =>
      obtain ⟨news, journal, recorded, infile⟩ := ih
      obtain ⟨news', journal', recorded', infile'⟩ := step.recorded infile
      exact ⟨news ++ news', by rw [journal', journal, List.append_assoc], recorded.append recorded',
        infile'⟩
  obtain ⟨news, journal, recorded, _⟩ := records
  rwa [since, journal, List.drop_left]

end SqlWire
