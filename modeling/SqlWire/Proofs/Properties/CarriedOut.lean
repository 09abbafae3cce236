import Mathlib.Data.List.Basic
import SqlWire.Proofs.Properties.Calm
import SqlWire.Proofs.Redo.OneByOne

/-!
# What a session has carried out

`Journal.carriedOut` is the list of commands that the present session has answered without refusing
them, in order. A session that is opened has carried out nothing yet.

A call that succeeds on a client that holds nothing back `Obeys`: it either loses its session, or the
session carries out exactly the commands of the call. Setting properties asks for their commands, one
after the other (`obeys_setProperties`); `carriedOut_reset` is what a reset asks for.
-/

namespace SqlWire

open EStateM (Result)
open Net (Env)
open Session (Known Property)

variable {α : Type} {env : Env} {command : Command} {mark : Mark} {commands commands' : List Command}
  {property : Property} {sets sets' : List Property} {c c' c'' c₁ : Client}

namespace Journal

/-- What a session has done for its client. -/
structure Service where
  /-- The next answer is a refusal. -/
  refusing : Bool
  carriedOut : List Command

namespace Service

def after (service : Service) : Event → Service
  | .opened => ⟨false, []⟩
  | .sent _ => { service with refusing := false }
  | .refused _ => { service with refusing := true }
  | .answered command _ =>
    ⟨false, if service.refusing then service.carriedOut else service.carriedOut ++ [command]⟩
  | .failed _ | .lost | .adopted | .replaying | .stranded _ | .reset => service

end Service

def service (journal : Journal) : Service := journal.foldl Service.after ⟨false, []⟩

/-- The commands that the session has carried out. -/
def carriedOut (journal : Journal) : List Command := journal.service.carriedOut

theorem service_append (journal news : Journal) :
    service (journal ++ news) = news.foldl Service.after journal.service := List.foldl_append

end Journal

open Journal (Service)

/-- What a command adds to the commands that were carried out. -/
def Command.carried (command : Command) : Except Error α → List Command
  | .ok _ => [command]
  | .error _ => []

/-- The run is for a command, which is carried out exactly if the run does not fail. -/
def Carries (command : Command) (run : EStateM Error Client Response) (c : Client) : Prop :=
  Yields run c fun given c' =>
    c'.journal.carriedOut = c.journal.carriedOut ++ command.carried given

/-! ## One command -/

theorem service_of_reading {r : Result Error Client α} (h : Noted .reading c r) :
    r.state.journal.service = c.journal.service := by
  obtain ⟨news, accounted, allowed⟩ := h
  rw [accounted.journal, Journal.service_append]
  exact Journal.foldl_of_reading (fun _ _ => rfl) allowed _

namespace Exchange

theorem service_send (sent : send env command c = .ok mark c') :
    c'.journal.service = { c.journal.service with refusing := false } := by
  rw [(send_ok sent).journal, Journal.service_append]
  rfl

theorem carries_finishResponse {reader : Reader} (accepting : c.journal.service.refusing = false) :
    Carries command (finishResponse command reader) c := by
  unfold finishResponse Carries Yields
  cases reader.finish with
  | error fault =>
    show Service.carriedOut (Journal.service (c.journal ++ [.failed _])) = _
    rw [Journal.service_append]
    exact (List.append_nil _).symm
  | ok result =>
    dsimp only
    cases verdict c.infileError result with
    | error e =>
      show Service.carriedOut (Journal.service (c.journal ++ [.refused e] ++ [.answered ..])) = _
      rw [Journal.service_append, Journal.service_append]
      exact (List.append_nil _).symm
    | ok response =>
      show Service.carriedOut (Journal.service (c.journal ++ [.answered ..])) = _
      rw [Journal.service_append]
      show (if c.journal.service.refusing then _ else _) = _
      rw [accepting]
      rfl

theorem carries_readFor (accepting : c.journal.service.refusing = false) :
    Carries command (readFor env command mark {}) c := by
  unfold readFor Carries Yields
  dsimp only
  cases read : readUntil env command (.new command c.ctx.deprecateEof {})
      { c with channel := c.channel.restore mark } with
  | error e c₁ =>
    have same := service_of_reading (notes_readUntil.result read)
    exact (congrArg Service.carriedOut same).trans (List.append_nil _).symm
  | ok result c₁ =>
    obtain ⟨reader, stop⟩ := result
    have same : c₁.journal.service = c.journal.service :=
      service_of_reading (notes_readUntil.result read)
    cases stop with
    | suspended => cases stop_of_readUntil rfl read
    | done =>
      have finished : Carries command (finishResponse command reader) c₁ :=
        carries_finishResponse (by rw [same, accepting])
      unfold Carries Journal.carriedOut at finished
      unfold Journal.carriedOut
      rwa [same] at finished

theorem carries_executeOnce (other : isPrepare command = false) :
    Carries command (executeOnce env command {}) c := by
  cases sent : send env command c with
  | error e c₁ =>
    refine .of_error (EStateM.bind_of_error sent) ?_
    have same := service_of_reading (send_error sent)
    exact (congrArg Service.carriedOut same).trans (List.append_nil _).symm
  | ok mark c₁ =>
    have before := service_send sent
    have reading : Carries command (readFor env command mark {}) c₁ :=
      carries_readFor (by rw [before])
    unfold Carries Journal.carriedOut at reading ⊢
    rw [before] at reading
    refine .of_eq (EStateM.bind_of_ok sent) ?_
    cases read : readFor env command mark {} c₁ with
    | error e c₂ => exact .of_error (EStateM.bind_of_error read) (reading.failure read)
    | ok response c₂ =>
      cases response with
      | prepared statement => cases other.symm.trans (isPrepare_of_prepared read)
      | none | completions _ =>
        exact .of_ok (EStateM.bind_of_ok read) (reading.result read)

end Exchange

/-! ## Runs on one session -/

/-- A session of this connection was lost. -/
def Client.HasLost (c : Client) : Prop := Event.lost ∈ c.journal

theorem Noted.hasLost {duty : Duty} {r : Result Error Client α} (h : Noted duty c r)
    (before : c.HasLost) : r.state.HasLost := by
  obtain ⟨news, accounted, _⟩ := h
  unfold Client.HasLost
  rw [accounted.journal]
  exact List.mem_append_left news before

/-- The session has carried out these commands, and these properties were recorded. -/
structure Performed (commands : List Command) (sets : List Property) (c c' : Client) : Prop where
  streaming : c'.streaming = c.streaming
  unread : c'.unread = c.unread
  version : c'.ctx.version = c.ctx.version
  known : c'.ctx.known = sets.foldl Known.record c.ctx.known
  carriedOut : c'.journal.carriedOut = c.journal.carriedOut ++ commands

namespace Performed

theorem of_undisturbed (h : Undisturbed c c')
    (carriedOut : c'.journal.carriedOut = c.journal.carriedOut ++ commands) :
    Performed commands [] c c' where
  streaming := h.streaming
  unread := h.unread
  version := by
    obtain ⟨_, _, _, ctx⟩ := h.ctx
    rw [ctx]
  known := h.overlooked (r := SameKnown)
  carriedOut := carriedOut

theorem trans (h : Performed commands sets c c') (h' : Performed commands' sets' c' c'') :
    Performed (commands ++ commands') (sets ++ sets') c c'' where
  streaming := h'.streaming.trans h.streaming
  unread := h'.unread.trans h.unread
  version := h'.version.trans h.version
  known := by rw [h'.known, h.known, List.foldl_append]
  carriedOut := by rw [h'.carriedOut, h.carriedOut, List.append_assoc]

end Performed

/-- From a client that holds nothing back, the session has performed this, unless one was lost. -/
structure Obeys (commands : List Command) (sets : List Property) (c c' : Client) : Prop where
  lost : c.HasLost → c'.HasLost
  performed : c.streaming = none → c.unread = [] → c'.HasLost ∨ Performed commands sets c c'

namespace Obeys

theorem of_performed (lost : c.HasLost → c'.HasLost) (performed : Performed commands sets c c') :
    Obeys commands sets c c' := ⟨lost, fun _ _ => .inr performed⟩

theorem refl (c : Client) : Obeys [] [] c c :=
  .of_performed id ⟨rfl, rfl, rfl, rfl, (List.append_nil _).symm⟩

theorem trans (h : Obeys commands sets c c') (h' : Obeys commands' sets' c' c'') :
    Obeys (commands ++ commands') (sets ++ sets') c c'' where
  lost before := h'.lost (h.lost before)
  performed idle read := by
    rcases h.performed idle read with lost | first
    · exact .inl (h'.lost lost)
    · exact (h'.performed (first.streaming.trans idle) (first.unread.trans read)).imp_right first.trans

/-- The commands of properties, one after the other. -/
theorem forM {run : Property → EStateM Error Client Unit} (records : Property → List Property)
    (one : ∀ {property c c'}, run property c = .ok () c' →
      Obeys property.command?.toList (records property) c c')
    (ran : sets.forM run c = .ok () c') :
    Obeys (sets.filterMap Property.command?) (sets.flatMap records) c c' := by
  induction sets generalizing c with
  | nil =>
    cases ran
    exact .refl _
  | cons property sets ih =>
    obtain ⟨_, c₁, first, rest⟩ := EStateM.ok_of_bind ran
    have both := (one first).trans (ih rest)
    rw [List.filterMap_eq_flatMap_toList] at both ⊢
    exact both

end Obeys

namespace Exchange

theorem performed_executeOnce {response : Response} (other : isPrepare command = false)
    (ran : executeOnce env command {} c = .ok response c') : Performed [command] [] c c' :=
  .of_undisturbed ((undisturbed_executeOnce other rfl).result ran)
    ((carries_executeOnce other).result ran)

theorem hasLost_failover (h : failover env command c = .ok () c') : c'.HasLost := by
  have noted : Noted (.call true fun _ => true) (abandonSession c) (failover env command c) :=
    noted_takenOver c
  rw [h] at noted
  exact noted.hasLost (List.mem_append_right _ (.head _))

theorem obeys_execute {response : Response} (other : isPrepare command = false)
    (ran : execute env command {} c = .ok response c') : Obeys [command] [] c c' where
  lost := by
    have noted : Noted (.call c.ctx.redo.isSome fun _ => true) c (execute env command {} c) :=
      conducts_execute c
    rw [ran] at noted
    exact noted.hasLost
  performed idle read := by
    unfold execute at ran
    rw [EStateM.bind_of_ok (settle_of_none idle read)] at ran
    cases once : executeOnce env command {} c with
    | ok response' c₁ =>
      cases (EStateM.bind_of_ok (EStateM.attempt_of_ok once)).symm.trans ran
      exact .inr (performed_executeOnce other once)
    | error e c₁ =>
      -- The failure was taken up, so the session was lost.
      have recovered : recover env command {} e c₁ = .ok response c' :=
        (EStateM.bind_of_ok (EStateM.attempt_of_error once)).symm.trans ran
      unfold recover at recovered
      rw [EStateM.get_bind] at recovered
      split at recovered
      · obtain ⟨_, c₂, replaced, again⟩ := EStateM.ok_of_bind recovered
        unfold noteStranded at replaced
        split at replaced
        · next failedOver =>
          cases replaced
          exact .inl ((notes_executeOnce.result again).hasLost (hasLost_failover failedOver))
        · cases replaced
      · cases recovered

theorem obeys_applyProperty (ran : applyProperty env property c = .ok () c') :
    Obeys property.command?.toList [] c c' := by
  have asked {command : Command} (other : isPrepare command = false)
      (ran : (do let _ ← execute env command {} : EStateM Error Client Unit) c = .ok () c') :
      Obeys [command] [] c c' := by
    obtain ⟨response, c₁, executed, rest⟩ := EStateM.ok_of_bind ran
    cases rest
    exact obeys_execute other executed
  cases property with
  | autocommit _ | database _ | isolation _ => exact asked rfl ran
  | readOnly on =>
    cases ran
    exact .refl c
  | networkTimeout timeout =>
    have waits : setTimeout timeout c = .ok () c' := ran
    unfold setTimeout at waits
    split at waits <;> cases waits
    exact .of_performed id ⟨rfl, rfl, rfl, rfl, (List.append_nil _).symm⟩

theorem obeys_setProperty (ran : setProperty env property c = .ok () c') :
    Obeys property.command?.toList [property] c c' := by
  obtain ⟨_, c₁, applied, rest⟩ := EStateM.ok_of_bind ran
  cases rest
  have version : (c₁.ctx.recordProperty property).version = c₁.ctx.version := by
    cases property <;> rfl
  have recorded : Obeys [] [property] c₁ (c₁.withContext (·.recordProperty property)) :=
    .of_performed id ⟨rfl, rfl, version, Known.known_recordProperty c₁.ctx property,
      (List.append_nil _).symm⟩
  simpa using (obeys_applyProperty applied).trans recorded

end Exchange

theorem Client.ok_of_guarded {run : EStateM Error Client α} {a : α}
    (ran : guarded run c = .ok a c') : run c = .ok a c' := by
  unfold guarded at ran
  split at ran
  · cases ran
  · split at ran
    · next eq =>
      cases ran
      exact eq
    · repeat' split at ran
      all_goals cases ran

/-- Properties that are set one after the other. -/
theorem Client.obeys_setProperties (ran : sets.forM (Client.setProperty env) c = .ok () c') :
    Obeys (sets.filterMap Property.command?) sets c c' := by
  have obeyed := Obeys.forM (fun property => [property])
    (fun ran => Exchange.obeys_setProperty (Client.ok_of_guarded ran)) ran
  rwa [List.flatMap_singleton'] at obeyed

/-! ## Resets -/

/-- The server's own reset is wanted, and the version that the server has reported knows it. -/
def Client.resetsOnServer (env : Env) (c : Client) : Bool :=
  env.opts.useResetConnection && c.ctx.version.join.any (·.supportsReset)

namespace Exchange

/-- Commands of a reset that set nothing: what asks for the version, and what ends a transaction. -/
def asides : List Command := [.query versionQuery, .query "ROLLBACK"]

theorem carries_askVersion {version : Option Session.Version}
    (ran : askVersion env c = .ok version c') :
    Undisturbed c c' ∧ ∃ aside, aside ⊆ asides ∧
      c'.journal.carriedOut = c.journal.carriedOut ++ aside := by
  have carried : Carries (.query versionQuery) (executeOnce env (.query versionQuery) {}) c :=
    carries_executeOnce rfl
  have calm : Undisturbed c (executeOnce env (.query versionQuery) {} c).state :=
    undisturbed_executeOnce rfl rfl c
  unfold askVersion at ran
  cases once : executeOnce env (.query versionQuery) {} c with
  | ok response c₁ =>
    have rest := (EStateM.bind_of_ok (EStateM.attempt_of_ok once)).symm.trans ran
    rw [once] at calm
    have told : [.query versionQuery] ⊆ asides := List.cons_subset_cons _ (List.nil_subset _)
    cases row : firstRow response.toCompletions with
    | error fault =>
      simp only [row] at rest
      cases rest
    | ok cells =>
      simp only [row] at rest
      cases rest
      exact ⟨calm, _, told, carried.result once⟩
  | error e c₁ =>
    have rest := (EStateM.bind_of_ok (EStateM.attempt_of_error once)).symm.trans ran
    rw [once] at calm
    cases broken : e.isBroken with
    | true =>
      simp only [broken] at rest
      cases rest
    | false =>
      simp only [broken] at rest
      cases rest
      exact ⟨calm, _, List.nil_subset _, carried.failure once⟩

/-- Whether the server's own reset is used is known from then on. -/
theorem performed_usesServerReset {onServer : Bool} (ran : usesServerReset env c = .ok onServer c') :
    onServer = c'.resetsOnServer env ∧ ∃ aside, aside ⊆ asides ∧
      Performed aside [] (c.withContext ({ · with version := c'.ctx.version })) c' := by
  have none : Performed [] [] c c := ⟨rfl, rfl, rfl, rfl, (List.append_nil _).symm⟩
  unfold usesServerReset at ran
  unfold Client.resetsOnServer
  cases wanted : env.opts.useResetConnection with
  | false =>
    simp only [wanted] at ran
    cases ran
    exact ⟨rfl, _, List.nil_subset _, none⟩
  | true =>
    simp only [wanted] at ran
    obtain ⟨version, c₁, told, rest⟩ := EStateM.ok_of_bind ran
    cases rest
    unfold serverVersion at told
    rw [EStateM.get_bind] at told
    cases known : c.ctx.version with
    | some version' =>
      simp only [known] at told
      cases told
      rw [known]
      exact ⟨rfl, _, List.nil_subset _, known ▸ none⟩
    | none =>
      simp only [known] at told
      obtain ⟨version', c₂, asked, rest⟩ := EStateM.ok_of_bind told
      cases rest
      obtain ⟨calm, aside, quiet, carried⟩ := carries_askVersion asked
      have performed : Performed aside [] c c₂ := .of_undisturbed calm carried
      exact ⟨rfl, aside, quiet, performed.streaming, performed.unread, rfl, performed.known, carried⟩

/-- A reset asks for its asides, for the server's own reset if that is used, and for the properties
that its plan has. -/
theorem carriedOut_reset (idle : c.streaming = none) (read : c.unread = [])
    (ran : reset env c = .ok () c') :
    c'.ctx.known = .initial env.opts ∧ (c'.HasLost ∨ ∃ aside, aside ⊆ asides ∧
      c'.journal.carriedOut = c.journal.carriedOut ++ (aside ++
        (if c'.resetsOnServer env then [.resetConnection] else []) ++
        (Session.resetPlan c.ctx.changed env.opts (c'.resetsOnServer env)).filterMap
          Property.command?)) := by
  unfold reset at ran
  rw [EStateM.bind_of_ok (settle_of_none idle read)] at ran
  obtain ⟨onServer, c₁, told, ran⟩ := EStateM.ok_of_bind ran
  obtain ⟨decided, aside, quiet, performed⟩ := performed_usesServerReset told
  have ended : ∃ aside' c₂, aside' ⊆ asides ∧
      Performed (aside' ++ if onServer then [.resetConnection] else []) [] c₁ c₂ ∧
      (do (Session.resetPlan (← get).ctx.changed env.opts onServer).forM (applyProperty env)
          modify fun c => (c.withContext (·.afterReset env.opts)).note .reset :
        EStateM Error Client Unit) c₂ = .ok () c' := by
    cases onServer with
    | true =>
      obtain ⟨response, c₂, reset, ran⟩ := EStateM.ok_of_bind ran
      have performed := performed_executeOnce rfl reset
      rw [EStateM.modify_bind] at ran
      exact ⟨[], c₂.withContext fun ctx => { ctx with statements := ctx.statements.clear.2 },
        List.nil_subset _, ⟨performed.streaming, performed.unread, performed.version,
        performed.known, performed.carriedOut⟩, ran⟩
    | false =>
      have ran : (if c₁.ctx.inTransaction then _ else _ : EStateM Error Client Unit) c₁ = _ := ran
      split at ran
      · obtain ⟨response, c₂, ended, ran⟩ := EStateM.ok_of_bind ran
        exact ⟨[.query "ROLLBACK"], c₂, List.subset_cons_self _ _, performed_executeOnce rfl ended, ran⟩
      · exact ⟨[], c₁, List.nil_subset _, ⟨rfl, rfl, rfl, rfl, (List.append_nil _).symm⟩, ran⟩
  obtain ⟨aside', c₂, quiet', performed', ran⟩ := ended
  rw [EStateM.get_bind] at ran
  obtain ⟨_, c₃, applied, last⟩ := EStateM.ok_of_bind ran
  cases last
  refine ⟨rfl, ?_⟩
  have obeyed : Obeys _ _ c₂ c₃ := Obeys.forM (fun _ => []) obeys_applyProperty applied
  have all := performed.trans performed'
  rcases obeyed.performed (all.streaming.trans idle) (all.unread.trans read) with lost | planned
  · exact .inl (List.mem_append_left _ lost)
  · right
    have version : c₃.resetsOnServer env = onServer := by
      rw [decided]
      unfold Client.resetsOnServer
      rw [planned.version, performed'.version]
    have known : c₂.ctx.changed = c.ctx.changed := congrArg Known.changed all.known
    refine ⟨aside ++ aside', List.append_subset.mpr ⟨quiet, quiet'⟩, ?_⟩
    refine (congrArg Service.carriedOut (Journal.service_append c₃.journal [.reset])).trans ?_
    show c₃.journal.carriedOut = _ ++ (_ ++ (if c₃.resetsOnServer env then _ else _) ++
      (Session.resetPlan _ _ (c₃.resetsOnServer env)).filterMap _)
    rw [version, planned.carriedOut, all.carriedOut, known]
    simp only [List.append_assoc]
    rfl

end Exchange

end SqlWire
