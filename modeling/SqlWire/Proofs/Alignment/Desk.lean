import SqlWire.Proofs.Alignment.Settling

/-!
# What is still to be read

On the desk of a client lie the rest of a response that is given out in parts, and the responses to
commands that were sent ahead, the oldest first. A client is aligned with its desk where the server
sends just these, each under the numbers behind its command. Settling clears the desk from the
front, and a command that is executed then gets the response that the server gave to it.
-/

namespace SqlWire

open EStateM (Result)
open Net (Env)
open Answer (Completes)

/-- What is still to be read. -/
structure Desk where
  /-- The response that is given out in parts, and the packets that are left of it. -/
  current : Option (Streaming × List ByteArray)
  /-- The commands whose responses nobody has read, with the packets of these. -/
  waiting : List (Command × List ByteArray)

/-- Nothing is to be read. -/
def Desk.clear : Desk := ⟨none, []⟩

/-- The server sends the responses to these commands one after the other, and then `later`. -/
inductive Waits (env : Env) (format : Format) :
    List (Command × Mark) → List (Command × List ByteArray) → Bytes → Bytes → Prop where
  | nil {later : Bytes} : Waits env format [] [] later later
  | cons {command : Command} {mark : Mark} {packets : List ByteArray} {wire bytes later : Bytes}
      {unread : List (Command × Mark)} {waiting : List (Command × List ByteArray)} :
      Completes format.deprecateEof (.first command.responseKind) packets →
      Answer.OnWire env format.compressed mark packets wire →
      Waits env format unread waiting bytes later →
      Waits env format ((command, mark) :: unread) ((command, packets) :: waiting) (wire ++ bytes) later

/-- The server sends what is on the desk, and then `later`. -/
def Client.Aligned (env : Env) (format : Format) (desk : Desk) (later : Bytes) (c : Client) : Prop :=
  ∃ bytes, c.Amid env format desk.current bytes ∧ Waits env format c.unread desk.waiting bytes later

variable {env : Env} {format : Format} {packets : List ByteArray} {wire later : Bytes}
  {command : Command} {options : StatementOptions} {mark : Mark} {c c' : Client} {desk : Desk}
  {unread : List (Command × Mark)} {waiting : List (Command × List ByteArray)} {bytes : Bytes}

/-- Another command is sent ahead. -/
theorem Waits.concat (waits : Waits env format unread waiting bytes (wire ++ later))
    (completes : Completes format.deprecateEof (.first command.responseKind) packets)
    (onWire : Answer.OnWire env format.compressed mark packets wire) :
    Waits env format (unread ++ [(command, mark)]) (waiting ++ [(command, packets)]) bytes later := by
  obtain ⟨behind, behind_eq⟩ : ∃ behind, behind = wire ++ later := ⟨_, rfl⟩
  rw [← behind_eq] at waits
  induction waits with
  | nil =>
    rw [behind_eq]
    exact .cons completes onWire .nil
  | cons completes' onWire' _ ih => exact .cons completes' onWire' (ih behind_eq)

/-- A response without packets takes no bytes. -/
theorem Answer.OnWire.eq_nil {compressed : Bool} (onWire : Answer.OnWire env compressed mark [] wire) :
    wire = [] := by
  unfold Answer.OnWire at onWire
  split at onWire
  · obtain ⟨frames, valid, rfl, contents⟩ := onWire
    rw [Frame.eq_nil_of_contents valid contents.symm]
    rfl
  · exact onWire

theorem Client.Aligned.isOpen (aligned : c.Aligned env format desk later) : c.isClosed = false := by
  obtain ⟨_, amid, _⟩ := aligned
  exact amid.awaits.isOpen

theorem Client.Aligned.clear (amid : c.Amid env format none later) (unread : c.unread = []) :
    c.Aligned env format .clear later := by
  refine ⟨later, amid, ?_⟩
  rw [unread]
  exact .nil

/-- An open connection on which nothing is to be read, wherever the server goes on from there. -/
theorem Client.aligned_clear_iff : c.Aligned env c.format .clear later ↔
    c.line.Inbound later ∧ (c.channel.compressed = true → c.channel.left = []) ∧
      c.streaming = none ∧ c.unread = [] ∧ c.infileError = none := by
  constructor
  · rintro ⟨bytes, amid, waits⟩
    obtain ⟨inbound, left⟩ := offers_nil.mp amid.awaits.offers
    unfold Desk.clear at waits
    generalize c.unread = unread at waits ⊢
    cases waits
    exact ⟨inbound, left, amid.streaming, rfl, amid.awaits.infile⟩
  · rintro ⟨inbound, left, streaming, unread, infile⟩
    exact .clear (.of_awaits ⟨rfl, offers_nil.mpr ⟨inbound, left⟩, infile⟩ streaming) unread

namespace Exchange

/-- Responses that nobody reads are dropped from the front, up to one whose statement cannot be
closed. -/
theorem settleUnread_of_waits (faultless : env.Faultless) (amid : c.Amid env format none bytes)
    (waits : Waits env format unread waiting bytes later) (unread_eq : c.unread = unread) :
    Yields (settleUnread env unread) c fun given c' => ∃ waiting', waiting' <:+ waiting ∧
      c'.Aligned env format ⟨none, waiting'⟩ later ∧ match given with
        | .ok () => waiting' = []
        | .error e => c'.ctx.Unclosed e := by
  induction waits generalizing c with
  | nil => exact .pure ⟨[], List.suffix_rfl, .clear amid unread_eq, rfl⟩
  | @cons command mark packets wire bytes later rest waiting completes onWire waits ih =>
    have amid₁ : ({ c with unread := rest } : Client).Amid env format none (wire ++ bytes) :=
      ⟨amid.streaming, ⟨amid.awaits.format, amid.awaits.offers, amid.awaits.infile⟩, amid.rows⟩
    refine .modify_bind (.bind (dropResponse_of_amid faultless completes onWire amid₁) ?_ ?_)
    · rintro ⟨⟩ c₁ tidied
      refine (ih tidied.amid tidied.unread).mono ?_
      rintro given c' ⟨waiting', suffix, rest⟩
      exact ⟨waiting', suffix.trans (List.suffix_cons ..), rest⟩
    · rintro e c₁ tidied
      refine ⟨waiting, List.suffix_cons .., ⟨bytes, tidied.amid, ?_⟩, tidied.unclosed e rfl⟩
      rw [tidied.unread]
      exact waits

/-- The desk is cleared. -/
theorem settle_of_aligned (faultless : env.Faultless) (aligned : c.Aligned env format desk later) :
    Yields (settle env) c fun given c' => ∃ waiting', waiting' <:+ desk.waiting ∧
      c'.Aligned env format ⟨none, waiting'⟩ later ∧ match given with
        | .ok () => waiting' = []
        | .error e => c'.ctx.Unclosed e := by
  obtain ⟨bytes, amid, waits⟩ := aligned
  obtain ⟨c₁, settled, amid₁, unread⟩ := settleStreaming_of_amid faultless amid
  refine .of_eq (EStateM.bind_of_ok settled) (.get_bind ?_)
  exact settleUnread_of_waits faultless amid₁ (unread ▸ waits) rfl

/-! ## Errors of the client's own -/

end Exchange

/-- The error is that of the server, or the client does not send a command. -/
def Error.isInOrder : Error → Bool
  | .server _ | .usage _ | .tooLarge _ _ _ => true
  | _ => false

theorem Session.Context.Refuses.isInOrder {ctx : Session.Context} {e : Error}
    (refuses : ctx.Refuses command e) : e.isInOrder = true := by
  unfold Refuses at refuses
  split at refuses
  · rw [refuses]
    rfl
  · obtain ⟨_, _, rfl, _⟩ := refuses
    rfl

theorem Session.Context.Received.isInOrder {ctx : Session.Context} {reader : Reader} {e : Error}
    {current : Option (Streaming × List ByteArray)}
    (received : ctx.Received reader command packets (.error e) current) : e.isInOrder = true := by
  generalize given : (Except.error e : Except Error Response) = result at received
  cases received with
  | @given result _ _ _ =>
    cases result with
    | ok => cases given
    | error =>
      cases given
      rfl
  | unclosed _ unclosed =>
    cases given
    obtain ⟨id, refuses⟩ := unclosed
    exact refuses.isInOrder

namespace Exchange

/-- What executing a command comes to. -/
inductive Executed (deprecateEof : Bool) (desk : Desk) (command : Command) (options : StatementOptions)
    (packets : List ByteArray) (ctx : Session.Context) : Except Error Response → Desk → Prop where
  /-- The response to it is given. -/
  | received {given : Except Error Response} {current : Option (Streaming × List ByteArray)} :
      ctx.Received (.new command deprecateEof options) command packets given current →
      Executed deprecateEof desk command options packets ctx given ⟨current, []⟩
  /-- It is not sent. -/
  | refused {e : Error} : ctx.Refuses command e →
      Executed deprecateEof desk command options packets ctx (.error e) .clear
  /-- A statement that nobody asked for cannot be closed. -/
  | unsettled {e : Error} {waiting : List (Command × List ByteArray)} : waiting <:+ desk.waiting →
      ctx.Unclosed e → Executed deprecateEof desk command options packets ctx (.error e) ⟨none, waiting⟩

/-- The size of a command that is sent once the desk is cleared. -/
def asksBehind (env : Env) (run : EStateM Error Client Unit) (command : Command) (c : Client) :
    Option Nat :=
  match run c with
  | .ok () c => c.asks env command
  | .error _ _ => none

theorem canReplay_of_isInOrder {e : Error} (own : e.isInOrder = true) :
    canReplay c command e = false := by
  cases e with
  | server | usage | tooLarge => rfl
  | _ => cases own

theorem execute_of_aligned (faultless : env.Faultless)
    (answers : Answer.Answers env format command (asksBehind env (settle env) command c) packets wire)
    (aligned : c.Aligned env format desk (wire ++ later)) :
    Yields (execute env command options) c fun given c' => ∃ desk',
      c'.Aligned env format desk' later ∧
        Executed format.deprecateEof desk command options packets c'.ctx given desk' := by
  have settling := settle_of_aligned faultless aligned
  unfold Yields at settling
  unfold asksBehind at answers
  cases settled : settle env c with
  | error e c₁ =>
    rw [settled] at settling answers
    obtain ⟨waiting, suffix, aligned₁, unclosed⟩ := settling
    obtain ⟨rfl, rfl⟩ := answers
    exact .of_error (EStateM.bind_of_error settled) ⟨_, aligned₁, .unsettled suffix unclosed⟩
  | ok _ c₁ =>
    rw [settled] at settling answers
    obtain ⟨_, -, ⟨bytes, amid₁, waits⟩, rfl⟩ := settling
    have unread : c₁.unread = [] := by
      cases unread : c₁.unread with
      | nil => rfl
      | cons => rw [unread] at waits; cases waits
    rw [unread] at waits
    cases waits
    refine .of_eq (EStateM.bind_of_ok settled) ?_
    refine .attempt_bind (executeOnce_of_amid options faultless answers amid₁) ?_
    rintro given c₂ ⟨unread₂, current, amid₂, outcome⟩
    have aligned₂ : c₂.Aligned env format ⟨current, []⟩ later := by
      refine ⟨later, amid₂, ?_⟩
      rw [unread₂, unread]
      exact .nil
    cases given with
    | ok response =>
      obtain received | ⟨-, _, given, -⟩ := outcome
      · exact .pure ⟨_, aligned₂, .received received⟩
      · cases given
    | error e =>
      have own : e.isInOrder = true := by
        obtain received | ⟨-, _, ⟨⟩, refuses⟩ := outcome
        · exact received.isInOrder
        · exact refuses.isInOrder
      have thrown : recover env command options e c₂ = .error e c₂ := by
        unfold recover
        rw [EStateM.get_bind, canReplay_of_isInOrder own]
        rfl
      refine .of_error thrown ⟨_, aligned₂, ?_⟩
      obtain received | ⟨rfl, _, ⟨⟩, refuses⟩ := outcome
      · exact .received received
      · exact .refused refuses

end Exchange

end SqlWire
