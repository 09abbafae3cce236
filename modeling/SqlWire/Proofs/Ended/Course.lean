import Mathlib.Logic.Relation
import SqlWire.Client.Calls
import SqlWire.Proofs.Along

/-!
# The course of a line

While a client uses its line, a few things can happen to it, and `Line.Step` lists them: bytes are
sent over a link that is up, another thread ends the call, a deadline passes, the socket is let go of.
`Line.Course` is any number of these in a row. `Follows` says that a run takes its line along such a
course, whatever its end; everything that reads and writes packets does (`follows_readPacket`,
`follows_writePacket`). So what the steps keep, all of it keeps.
-/

namespace SqlWire

open Net (Env Interrupt Link World)
open Relation (ReflTransGen)

variable {σ α β : Type} {env : Env}

namespace Line

/-- The number of the link that the line holds. -/
def linkId (line : Line) : Option Nat := line.channel.link.map (·.id)

/-- A line without a link. -/
def unlinked (w : World) : Line := ⟨⟨none, 0, 0, false, ByteArray.empty, 0, 0⟩, w⟩

/-- What can happen to a line while it is used. -/
inductive Step (env : Env) : Line → Line → Prop where
  /-- Nothing that concerns links, other threads or credentials. -/
  | aside {line line' : Line} : line'.linkId = line.linkId →
      line'.world.control = line.world.control → line'.world.links = line.world.links →
      line'.world.credentials = line.world.credentials → Step env line line'
  | interrupted {line : Line} (how : Interrupt) :
      Step env line { line with world := line.world.interrupted env how }
  | expired {line : Line} {id : Nat} (deadline : Nat) : line.linkId = some id →
      line.world.isDown id = false →
      Step env line { line with world := line.world.expired env deadline }
  | sent {line : Line} {id : Nat} (bytes : ByteArray) : line.linkId = some id →
      line.world.isDown id = false → Step env line { line with world := line.world.addSent id bytes }
  | marked {line : Line} : Step env line { line with world := line.world.markClosed }
  | closed {line : Line} : Step env line line.close

/-- Any number of steps. -/
abbrev Course (env : Env) : Line → Line → Prop := ReflTransGen (Step env)

end Line

open Line (Course)

/-! ## Runs -/

instance (view : σ → Line) : IsPreorder σ fun s s' => Course env (view s) (view s') where
  refl _ := .refl
  trans _ _ _ := .trans

/-- Whatever its end, the run takes the line in its state along a course. -/
abbrev Follows (env : Env) (view : σ → Line) (run : EStateM Error σ α) : Prop :=
  Along (fun s s' => Course env (view s) (view s')) run

namespace Line

/-! ## Sockets -/

theorem course_beginStep (line : Line) :
    Course env line { line with world := (World.beginStep env line.world).state } := by
  have counted : Course env line
      { line with world := { line.world with ioSteps := line.world.ioSteps + 1 } } :=
    .single (.aside rfl rfl rfl rfl)
  unfold World.beginStep
  dsimp only
  cases env.interrupt line.world.ioSteps with
  | none => split <;> exact counted
  | some how => split <;> exact counted.tail (.interrupted how)

theorem course_giveUp (line : Line) (link : Link) (since : Nat) :
    Course env line { line with world := (link.giveUp since line.world).2 } := by
  unfold Link.giveUp
  split
  · exact .single (.aside rfl rfl rfl rfl)
  · exact .refl

/-- While a read waits, a deadline passes only over a link that is up. -/
theorem course_starve {line : Line} {link : Link} (held : line.linkId = some link.id) :
    Course env line { line with world := (Link.starve env link line.world).2 } := by
  unfold Link.starve
  dsimp only
  split
  · exact .refl
  have waited : Course env line { line with world := Link.awaited env line.world } := by
    unfold Link.awaited
    split
    · exact .single (.interrupted _)
    · exact .refl
  split
  · exact waited
  · next up =>
    have isUp : (Link.awaited env line.world).isDown link.id = false := by
      simp only [Bool.or_eq_true, not_or, Bool.not_eq_true] at up
      exact up.2
    split
    · exact waited.trans (course_giveUp _ link _)
    · next deadline _ =>
      split
      · exact waited.trans (course_giveUp _ link _)
      · have passed := waited.tail (.expired deadline held isUp)
        split
        · exact passed
        · exact passed.trans (course_giveUp _ link _)

/-- How far the link was read does not matter. -/
theorem course_take {line : Line} {link : Link} {n : Nat} (eq : line.channel.link = some link) :
    let after := (Link.take env n (link, line.world)).state
    Course env line ⟨{ line.channel with link := some after.1 }, after.2⟩ := by
  have held : line.linkId = some link.id := by rw [linkId, eq]; rfl
  have moved : ∀ {w : World} {link' : Link}, Course env line { line with world := w } →
      link'.id = link.id → Course env line ⟨{ line.channel with link := some link' }, w⟩ :=
    fun course same =>
      course.tail (.aside (by rw [linkId, linkId, eq]; exact congrArg some same) rfl rfl rfl)
  have began : Course env line _ := course_beginStep line
  unfold Link.take
  dsimp only
  split
  · exact moved .refl rfl
  · split
    · next failed =>
      rw [failed] at began
      exact moved began rfl
    · next w ready =>
      rw [ready] at began
      split
      · exact moved began rfl
      · exact moved (began.trans (course_starve held)) rfl

theorem follows_pullRaw {n : Nat} : Follows env id (pullRaw env n) := by
  intro line
  unfold pullRaw
  split
  · exact .refl
  · next link eq =>
    have taken : Course env line
        ⟨{ line.channel with link := some (Link.take env n (link, line.world)).state.1 },
          (Link.take env n (link, line.world)).state.2⟩ := course_take eq
    split <;> next read => rw [read] at taken; exact taken

/-! ## Frames and packets -/

theorem follows_readFrame : Follows env id (readFrame env) := by
  intro line
  unfold readFrame
  split
  · next head => exact follows_pullRaw.result head
  · next head line₁ pulled =>
    have course₁ : Course env line line₁ := follows_pullRaw.result pulled
    split
    · exact course₁
    · split
      · exact course₁
      · next header _ frameSequence _ =>
        dsimp only
        have numbered : Course env line
            { line₁ with channel := { line₁.channel with frameSequence } } :=
          course₁.tail (.aside rfl rfl rfl rfl)
        split
        · next pulled => exact numbered.trans (follows_pullRaw.result pulled)
        · next body line₂ pulled =>
          have course₂ := numbered.trans (follows_pullRaw.result pulled)
          split <;> exact course₂.tail (.aside rfl rfl rfl rfl)

theorem follows_fill {n : Nat} {out : ByteArray} : Follows env id (fill env n out) := by
  intro line
  fun_induction fill env n out line with
  | case1 => exact .refl
  | case2 n out line _ _ e line₁ frame => exact follows_readFrame.result frame
  | case3 n out line _ _ line₁ frame ih => exact (follows_readFrame.result frame).trans ih
  | case4 n out line _ _ size stop ih =>
    refine ReflTransGen.trans ?_ ih
    exact .single (.aside rfl rfl rfl rfl)

theorem follows_pull {n : Nat} : Follows env id (pull env n) := by
  intro line
  unfold pull
  split
  · exact follows_fill line
  · exact follows_pullRaw line

theorem follows_readOnto {out : ByteArray} :
    Follows env (·.source) (Packet.readOnto (source env) out) := by
  intro i
  fun_induction Packet.readOnto (source env) out i with
  | case1 out i e s head => exact follows_pull.result head
  | case2 out i head s pulled _ => exact follows_pull.result pulled
  | case3 out i head s pulled header _ fault _ => exact follows_pull.result pulled
  | case4 out i head s pulled header _ sequence _ e s' body =>
    exact (follows_pull.result pulled).trans (follows_pull.result body)
  | case5 out i head s pulled header _ sequence _ body s' read _ =>
    exact (follows_pull.result pulled).trans (follows_pull.result read)
  | case6 out i head s pulled header _ sequence _ body s' read _ ih =>
    exact ((follows_pull.result pulled).trans (follows_pull.result read)).trans ih

theorem follows_readPacket : Follows env id (readPacket env) := by
  intro line
  unfold readPacket
  dsimp only
  split <;> next read => exact .tail (follows_readOnto.result read) (.aside rfl rfl rfl rfl)

theorem follows_sendRaw {bytes : ByteArray} : Follows env id (sendRaw env bytes) := by
  intro line
  have began : Course env line _ := course_beginStep line
  unfold sendRaw
  split
  · exact .refl
  · next link eq =>
    have held : line.linkId = some link.id := by rw [linkId, eq]; rfl
    unfold Link.send
    cases ready : World.beginStep env line.world with
    | error e w =>
      rw [ready] at began
      exact began
    | ok _ w =>
      rw [ready] at began
      dsimp only
      cases down : w.isDown link.id with
      | true => exact began
      | false => exact began.tail (.sent bytes held down)

theorem follows_send {bytes : ByteArray} : Follows env id (send env bytes) := by
  intro line
  unfold send
  split
  · refine ReflTransGen.trans ?_ (follows_sendRaw _)
    exact .single (.aside rfl rfl rfl rfl)
  · exact follows_sendRaw line

theorem follows_writePacket {payload : ByteArray} {limit : Option Nat} :
    Follows env id (writePacket env payload limit) := by
  intro line
  have kept : ∀ bytes line', Course env line line' → Course env line (send env bytes line').state :=
    fun bytes line' course => course.trans (follows_send line')
  have numbered : ∀ {o : Packet.Outgoing Line}, Course env line o.sink →
      Course env line { o.sink with channel := { o.sink.channel with sequence := o.sequence } } :=
    fun course => course.tail (.aside rfl rfl rfl rfl)
  have written := Packet.writeFrom_sink kept payload limit 0
    ⟨ByteArray.empty, line.channel.sequence, line⟩ .refl
  dsimp only [writePacket, Packet.write]
  split
  · next failed =>
    rw [failed] at written
    exact numbered written
  · next o framed =>
    rw [framed] at written
    split
    · exact numbered written
    · have flushed := Packet.flush_sink kept o written
      split <;> next eq => rw [eq] at flushed; exact numbered flushed

end Line

end SqlWire
