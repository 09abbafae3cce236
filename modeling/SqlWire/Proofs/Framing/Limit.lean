import SqlWire.Channel
import SqlWire.Proofs.Framing.Packets

/-!
# Payloads that are too large

What is done with pending bytes is open to `writeFrom`. Which bytes of a refused payload it has
given away by then is told by a flush that also notes what it is given (`Flush.recorded`): noting
changes nothing (`writeFrom_unrecorded`), and what was noted stays noted (`writeFrom_of_le`).

A packet is refused before it is framed, and only a full packet, which is enough for a flush, has
another one behind it. So a payload is refused either before anything was done with it
(`writeFrom_of_first`) or behind the flush of its first packet (`writeFrom_of_further`).
-/

namespace SqlWire.Packet

variable {σ : Type} {flush : Flush σ}

/-- The flush does not fail. -/
def Flush.Succeeds (flush : Flush σ) : Prop :=
  ∀ held, ∃ left, flush held = .ok () left

/-- The flush, beside a list of what it was given so far. -/
def Flush.recorded (flush : Flush σ) : Flush (List ByteArray × σ) := fun (pending, given, sink) =>
  match flush (pending, sink) with
  | .ok () (left, sink) => .ok () (left, given ++ [pending], sink)
  | .error e (left, sink) => .error e (left, given ++ [pending], sink)

namespace Outgoing

/-- Nothing was given to the flush yet. -/
def recorded (o : Outgoing σ) : Outgoing (List ByteArray × σ) := { o with sink := ([], o.sink) }

def unrecorded (o : Outgoing (List ByteArray × σ)) : Outgoing σ := { o with sink := o.sink.2 }

/-- What was given to the flush, oldest first. -/
def given (o : Outgoing (List ByteArray × σ)) : List ByteArray := o.sink.1

end Outgoing

/-- What comes out of a run with a list beside it, without the list. -/
def unrecorded : EStateM.Result Error (Outgoing (List ByteArray × σ)) Unit →
    EStateM.Result Error (Outgoing σ) Unit
  | .ok () o => .ok () o.unrecorded
  | .error e o => .error e o.unrecorded

theorem flush_unrecorded (o : Outgoing (List ByteArray × σ)) :
    unrecorded (o.flush flush.recorded) = o.unrecorded.flush flush := by
  unfold Outgoing.flush Flush.recorded Outgoing.unrecorded
  dsimp only
  cases flush (o.pending, o.sink.2) <;> rfl

theorem relieve_unrecorded (o : Outgoing (List ByteArray × σ)) :
    unrecorded (o.relieve flush.recorded) = o.unrecorded.relieve flush := by
  have pending : o.unrecorded.pending = o.pending := rfl
  unfold Outgoing.relieve
  rw [pending]
  split
  · exact flush_unrecorded o
  · rfl

/-- The list beside it changes nothing in what is framed, flushed and refused. -/
theorem writeFrom_unrecorded (payload : ByteArray) (limit : Option Nat) (offset : Nat)
    (o : Outgoing (List ByteArray × σ)) :
    unrecorded (writeFrom flush.recorded payload limit offset o) =
      writeFrom flush payload limit offset o.unrecorded := by
  -- The packet is put behind the same pending bytes, and relieved alike.
  have relieved {o : Outgoing (List ByteArray × σ)} {r} (eq : o.relieve flush.recorded = r) :
      o.unrecorded.relieve flush = unrecorded r :=
    eq ▸ (relieve_unrecorded o).symm
  fun_induction writeFrom flush.recorded payload limit offset o with
  | case1 offset o size max refused =>
    rw [writeFrom, refused]
    rfl
  | case2 offset o size accepted header pending e o' eq =>
    rw [writeFrom, accepted]
    dsimp only
    split
    · next eq' =>
      cases eq'.symm.trans (relieved eq)
      rfl
    · next eq' => cases eq'.symm.trans (relieved eq)
  | case3 offset o size accepted header pending o' eq last =>
    rw [writeFrom, accepted]
    dsimp only
    split
    · next eq' => cases eq'.symm.trans (relieved eq)
    · next eq' =>
      cases eq'.symm.trans (relieved eq)
      exact (if_pos last).symm
  | case4 offset o size accepted header pending o' eq more ih =>
    rw [ih]
    conv => rhs; rw [writeFrom, accepted]
    dsimp only
    split
    · next eq' => cases eq'.symm.trans (relieved eq)
    · next eq' =>
      cases eq'.symm.trans (relieved eq)
      exact (if_neg more).symm

/-- What relieving gives away: all that is pending, if it is much. -/
theorem relieve_recorded (succeeds : flush.Succeeds) (o : Outgoing (List ByteArray × σ)) :
    ∃ o', o.relieve flush.recorded = .ok () o' ∧
      o'.given = o.given ++ if flushThreshold ≤ o.pending.size then [o.pending] else [] := by
  unfold Outgoing.relieve
  split
  · obtain ⟨⟨left, sink⟩, flushed⟩ := succeeds (o.pending, o.sink.2)
    refine ⟨{ o with pending := left, sink := (o.given ++ [o.pending], sink) }, ?_, rfl⟩
    unfold Outgoing.flush Flush.recorded
    dsimp only
    rw [flushed]
    rfl
  · exact ⟨o, rfl, (List.append_nil _).symm⟩

/-- A payload that was framed to its end is shorter than the limit. -/
theorem lt_of_writeFrom {payload : ByteArray} {max offset : Nat} {o o' : Outgoing σ}
    (within : offset ≤ payload.size)
    (wrote : writeFrom flush payload (some max) offset o = .ok () o') : payload.size < max := by
  fun_induction writeFrom flush payload (some max) offset o with
  | case1 | case2 => cases wrote
  | case3 offset o size accepted header pending o₁ relieved last =>
    have : ¬ max ≤ offset + size := by simpa using accepted
    omega
  | case4 offset o size accepted header pending o₁ relieved more ih => exact ih (by omega) wrote

/-- A payload that is shorter than the limit is framed to its end. -/
theorem writeFrom_of_lt (succeeds : flush.Succeeds) {payload : ByteArray} {max : Nat}
    (short : payload.size < max) (offset : Nat) (o : Outgoing (List ByteArray × σ))
    (within : offset ≤ payload.size) :
    ∃ o', writeFrom flush.recorded payload (some max) offset o = .ok () o' := by
  fun_induction writeFrom flush.recorded payload (some max) offset o with
  | case1 offset o size limit refused =>
    obtain ⟨limit_eq, reached⟩ := Option.filter_eq_some_iff.mp refused
    cases limit_eq
    have : max ≤ offset + size := of_decide_eq_true reached
    omega
  | case2 offset o size accepted header pending e o' failed =>
    obtain ⟨_, relieved, -⟩ :=
      relieve_recorded succeeds { o with pending, sequence := o.sequence + 1 }
    cases failed.symm.trans relieved
  | case3 offset o size accepted header pending o' => exact ⟨o', rfl⟩
  | case4 offset o size accepted header pending o' eq more ih => exact ih (by omega)

/-- A payload that reaches the limit is refused, wherever its framing began. What was given away
stays so. -/
theorem writeFrom_of_le (succeeds : flush.Succeeds) {payload : ByteArray} {max : Nat}
    (long : max ≤ payload.size) (offset : Nat) (o : Outgoing (List ByteArray × σ))
    (within : offset ≤ payload.size) :
    ∃ reached o', writeFrom flush.recorded payload (some max) offset o =
      .error (.tooLarge payload.size max (reached != 0)) o' ∧
      offset ≤ reached ∧ o.given <+: o'.given := by
  fun_induction writeFrom flush.recorded payload (some max) offset o with
  | case1 offset o size limit refused =>
    obtain ⟨limit_eq, -⟩ := Option.filter_eq_some_iff.mp refused
    cases limit_eq
    exact ⟨offset, o, rfl, Nat.le_refl _, List.prefix_rfl⟩
  | case2 offset o size accepted header pending e o' failed =>
    obtain ⟨_, relieved, -⟩ :=
      relieve_recorded succeeds { o with pending, sequence := o.sequence + 1 }
    cases failed.symm.trans relieved
  | case3 offset o size accepted header pending o' eq last =>
    have : ¬ max ≤ offset + size := by simpa using accepted
    omega
  | case4 offset o size accepted header pending o' eq more ih =>
    obtain ⟨_, relieved, given⟩ :=
      relieve_recorded succeeds { o with pending, sequence := o.sequence + 1 }
    cases eq.symm.trans relieved
    obtain ⟨reached, o'', refused, further, grown⟩ := ih (by omega)
    exact ⟨reached, o'', refused, Nat.le_trans (Nat.le_add_right ..) further,
      .trans ⟨_, given.symm⟩ grown⟩

/-- The first packet of a payload that has more than one. -/
def firstPacket (sequence : UInt8) (payload : ByteArray) : ByteArray :=
  (Header.bytes ⟨maxPayload, sequence⟩).toWire ++ payload.extract 0 maxPayload

theorem size_firstPacket {sequence : UInt8} {payload : ByteArray}
    (long : maxPayload ≤ payload.size) :
    (firstPacket sequence payload).size = Header.length + maxPayload := by
  have header : (Header.bytes ⟨maxPayload, sequence⟩).toWire.size = Header.length := rfl
  simp only [firstPacket, ByteArray.size_append, ByteArray.size_extract, header]
  omega

/-- Behind the first packet the rest of the payload is framed. -/
theorem writeFrom_of_firstPacket {payload : ByteArray} {limit : Option Nat} {o o' : Outgoing σ}
    (accepted : limit.filter (· ≤ maxPayload) = none) (long : maxPayload ≤ payload.size)
    (relieved : Outgoing.relieve flush ⟨o.pending ++ firstPacket o.sequence payload,
      o.sequence + 1, o.sink⟩ = .ok () o') :
    writeFrom flush payload limit 0 o = writeFrom flush payload limit maxPayload o' := by
  have size : min maxPayload payload.size = maxPayload := Nat.min_eq_left long
  rw [firstPacket, ← ByteArray.append_assoc] at relieved
  rw [writeFrom]
  simp only [Nat.sub_zero, Nat.zero_add, size, accepted, relieved, Nat.lt_irrefl, if_false]

/-- Nothing has become of a payload whose first packet reaches the limit. -/
theorem writeFrom_of_first {payload : ByteArray} {max : Nat}
    (first : max ≤ min payload.size maxPayload) (o : Outgoing σ) :
    writeFrom flush payload (some max) 0 o = .error (.tooLarge payload.size max false) o := by
  have refused : (some max).filter (· ≤ 0 + min maxPayload (payload.size - 0)) = some max :=
    Option.filter_eq_some_iff.mpr ⟨rfl, decide_eq_true (by omega)⟩
  rw [writeFrom, refused]
  rfl

/-- The first packet of a payload that is refused behind it is flushed, being a full one. -/
theorem writeFrom_of_further (succeeds : flush.Succeeds) {payload : ByteArray} {max : Nat}
    (long : max ≤ payload.size) (further : ¬ max ≤ min payload.size maxPayload)
    (o : Outgoing σ) :
    ∃ o', writeFrom flush.recorded payload (some max) 0 o.recorded =
        .error (.tooLarge payload.size max true) o' ∧
      o'.given.head? = some (o.pending ++ firstPacket o.sequence payload) := by
  have accepted : (some max).filter (· ≤ maxPayload) = none := by
    simp
    omega
  obtain ⟨o₁, relieved, given⟩ := relieve_recorded succeeds
    ⟨o.pending ++ firstPacket o.sequence payload, o.sequence + 1, o.recorded.sink⟩
  have much : flushThreshold ≤ (o.pending ++ firstPacket o.sequence payload).size := by
    rw [ByteArray.size_append, size_firstPacket (by omega)]
    unfold flushThreshold
    omega
  rw [if_pos much] at given
  obtain ⟨reached, o', refused, away, later, grown⟩ :=
    writeFrom_of_le succeeds long maxPayload o₁ (by omega)
  have again : (reached != 0) = true :=
    bne_iff_ne.mpr (Nat.ne_of_gt (Nat.lt_of_lt_of_le maxPayload_pos away))
  rw [again, ← writeFrom_of_firstPacket (o := o.recorded) accepted (by omega) relieved] at refused
  refine ⟨o', refused, ?_⟩
  rw [← grown, given]
  rfl

/-- With a flush that succeeds, a payload is written exactly if it is shorter than the limit. A
payload that is refused under the assurance that the connection can still be used has changed
nothing and given nothing away, and this assurance is given for just the payloads whose first packet
reaches the limit; behind any other refusal, what was pending went out with the first packet. -/
theorem writeFrom_ok_iff (succeeds : flush.Succeeds) (payload : ByteArray) (max : Nat)
    (o : Outgoing σ) :
    unrecorded (writeFrom flush.recorded payload (some max) 0 o.recorded) =
        writeFrom flush payload (some max) 0 o ∧
      ((∃ o', writeFrom flush.recorded payload (some max) 0 o.recorded = .ok () o') ↔
        payload.size < max) ∧
      (max ≤ payload.size → ∃ mustReconnect o',
        writeFrom flush.recorded payload (some max) 0 o.recorded =
          .error (.tooLarge payload.size max mustReconnect) o' ∧
        (mustReconnect = false ↔ max ≤ min payload.size maxPayload) ∧
        (mustReconnect = false → o'.unrecorded = o ∧ o'.given = []) ∧
        (mustReconnect = true ↔
          o'.given.head? = some (o.pending ++ firstPacket o.sequence payload))) := by
  refine ⟨writeFrom_unrecorded payload _ 0 o.recorded, ?_, fun long => ?_⟩
  · constructor
    · exact fun ⟨_, wrote⟩ => lt_of_writeFrom (Nat.zero_le _) wrote
    · exact fun short => writeFrom_of_lt succeeds short 0 o.recorded (Nat.zero_le _)
  · by_cases first : max ≤ min payload.size maxPayload
    · exact ⟨false, o.recorded, writeFrom_of_first first _, iff_of_true rfl first,
        fun _ => ⟨rfl, rfl⟩, iff_of_false (nomatch ·) (nomatch ·)⟩
    · obtain ⟨o', refused, given⟩ := writeFrom_of_further succeeds long first o
      exact ⟨true, o', refused, iff_of_false (nomatch ·) first, (nomatch ·), iff_of_true rfl given⟩

/-- A limit between the first packet and the end of a payload, and a flush that collects bytes. -/
theorem writeFrom_behindFirst :
    let payload := (List.replicate (maxPayload + 10) 7).toByteArray
    let o : Outgoing Bytes := ⟨[9].toByteArray, 255, []⟩
    (handOn collect).Succeeds ∧
      ∃ o', writeFrom (handOn collect).recorded payload (some (maxPayload + 5)) 0 o.recorded =
          .error (.tooLarge payload.size (maxPayload + 5) true) o' ∧
        o'.given.head? = some (o.pending ++ firstPacket 255 payload) := by
  intro payload o
  have succeeds : (handOn collect).Succeeds := fun _ => ⟨_, rfl⟩
  have size : payload.size = maxPayload + 10 := by
    rw [List.size_toByteArray, List.length_replicate]
  obtain ⟨-, -, refused⟩ := writeFrom_ok_iff succeeds payload (maxPayload + 5) o
  obtain ⟨mustReconnect, o', refused, first, -, given⟩ := refused (by omega)
  have again : mustReconnect = true := by
    refine (Bool.not_eq_false _).mp fun kept => ?_
    have := first.mp kept
    omega
  rw [again] at refused
  exact ⟨succeeds, o', refused, given.mp again⟩

end SqlWire.Packet

namespace SqlWire.Line

/-- What was sent is shorter than the limit. -/
theorem lt_of_writePacket {env : Net.Env} {payload : ByteArray} {limit : Option Nat}
    {line line' : Line} (wrote : writePacket env payload limit line = .ok () line') :
    ∀ max ∈ limit, payload.size < max := by
  rintro max rfl
  dsimp only [writePacket, Packet.write] at wrote
  split at wrote
  · cases wrote
  · next framed => exact Packet.lt_of_writeFrom (Nat.zero_le _) framed

end SqlWire.Line
