import SqlWire.Packet

/-!
# Payloads and their packets

A payload goes out as packets that are numbered from some number on: full ones, and behind them one
that is not full (`framed`, `exists_bodies`). However often the buffer is relieved meanwhile,
writing hands on just these bytes (`writeFrom_of_delivers`), and a source that gives them next gives
the payload back (`readOnto_of_framed`). Nothing else can be read: what reading takes from an array
are the packets of what it gives (`framed_of_readOnto`).
-/

namespace SqlWire.Packet

open EStateM (Result)

variable {σ : Type}

/-! ## The packets of a payload -/

/-- The packets of a payload, numbered from `sequence` on. -/
def framed (sequence : UInt8) (payload : Bytes) : Bytes :=
  if payload.length < maxPayload then Header.bytes ⟨payload.length, sequence⟩ ++ payload
  else
    Header.bytes ⟨maxPayload, sequence⟩ ++ payload.take maxPayload ++
      framed (sequence + 1) (payload.drop maxPayload)
termination_by payload.length
decreasing_by simp only [List.length_drop, maxPayload] at *; omega

/-- How many packets a payload of this size takes. -/
def count (size : Nat) : Nat := size / maxPayload + 1

/-- The number that follows the packets of a payload. -/
def following (sequence : UInt8) (size : Nat) : UInt8 := sequence + UInt8.ofNat (count size)

theorem maxPayload_pos : 0 < maxPayload := by decide

theorem count_of_le {size : Nat} (h : maxPayload ≤ size) :
    count size = 1 + count (size - maxPayload) := by
  rw [count, count, Nat.div_eq_sub_div maxPayload_pos h, Nat.add_comm]

theorem following_of_lt {sequence : UInt8} {size : Nat} (h : size < maxPayload) :
    following sequence size = sequence + 1 := by
  rw [following, count, Nat.div_eq_of_lt h]
  rfl

theorem following_of_le {sequence : UInt8} {size : Nat} (h : maxPayload ≤ size) :
    following (sequence + 1) (size - maxPayload) = following sequence size := by
  rw [following, following, count_of_le h, UInt8.ofNat_add, UInt8.add_assoc]
  rfl

theorem parse?_bytes {header : Header} (size : header.size < 0x1000000) :
    Header.parse? header.bytes = some header := by
  obtain ⟨size', sequence⟩ := header
  show some (Header.mk (Bytes.toNatLE (Bytes.ofNatLE 3 size')) sequence) = _
  rw [Bytes.toNatLE_ofNatLE, Nat.mod_eq_of_lt size]

/-- A header that was read is written as it was. -/
theorem bytes_of_parse? {bytes : Bytes} {header : Header} (h : Header.parse? bytes = some header) :
    header.bytes = bytes ∧ header.size ≤ maxPayload := by
  unfold Header.parse? at h
  split at h
  · next b₀ b₁ b₂ sequence =>
    cases h
    have lt := Bytes.toNatLE_lt [b₀, b₁, b₂]
    have power : Nat.pow 256 (0 + 1 + 1 + 1) = maxPayload + 1 := rfl
    simp only [List.length_cons, List.length_nil, power] at lt
    exact ⟨congrArg (· ++ [sequence]) (Bytes.ofNatLE_toNatLE [b₀, b₁, b₂]), Nat.le_of_lt_succ lt⟩
  · cases h

/-- Packets with these bodies, numbered one after the other. -/
def numbered : UInt8 → List Bytes → Bytes
  | _, [] => []
  | sequence, body :: bodies =>
    Header.bytes ⟨body.length, sequence⟩ ++ body ++ numbered (sequence + 1) bodies

/-- A payload is cut into full bodies and one that is not full. -/
structure Cut (payload : Bytes) (bodies : List Bytes) : Prop where
  whole : bodies.flatten = payload
  full : ∀ body ∈ bodies.dropLast, body.length = maxPayload
  last : ∃ body, bodies.getLast? = some body ∧ body.length < maxPayload

theorem Cut.cons {first payload : Bytes} {bodies : List Bytes} (cut : Cut payload bodies)
    (full : first.length = maxPayload) : Cut (first ++ payload) (first :: bodies) := by
  obtain ⟨whole, fulls, body, last, short⟩ := cut
  cases bodies with
  | nil => cases last
  | cons second bodies =>
    refine ⟨by rw [List.flatten_cons, whole], ?_, body, by simpa using last, short⟩
    intro other mem
    rcases List.mem_cons.mp mem with rfl | mem
    · exact full
    · exact fulls other mem

/-- The packets of a payload, one by one. -/
theorem exists_bodies (sequence : UInt8) (payload : Bytes) :
    ∃ bodies, Cut payload bodies ∧ bodies.length = count payload.length ∧
      framed sequence payload = numbered sequence bodies := by
  fun_induction framed sequence payload with
  | case1 sequence payload short =>
    refine ⟨[payload], ⟨by simp, by simp, payload, rfl, short⟩, ?_, by simp [numbered]⟩
    simp [count, Nat.div_eq_of_lt short]
  | case2 sequence payload long ih =>
    have enough : maxPayload ≤ payload.length := Nat.not_lt.mp long
    have size : (payload.take maxPayload).length = maxPayload := List.length_take_of_le enough
    obtain ⟨bodies, cut, length, framed⟩ := ih
    refine ⟨payload.take maxPayload :: bodies, ?_, ?_, by rw [numbered, size, framed]⟩
    · have := cut.cons size
      rwa [List.take_append_drop] at this
    · rw [List.length_cons, length, List.length_drop, count_of_le enough, Nat.add_comm]

/-! ## Writing -/

/-- `send` does not fail, and puts what it is given behind what `Sent` says was sent before. -/
def Delivers (send : ByteArray → EStateM Error σ Unit) (Sent : σ → Bytes → Prop) : Prop :=
  ∀ {s sent} bytes, Sent s sent →
    ∃ s', send bytes s = .ok () s' ∧ Sent s' (sent ++ Bytes.ofWire bytes)

/-- These bytes were sent or are still pending. -/
def Outgoing.Holds (Sent : σ → Bytes → Prop) (o : Outgoing σ) (bytes : Bytes) : Prop :=
  ∃ sent, Sent o.sink sent ∧ sent ++ Bytes.ofWire o.pending = bytes

variable {send : ByteArray → EStateM Error σ Unit} {Sent : σ → Bytes → Prop}
  {o : Outgoing σ} {bytes : Bytes}

theorem flush_of_delivers (delivers : Delivers send Sent) (holds : o.Holds Sent bytes) :
    ∃ o', o.flush (handOn send) = .ok () o' ∧ o'.Holds Sent bytes ∧ o'.sequence = o.sequence ∧
      o'.pending = ByteArray.empty := by
  obtain ⟨sent, before, rfl⟩ := holds
  obtain ⟨s', ok, after⟩ := delivers o.pending before
  refine ⟨{ o with pending := ByteArray.empty, sink := s' }, ?_, ⟨_, after, ?_⟩, rfl, rfl⟩
  · simp only [Outgoing.flush_handOn, ok]
  · exact List.append_nil _

theorem relieve_of_delivers (delivers : Delivers send Sent) (holds : o.Holds Sent bytes) :
    ∃ o', o.relieve (handOn send) = .ok () o' ∧ o'.Holds Sent bytes ∧ o'.sequence = o.sequence := by
  unfold Outgoing.relieve
  split
  · obtain ⟨o', flushed, holds', sequence, -⟩ := flush_of_delivers delivers holds
    exact ⟨o', flushed, holds', sequence⟩
  · exact ⟨o, rfl, holds, rfl⟩

/-- One packet is put behind what is pending, under the next number. -/
theorem Outgoing.Holds.packet (holds : o.Holds Sent bytes) (payload : ByteArray)
    (offset size : Nat) :
    Outgoing.Holds Sent
      { o with
        pending := o.pending ++ (Header.bytes ⟨size, o.sequence⟩).toWire ++
          payload.extract offset (offset + size)
        sequence := o.sequence + 1 }
      (bytes ++ (Header.bytes ⟨size, o.sequence⟩ ++
        ((Bytes.ofWire payload).drop offset).take size)) := by
  obtain ⟨sent, before, rfl⟩ := holds
  refine ⟨sent, before, ?_⟩
  simp only [Bytes.ofWire_append, Bytes.ofWire_toWire, Bytes.ofWire_extract,
    Nat.add_sub_cancel_left, List.append_assoc]

/-- A payload without a limit is put behind as its packets. -/
theorem writeFrom_of_delivers (delivers : Delivers send Sent) (payload : ByteArray) (offset : Nat)
    {o : Outgoing σ} {bytes : Bytes} (holds : o.Holds Sent bytes) :
    ∃ o', writeFrom (handOn send) payload none offset o = .ok () o' ∧
      o'.Holds Sent (bytes ++ framed o.sequence ((Bytes.ofWire payload).drop offset)) ∧
      o'.sequence = following o.sequence (payload.size - offset) := by
  have length (offset : Nat) :
      ((Bytes.ofWire payload).drop offset).length = payload.size - offset := by
    rw [List.length_drop, Bytes.length_ofWire]
  obtain ⟨size, size_eq⟩ : ∃ size, size = min maxPayload (payload.size - offset) := ⟨_, rfl⟩
  obtain ⟨o₁, relieved, holds₁, sequence₁⟩ :=
    relieve_of_delivers delivers (holds.packet payload offset size)
  rw [writeFrom, framed]
  simp only [Option.filter_none, ← size_eq, relieved, length]
  split
  · next last =>
    have all : size = payload.size - offset := by omega
    rw [if_pos (by omega), following_of_lt (by omega), ← all]
    refine ⟨o₁, rfl, ?_, sequence₁⟩
    rwa [List.take_of_length_le (by rw [length]; omega)] at holds₁
  · next more =>
    have full : size = maxPayload := by omega
    obtain ⟨o₂, wrote, holds₂, sequence₂⟩ :=
      writeFrom_of_delivers delivers payload (offset + size) holds₁
    refine ⟨o₂, wrote, ?_, ?_⟩
    · rw [if_neg (by omega), List.drop_drop, ← List.append_assoc]
      rwa [sequence₁, full] at holds₂
    · rw [sequence₂, sequence₁, ← @following_of_le _ (payload.size - offset) (by omega), full,
        Nat.sub_sub]
termination_by payload.size - offset
decreasing_by simp only [maxPayload] at *; omega

/-- A limit does nothing to a payload that it does not refuse. -/
theorem writeFrom_of_limit {flush : Flush σ} {payload : ByteArray} {limit : Option Nat}
    {offset : Nat} {o o' : Outgoing σ} (wrote : writeFrom flush payload limit offset o = .ok () o') :
    writeFrom flush payload none offset o = .ok () o' := by
  fun_induction writeFrom flush payload limit offset o with
  | case1 | case2 => cases wrote
  | case3 offset o size _ header pending o₁ relieved last =>
    rw [writeFrom]
    simp only [Option.filter_none]
    rw [relieved]
    exact (if_pos last).trans wrote
  | case4 offset o size _ header pending o₁ relieved more ih =>
    rw [writeFrom]
    simp only [Option.filter_none]
    rw [relieved]
    exact (if_neg more).trans (ih wrote)

/-! ## Reading -/

section Reading

/-- Whatever `Left` says is left begins with the bytes that are pulled. -/
def Source.Gives (source : Source σ) (Left : σ → Bytes → Prop) : Prop :=
  ∀ {s bytes rest}, Left s (bytes ++ rest) →
    ∃ s', source.pull bytes.length s = .ok bytes.toWire s' ∧ Left s' rest

variable {source : Source σ} {Left : σ → Bytes → Prop} {sequence : UInt8} {s : σ}

/-- One packet of a payload. -/
theorem readOnto_of_head (gives : source.Gives Left) (out : ByteArray) {body rest : Bytes}
    (size : body.length ≤ maxPayload)
    (left : Left s (Header.bytes ⟨body.length, sequence⟩ ++ body ++ rest)) :
    ∃ s', Left s' rest ∧ readOnto source out ⟨sequence, s⟩ =
      if body.length < maxPayload then .ok (out ++ body.toWire) ⟨sequence + 1, s'⟩
      else readOnto source (out ++ body.toWire) ⟨sequence + 1, s'⟩ := by
  have parsed : Header.parse? (Header.bytes ⟨body.length, sequence⟩) =
      some ⟨body.length, sequence⟩ :=
    parse?_bytes (Nat.lt_of_le_of_lt size (by decide))
  have inOrder : checkSequence sequence sequence = .ok (sequence + 1) := if_pos (beq_self_eq_true _)
  rw [List.append_assoc] at left
  obtain ⟨s₁, headed, left₁⟩ := gives left
  obtain ⟨s₂, embodied, left₂⟩ := gives left₁
  refine ⟨s₂, left₂, ?_⟩
  have headed : source.pull Header.length s = .ok _ s₁ := headed
  rw [readOnto]
  split
  · next failed => cases failed.symm.trans headed
  · next pulled =>
    cases pulled.symm.trans headed
    rw [Bytes.ofWire_toWire]
    simp only [parsed, inOrder]
    split
    · next failed => cases failed.symm.trans embodied
    · next pulled =>
      cases pulled.symm.trans embodied
      rfl

/-- A payload is put together from its packets. -/
theorem readOnto_of_framed (gives : source.Gives Left) (out : ByteArray) {payload rest : Bytes}
    (left : Left s (framed sequence payload ++ rest)) :
    ∃ s', Left s' rest ∧ readOnto source out ⟨sequence, s⟩ =
      .ok (out ++ payload.toWire) ⟨following sequence payload.length, s'⟩ := by
  fun_induction framed sequence payload generalizing out s with
  | case1 sequence payload last =>
    obtain ⟨s', left', read⟩ := readOnto_of_head gives out (Nat.le_of_lt last) left
    rw [if_pos last, ← following_of_lt last] at read
    exact ⟨s', left', read⟩
  | case2 sequence payload more ih =>
    have full : maxPayload ≤ payload.length := Nat.not_lt.mp more
    have size : (payload.take maxPayload).length = maxPayload := List.length_take_of_le full
    have first : Left s (Header.bytes ⟨(payload.take maxPayload).length, sequence⟩ ++
        payload.take maxPayload ++ (framed (sequence + 1) (payload.drop maxPayload) ++ rest)) := by
      rw [size, ← List.append_assoc]
      exact left
    obtain ⟨s₁, left₁, read₁⟩ := readOnto_of_head gives out (Nat.le_of_eq size) first
    rw [size, if_neg (Nat.lt_irrefl _)] at read₁
    obtain ⟨s₂, left₂, read₂⟩ := ih (out ++ Bytes.toWire (payload.take maxPayload)) left₁
    refine ⟨s₂, left₂, ?_⟩
    rw [read₁, read₂, List.length_drop, following_of_le full, ByteArray.append_assoc,
      ← Bytes.toWire_append, List.take_append_drop]

end Reading

/-! ## Arrays -/

namespace Cursor

variable {fault : Error} {cursor cursor' : Cursor}

/-- The bytes that were not taken. -/
def rest (cursor : Cursor) : Bytes := (Bytes.ofWire cursor.data).drop cursor.at_

/-- Of this array these bytes are left. -/
def Leaves (data : ByteArray) (cursor : Cursor) (bytes : Bytes) : Prop :=
  cursor.data = data ∧ cursor.at_ + bytes.length = data.size ∧ cursor.rest = bytes

theorem gives_source (fault : Error) (data : ByteArray) :
    (source fault).Gives (Leaves data) := by
  rintro cursor bytes rest ⟨rfl, stop, left⟩
  rw [List.length_append] at stop
  refine ⟨{ cursor with at_ := cursor.at_ + bytes.length }, ?_, rfl, by simp only; omega, ?_⟩
  · show pull fault bytes.length cursor = _
    rw [pull, if_pos (by omega), ← Bytes.toWire_ofWire (cursor.data.extract _ _),
      Bytes.ofWire_extract, Nat.add_sub_cancel_left]
    exact congrArg (Result.ok · _)
      (congrArg Bytes.toWire ((congrArg (List.take _) left).trans List.take_left))
  · have := congrArg (List.drop bytes.length) left
    rwa [List.drop_left, Cursor.rest, List.drop_drop] at this

theorem rest_of_pull {n : Nat} {bytes : ByteArray}
    (h : (source fault).pull n cursor = .ok bytes cursor') :
    cursor.rest = Bytes.ofWire bytes ++ cursor'.rest ∧ bytes.size = n ∧
      cursor' = { cursor with at_ := cursor.at_ + n } := by
  have h : pull fault n cursor = _ := h
  unfold pull at h
  split at h
  · cases h
    refine ⟨?_, by rw [ByteArray.size_extract]; omega, rfl⟩
    rw [Bytes.ofWire_extract, Nat.add_sub_cancel_left, rest, rest, ← List.drop_drop,
      List.take_append_drop]
  · cases h

/-- The header and the body that were pulled are a packet under the expected number. -/
theorem rest_of_packet {head body : ByteArray} {header : Header} {expected sequence : UInt8}
    {cursor₁ : Cursor} (headed : (source fault).pull Header.length cursor = .ok head cursor₁)
    (parsed : Header.parse? (Bytes.ofWire head) = some header)
    (inOrder : checkSequence expected header.sequence = .ok sequence)
    (embodied : (source fault).pull header.size cursor₁ = .ok body cursor') :
    header.size ≤ maxPayload ∧ body.size = header.size ∧ sequence = expected + 1 ∧
      cursor.rest =
        Header.bytes ⟨header.size, expected⟩ ++ Bytes.ofWire body ++ cursor'.rest ∧
      cursor' = { cursor with at_ := cursor.at_ + (Header.length + header.size) } := by
  obtain ⟨rest₁, -, rfl⟩ := rest_of_pull headed
  obtain ⟨rest₂, size, rfl⟩ := rest_of_pull embodied
  obtain ⟨written, fits⟩ := bytes_of_parse? parsed
  unfold checkSequence at inOrder
  split at inOrder
  · next same =>
    cases inOrder
    rw [← beq_iff_eq.mp same]
    refine ⟨fits, size, rfl, ?_, by simp only [Nat.add_assoc]⟩
    rw [rest₁, rest₂, ← written, List.append_assoc]
  · cases inOrder

theorem length_packet {size : Nat} {sequence : UInt8} (body : Bytes) :
    (Header.bytes ⟨size, sequence⟩ ++ body).length = Header.length + body.length := by
  rw [List.length_append]
  rfl

/-- What is read from an array was there in packets. -/
theorem framed_of_readOnto {out payload : ByteArray} {i i' : Incoming Cursor}
    (h : readOnto (source fault) out i = .ok payload i') :
    ∃ body, payload = out ++ Bytes.toWire body ∧
      i.source.rest = framed i.sequence body ++ i'.source.rest ∧
      i' = ⟨following i.sequence body.length,
        { i.source with at_ := i.source.at_ + (framed i.sequence body).length }⟩ := by
  fun_induction readOnto (source fault) out i with
  | case1 | case2 | case3 | case4 => cases h
  | case5 out i head s headed header parsed sequence inOrder body s' embodied last =>
    obtain ⟨-, size, rfl, rest, rfl⟩ := rest_of_packet headed parsed inOrder embodied
    cases h
    have length : (Bytes.ofWire body).length = header.size := size
    refine ⟨Bytes.ofWire body, by rw [Bytes.toWire_ofWire], ?_, ?_⟩
    · rw [framed, if_pos (by omega), length]
      exact rest
    · rw [framed, if_pos (by omega), length, length_packet, length, following_of_lt last]
  | case6 out i head s headed header parsed sequence inOrder body s' embodied more ih =>
    obtain ⟨fits, size, rfl, rest, rfl⟩ := rest_of_packet headed parsed inOrder embodied
    obtain ⟨behind, rfl, rest', rfl⟩ := ih h
    have full : header.size = maxPayload := by omega
    have length : (Bytes.ofWire body).length = maxPayload := by rw [Bytes.length_ofWire]; omega
    -- The packets of the whole are this one and those of what is behind it.
    have packets : framed i.sequence (Bytes.ofWire body ++ behind) =
        Header.bytes ⟨maxPayload, i.sequence⟩ ++ Bytes.ofWire body ++
          framed (i.sequence + 1) behind := by
      rw [framed, if_neg (by rw [List.length_append]; omega), ← length, List.take_left,
        List.drop_left]
    refine ⟨Bytes.ofWire body ++ behind, ?_, ?_, ?_⟩
    · rw [Bytes.toWire_append, Bytes.toWire_ofWire, ByteArray.append_assoc]
    · dsimp only at rest'
      rw [packets, rest, rest', full]
      simp only [List.append_assoc]
    · have stop : (framed i.sequence (Bytes.ofWire body ++ behind)).length =
          Header.length + maxPayload + (framed (i.sequence + 1) behind).length := by
        rw [packets, List.length_append, length_packet, length]
      have number : following i.sequence (Bytes.ofWire body ++ behind).length =
          following (i.sequence + 1) behind.length := by
        rw [List.length_append, length, ← following_of_le (Nat.le_add_right ..),
          Nat.add_sub_cancel_left]
      rw [stop, number, full]
      simp only [Nat.add_assoc]

theorem leaves_rest (some : cursor.rest ≠ []) : Leaves cursor.data cursor cursor.rest := by
  have length : cursor.rest.length = cursor.data.size - cursor.at_ := by
    rw [rest, List.length_drop, Bytes.length_ofWire]
  have := List.length_pos_iff.mpr some
  exact ⟨rfl, by omega, rfl⟩

end Cursor

theorem framed_ne_nil (sequence : UInt8) (payload : Bytes) : framed sequence payload ≠ [] := by
  rw [framed]
  split <;> simp [Header.bytes]

/-- A payload goes out as packets under the numbers from `sequence` on, one more than full ones fit
into it, and the number that follows them is the writer's next one. An array gives the payload to a
reader that expects `sequence` exactly if these packets come next in it; they are all that is taken,
and the reader then expects what the writer's next number is. -/
theorem read_eq_ok_iff {send : ByteArray → EStateM Error σ Unit} {wire : σ → Bytes}
    (moves : Delivers send fun s sent => wire s = sent) (payload : ByteArray) (sequence : UInt8)
    (sink : σ) :
    ∃ o bodies, write send payload none ⟨ByteArray.empty, sequence, sink⟩ = .ok () o ∧
      wire o.sink ++ Bytes.ofWire o.pending = wire sink ++ numbered sequence bodies ∧
      Cut (Bytes.ofWire payload) bodies ∧ bodies.length = payload.size / maxPayload + 1 ∧
      o.sequence = sequence + UInt8.ofNat bodies.length ∧
      ∀ (fault : Error) (cursor : Cursor) (i : Incoming Cursor),
        read (Cursor.source fault) ⟨sequence, cursor⟩ = .ok payload i ↔
          numbered sequence bodies <+: cursor.rest ∧
            i = ⟨o.sequence,
              { cursor with at_ := cursor.at_ + (numbered sequence bodies).length }⟩ := by
  have start : Outgoing.Holds (fun s sent => wire s = sent)
      ⟨ByteArray.empty, sequence, sink⟩ (wire sink) := ⟨wire sink, rfl, List.append_nil _⟩
  obtain ⟨o, wrote, ⟨sent, sent_eq, held⟩, number⟩ := writeFrom_of_delivers moves payload 0 start
  obtain ⟨bodies, cut, length, packets⟩ := exists_bodies sequence (Bytes.ofWire payload)
  rw [Nat.sub_zero] at number
  rw [List.drop_zero, packets] at held
  rw [Bytes.length_ofWire] at length
  refine ⟨o, bodies, wrote, ?_, cut, length, by rw [number, length, following], ?_⟩
  · rw [sent_eq, held]
  intro fault cursor i
  rw [← packets, number]
  constructor
  · intro reads
    obtain ⟨body, payload_eq, rest, after⟩ := Cursor.framed_of_readOnto reads
    have body_eq : body = Bytes.ofWire payload := by
      rw [payload_eq, ByteArray.empty_append, Bytes.ofWire_toWire]
    rw [body_eq, Bytes.length_ofWire] at after
    rw [body_eq] at rest
    exact ⟨⟨_, rest.symm⟩, after⟩
  · rintro ⟨⟨further, rest⟩, rfl⟩
    have some : cursor.rest ≠ [] := by
      rw [← rest]
      exact List.append_ne_nil_of_left_ne_nil (framed_ne_nil _ _) _
    have left := Cursor.leaves_rest some
    rw [← rest] at left
    obtain ⟨cursor', ⟨data, stop, -⟩, reads⟩ :=
      readOnto_of_framed (Cursor.gives_source fault cursor.data) ByteArray.empty left
    have at_ : cursor'.at_ = cursor.at_ + (framed sequence (Bytes.ofWire payload)).length := by
      have := left.2.1
      rw [List.length_append] at this
      omega
    refine reads.trans ?_
    rw [ByteArray.empty_append, Bytes.toWire_ofWire, Bytes.length_ofWire, ← at_, ← data]

/-- Keeps everything. -/
def collect : ByteArray → EStateM Error Bytes Unit := fun bytes wire =>
  .ok () (wire ++ Bytes.ofWire bytes)

/-- A full packet is followed by an empty one, and the numbers begin anew between them. -/
theorem read_fullPacket :
    Delivers collect (fun wire sent => wire = sent) ∧
      ∃ o bodies, write collect (List.replicate maxPayload 7).toByteArray none
          ⟨ByteArray.empty, 255, []⟩ = .ok () o ∧ bodies.length = 2 ∧ o.sequence = 1 ∧
        read (Cursor.source (.io .endOfStream))
            ⟨255, ⟨Bytes.toWire (numbered 255 bodies ++ [0]), 0⟩⟩ =
          .ok (List.replicate maxPayload 7).toByteArray
            ⟨1, ⟨Bytes.toWire (numbered 255 bodies ++ [0]), (numbered 255 bodies).length⟩⟩ := by
  have moves : Delivers collect (fun wire sent => wire = sent) := by
    rintro wire _ bytes rfl
    exact ⟨_, rfl, rfl⟩
  obtain ⟨o, bodies, wrote, -, -, length, number, reads⟩ :=
    read_eq_ok_iff moves (List.replicate maxPayload 7).toByteArray 255 []
  have size : (List.replicate maxPayload (7 : UInt8)).toByteArray.size = maxPayload := by
    rw [List.size_toByteArray, List.length_replicate]
  rw [size] at length
  have two : bodies.length = 2 := length
  rw [two] at number
  refine ⟨moves, o, bodies, wrote, two, number, ?_⟩
  refine (reads _ _ _).mpr ⟨⟨[0], ?_⟩, ?_⟩
  · simp [Cursor.rest]
  · rw [number, Nat.zero_add]
    rfl

end SqlWire.Packet
