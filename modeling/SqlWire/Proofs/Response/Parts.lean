import SqlWire.Exchange.Streaming
import SqlWire.Proofs.Response.Retold

/-!
# Responses in parts

With a fetch size a response may be given out in parts: the results before the first suspension with
the rows that are there, the rows of each later suspension, and what the reader completes with. So
`readFor` and `readStreaming` drive a reader (`reads_of_readFor`, `reads_of_readStreaming`).

Two readers of the same packets are compared, one without a fetch size and one with it. They go
through three phases: before anything is given out the second one is the first one retold; while a
result set is given out its buffer is the end of the first one's (`parts_of_rows`); and behind that set
it is the first one again, with other results before its own. So the parts put together are the
response as a whole (`divided_of_whole`).
-/

namespace SqlWire

open Exchange (Stop)

namespace Reader

open Session (Context)

variable {r r' : Reader} {packet : ByteArray} {packets left : List ByteArray} {ctx ctx' : Context}
  {wanted : ReadStep} {completions : Array Completion} {size : Nat}

/-- What is given out of a response from a reader that was suspended: the rows of each further
suspension, and what the reader completes with. -/
inductive Parts :
    Reader → List ByteArray → List (Array Row) → Array Completion → List ByteArray → Prop where
  | last {r r' : Reader} {packets left : List ByteArray} {completions : Array Completion} :
      r.Reads packets r' .done left → r'.finish = .ok (.ok (.completions completions)) →
      Parts r packets [] completions left
  | rows {r r' : Reader} {packets left left' : List ByteArray} {chunks : List (Array Row)}
      {completions : Array Completion} : r.Reads packets r' .suspended left →
      Parts r'.takeRows.2 left chunks completions left' →
      Parts r packets (r'.takeRows.1 :: chunks) completions left'

/-- Another packet is taken before the next part. -/
theorem Parts.next {chunks : List (Array Row)} (going : r.isDone = false)
    (taken : step packet (r, ctx) = .ok wanted (r', ctx')) (more : wanted ≠ .suspended)
    (parts : r'.Parts packets chunks completions left) :
    r.Parts (packet :: packets) chunks completions left := by
  cases parts with
  | last reads finished => exact .last (.next going taken more reads) finished
  | rows reads parts => exact .rows (.next going taken more reads) parts

/-! ## Ends -/

/-- A response that the server refuses has no results. -/
theorem not_refused {r₁ : Reader} {stop : Stop} {response : Response} (going : r.isDone = false)
    (lead : packet[0]? = some Lead.err) (taken : step packet (r, ctx) = .ok wanted (r', ctx'))
    (reads : r'.Reads packets r₁ stop left) (finished : r₁.finish = .ok (.ok response)) : False := by
  unfold step at taken
  dsimp only at taken
  rw [if_pos (by simp [lead, going])] at taken
  split at taken
  · cases taken
  · cases taken
    cases reads with
    | done => cases finished
    | suspended going | next going => cases going

/-- A reader that completes with results completes with its own, and so does any other one at this
stage. -/
theorem finish_completions (finished : r.finish = .ok (.ok (.completions completions))) :
    completions = r.completions ∧ ∀ r' : Reader, r'.error = r.error → r'.stage = r.stage →
      r'.kind = r.kind → r'.finish = .ok (.ok (.completions r'.completions)) := by
  unfold finish at finished
  split at finished
  · cases finished
  · next none =>
    split at finished
    · cases finished
    · next done =>
      split at finished
      · cases finished
      · split at finished <;> cases finished
      all_goals
        next is =>
        cases finished
        refine ⟨rfl, fun r' error stage kind => ?_⟩
        have done' : r'.isDone = r.isDone := by rw [isDone, isDone, stage]
        unfold finish
        rw [error, none, done', kind, is]
        exact if_neg done

/-! ## Before anything is given out -/

/-- No result set is as long as a portion of `size` rows. -/
def Short (size : Nat) (completions : Array Completion) : Prop :=
  ∀ set, .rows set ∈ completions → set.rows.size < size

/-- A reader that keeps all rows that it may keep and has given out none. It has seen no portion of
`size` rows: its result sets are shorter, and there is room in the one that it reads. -/
structure Fresh (size : Nat) (r : Reader) : Prop where
  whole : r.fetchSize = 0
  once : r.suspendedOnce = false
  keeping : r.discarding = false
  room : ∀ set, r.current = some set → set.rows.size < size
  short : Short size r.completions

/-- Apart from rows, nothing else than a new result set comes into a reader, and it completes none. -/
structure Kept (r r' : Reader) : Prop where
  fetchSize : r'.fetchSize = r.fetchSize
  once : r'.suspendedOnce = r.suspendedOnce
  discarding : r'.discarding = r.discarding
  current : ∀ set, r'.current = some set → r.current = some set ∨ set.rows = #[]
  completions : ∀ set, .rows set ∈ r'.completions → .rows set ∈ r.completions

theorem Fresh.of_kept (fresh : r.Fresh size) (positive : 0 < size) (kept : r.Kept r') :
    r'.Fresh size where
  whole := kept.fetchSize.trans fresh.whole
  once := kept.once.trans fresh.once
  keeping := kept.discarding.trans fresh.keeping
  room set held := by
    rcases kept.current set held with before | empty
    · exact fresh.room set before
    · rw [empty]
      exact positive
  short set complete := fresh.short set (kept.completions set complete)

theorem Kept.of_same (fetchSize : r'.fetchSize = r.fetchSize) (once : r'.suspendedOnce = r.suspendedOnce)
    (discarding : r'.discarding = r.discarding) (current : r'.current = r.current)
    (completions : r'.completions = r.completions) : r.Kept r' :=
  ⟨fetchSize, once, discarding, fun _ held => .inl (current ▸ held), fun _ held => completions ▸ held⟩

theorem Kept.of_begun (fetchSize : r'.fetchSize = r.fetchSize) (once : r'.suspendedOnce = r.suspendedOnce)
    (discarding : r'.discarding = r.discarding) (completions : r'.completions = r.completions) :
    r.Kept r'.beginRows :=
  ⟨fetchSize, once, discarding, fun _ held => .inr (Option.some_inj.mp held ▸ rfl),
    fun _ held => completions ▸ held⟩

theorem kept_ok (ok : OkPacket) (more : Bool) :
    r.Kept ({ r with completions := r.completions.push (.ok ok) }.afterCompletion more) where
  fetchSize := rfl
  once := rfl
  discarding := rfl
  current _ held := .inl held
  completions _ held := (Array.mem_push.mp held).resolve_right nofun

theorem kept_firstOfPrepare {packet : Bytes} :
    r.Kept (r.firstOfPrepare packet ctx).state.1 := by
  unfold firstOfPrepare
  split
  · split <;> exact .of_same rfl rfl rfl rfl rfl
  · exact .of_same rfl rfl rfl rfl rfl

theorem kept_firstOfResult {packet : Bytes} : r.Kept (r.firstOfResult packet ctx).state.1 := by
  unfold firstOfResult
  split
  · exact .of_same rfl rfl rfl rfl rfl
  · split
    · split
      · exact .of_same rfl rfl rfl rfl rfl
      · exact kept_ok ..
    · split
      · exact .of_same rfl rfl rfl rfl rfl
      · split
        · exact .of_same rfl rfl rfl rfl rfl
        · split <;> exact .of_same rfl rfl rfl rfl rfl

theorem kept_column {packet : Bytes} {remaining : Nat} :
    r.Kept (r.column packet ctx remaining).state.1 := by
  unfold Reader.column
  split
  · exact .of_same rfl rfl rfl rfl rfl
  · dsimp only [EStateM.Result.state]
    split
    · exact .of_same rfl rfl rfl rfl rfl
    · split
      · exact .of_begun rfl rfl rfl rfl
      · exact .of_same rfl rfl rfl rfl rfl

theorem kept_definition {packet : Bytes} {add : Column → Pending → Pending} {next : Reader → Stage} :
    r.Kept (r.definition packet ctx add next).state.1 := by
  unfold definition
  split
  · exact .of_same rfl rfl rfl rfl rfl
  · split <;> exact .of_same rfl rfl rfl rfl rfl

theorem kept_definitionsEnd {packet : Bytes} {next : Reader} (kept : r.Kept next) :
    r.Kept (r.definitionsEnd packet ctx next).state.1 := by
  unfold definitionsEnd
  split
  · exact .of_same rfl rfl rfl rfl rfl
  · exact kept

theorem kept_accept (stage : r.stage ≠ .rows) : r.Kept (r.accept packet ctx).state.1 := by
  unfold accept
  split
  case h_1 =>
    split
    · exact kept_firstOfPrepare
    · exact kept_firstOfResult
  case h_2 => exact kept_column
  case h_3 => exact kept_definitionsEnd (.of_begun rfl rfl rfl rfl)
  case h_4 rows => exact absurd rows stage
  case h_5 => exact kept_definition
  case h_6 => exact kept_definitionsEnd (.of_same rfl rfl rfl rfl rfl)
  case h_7 => exact kept_definition
  case h_8 => exact kept_definitionsEnd (.of_same rfl rfl rfl rfl rfl)
  case h_9 => exact .of_same rfl rfl rfl rfl rfl

theorem Fresh.step (fresh : r.Fresh size) (positive : 0 < size)
    (stage : r.stage ≠ .rows) (lead : packet[0]? ≠ some Lead.err)
    (taken : Reader.step packet (r, ctx) = .ok wanted (r', ctx')) : r'.Fresh size := by
  rw [step_of_lead lead] at taken
  have kept : r.Kept (r.accept packet ctx).state.1 := kept_accept stage
  rw [taken] at kept
  exact fresh.of_kept positive kept

theorem Fresh.endRows (fresh : r.Fresh size) (more : Bool) : (r.endRows more).Fresh size where
  whole := fetchSize_endRows more fresh.whole
  once := fresh.once
  keeping := fresh.keeping
  room := nofun
  short set complete := by
    unfold Reader.endRows at complete
    rw [fresh.keeping] at complete
    cases current : r.current with
    | none =>
      rw [current] at complete
      exact fresh.short set complete
    | some last =>
      rw [current] at complete
      rcases Array.mem_push.mp complete with before | ended
      · exact fresh.short set before
      · rw [Completion.rows.inj ended]
        exact fresh.room last current

theorem fresh_new (command : Command) (deprecateEof : Bool) (options : StatementOptions) :
    (new command deprecateEof { options with fetchSize := 0 }).Fresh size where
  whole := rfl
  once := rfl
  keeping := rfl
  room _ held := nomatch (held : none = some _)
  short _ complete := absurd complete (Array.not_mem_empty _)

/-! ## While a result set is given out -/

/-- The reader in parts beside one that reads as a whole: it has only the last rows of the result set,
and no results before it. -/
def portioned (r : Reader) (size : Nat) (set : ResultSet) (rows : Array Row) : Reader :=
  { r with
    fetchSize := size
    suspendedOnce := true
    completions := #[]
    current := some { set with rows } }

/-- The rows that are there when another one was taken. -/
def grown (r : Reader) (packet : ByteArray) (rows : Array Row) : Array Row :=
  if r.keepsNext then rows.push ⟨packet, r.kind == .binary⟩ else rows

theorem extend_eq (set : ResultSet) : r.extend packet set = { set with rows := r.grown packet set.rows } :=
  rfl

theorem grown_append (given rows : Array Row) :
    r.grown packet (given ++ rows) = given ++ r.grown packet rows := by
  unfold grown
  split
  · exact Array.append_push.symm
  · rfl

theorem size_grown_le (rows : Array Row) : (r.grown packet rows).size ≤ rows.size + 1 := by
  unfold grown
  split
  · exact Nat.le_of_eq (Array.size_push _)
  · exact Nat.le_succ _

theorem isFull_portioned {set : ResultSet} (positive : 0 < size) (rows : Array Row) :
    (r.portioned size set rows).isFull ((r.portioned size set rows).extend packet { set with rows }) =
      decide (size ≤ (r.grown packet rows).size) := by
  have full : (r.portioned size set rows).isFull
      ((r.portioned size set rows).extend packet { set with rows }) =
      (decide (0 < size) && decide (size ≤ (r.grown packet rows).size)) := rfl
  rw [full, decide_eq_true positive, Bool.true_and]

/-- The chunks behind what was given, and the last rows. -/
def joined (given : Array Row) (chunks : List (Array Row)) (rows : Array Row) : Array Row :=
  chunks.foldl (· ++ ·) given ++ rows

theorem parts_of_rows {set : ResultSet} {given rows : Array Row} (positive : 0 < size)
    (reads : r.Reads packets r' .done left)
    (finished : r'.finish = .ok (.ok (.completions completions))) (stage : r.stage = .rows)
    (whole : r.fetchSize = 0) (keeping : r.discarding = false)
    (current : r.current = some { set with rows := given ++ rows }) (room : rows.size < size) :
    ∃ chunks last after,
      (r.portioned size set rows).Parts packets chunks
        (#[.rows { set with rows := last, streaming := false }] ++ after) left ∧
      (∀ chunk ∈ chunks, chunk.size = size) ∧ last.size < size ∧
      completions = r.completions ++
        #[.rows { set with rows := joined given chunks last, streaming := false }] ++ after := by
  generalize stop_eq : Stop.done = stop at reads
  induction reads generalizing given rows with
  | done done => simp [isDone, stage] at done
  | suspended => cases stop_eq
  | @next r r₁ r' ctx ctx₁ wanted packet packets left stop going taken more reads ih =>
    subst stop_eq
    have lead : packet[0]? ≠ some Lead.err := fun lead => not_refused going lead taken reads finished
    have going' : (r.portioned size set rows).isDone = false := going
    rcases row_cases stage lead taken with ⟨status, warnings, last, ended, rfl, rfl⟩ |
      ⟨set', between, held, rfl, rfl⟩
    · -- The result set ends: behind it both readers go on alike.
      obtain ⟨rest, rest_eq⟩ : ∃ rest : Reader, rest =
        { r with fetchSize := 0, current := none, completions := #[] }.afterCompletion
          status.moreResults := ⟨_, rfl⟩
      have ends : r.endRows status.moreResults = rest.retold 0 r.suspendedOnce
          (r.completions ++ #[.rows { set with rows := given ++ rows, streaming := false }]) := by
        simp [endRows, current, keeping, whole, rest_eq, retold, afterCompletion]
      have ends' : (r.portioned size set rows).endRows status.moreResults =
          rest.retold 0 true #[.rows { set with rows, streaming := false }] := by
        simp [endRows, portioned, keeping, rest_eq, retold, afterCompletion]
      have whole' : rest.fetchSize = 0 := by rw [rest_eq]; rfl
      have retaken : step packet (r.portioned size set rows, ctx) = _ :=
        step_of_resultEnd stage lead last ended
      rw [ends'] at retaken
      rw [ends, reads_retold_iff whole'] at reads
      obtain ⟨r₁, reads, rfl⟩ := reads
      obtain ⟨rfl, same⟩ := finish_completions finished
      have reads' : (rest.retold 0 true #[.rows { set with rows, streaming := false }]).Reads _ _ _ _ :=
        (reads_retold_iff whole').mpr ⟨r₁, reads, rfl⟩
      exact ⟨[], rows, r₁.completions,
        .last (.next going' retaken (progress_ne _) reads') (same _ rfl rfl rfl),
        List.forall_mem_nil _, room, rfl⟩
    · obtain rfl := Option.some_inj.mp (current.symm.trans held)
      have held' : (r.portioned size set rows).current = some { set with rows } := rfl
      have retaken : step packet (r.portioned size set rows, ctx) = _ :=
        step_of_row stage lead between held'
      have now : (r.withRow (r.extend packet { set with rows := given ++ rows })).current =
          some { set with rows := given ++ r.grown packet rows } := by
        rw [extend_eq, grown_append]
        rfl
      have size_le : (r.grown packet rows).size ≤ rows.size + 1 := size_grown_le rows
      by_cases full : size ≤ (r.grown packet rows).size
      · -- The chunk is complete, and the next one begins.
        rw [if_pos ((isFull_portioned positive rows).trans (decide_eq_true full))] at retaken
        rw [← @Array.append_empty _ (given ++ r.grown packet rows)] at now
        obtain ⟨chunks, last, after, parts, sizes, all⟩ :=
          ih finished stage whole keeping now positive rfl
        refine ⟨r.grown packet rows :: chunks, last, after, .rows (.suspended going' retaken) parts,
          ?_, all⟩
        exact List.forall_mem_cons.mpr ⟨by omega, sizes⟩
      · have short : (r.portioned size set rows).isFull
            ((r.portioned size set rows).extend packet { set with rows }) = false :=
          (isFull_portioned positive rows).trans (decide_eq_false full)
        rw [if_neg (Bool.eq_false_iff.mp short)] at retaken
        obtain ⟨chunks, last, after, parts, sizes, all⟩ :=
          ih finished stage whole keeping now (Nat.lt_of_not_le full) rfl
        exact ⟨chunks, last, after, .next going' retaken needPacket_ne parts, sizes, all⟩

/-! ## Responses -/

/-- The reader gives the response out in parts of `size` rows: first what was complete and the rows of
`set` that are there, then chunks, then the rest. Put together, they are these results. -/
def Divides (size : Nat) (r : Reader) (packets : List ByteArray) (completions : Array Completion)
    (left : List ByteArray) : Prop :=
  ∃ (r₁ : Reader) (left₁ : List ByteArray) (set : ResultSet) (chunks : List (Array Row))
    (last : Array Row) (after : Array Completion),
    r.Reads packets r₁ .suspended left₁ ∧
      r₁.takeCompletions.2.takePartial.1 = some { set with streaming := true } ∧
      r₁.takeCompletions.2.takePartial.2.Parts left₁ chunks
        (#[.rows { set with rows := last, streaming := false }] ++ after) left ∧
      Short size r₁.takeCompletions.1 ∧ set.rows.size = size ∧
      (∀ chunk ∈ chunks, chunk.size = size) ∧ last.size < size ∧
      completions = r₁.takeCompletions.1 ++
        #[.rows { set with rows := joined set.rows chunks last, streaming := false }] ++ after

/-- Another packet is taken before the first part. -/
theorem Divides.next (going : r.isDone = false)
    (taken : step packet (r, ctx) = .ok wanted (r', ctx')) (more : wanted ≠ .suspended)
    (divides : r'.Divides size packets completions left) :
    r.Divides size (packet :: packets) completions left := by
  obtain ⟨r₁, left₁, set, chunks, last, after, reads, rest⟩ := divides
  exact ⟨r₁, left₁, set, chunks, last, after, .next going taken more reads, rest⟩

theorem divided_of_fresh (positive : 0 < size) (fresh : r.Fresh size)
    (reads : r.Reads packets r' .done left)
    (finished : r'.finish = .ok (.ok (.completions completions))) :
    (∃ r₁, (r.retold size false #[]).Reads packets r₁ .done left ∧
        r₁.finish = .ok (.ok (.completions completions)) ∧ Short size completions) ∨
      (r.retold size false #[]).Divides size packets completions left := by
  generalize stop_eq : Stop.done = stop at reads
  induction reads with
  | @done r packets done =>
    obtain ⟨rfl, same⟩ := finish_completions finished
    have retold : (r.retold size false #[]).completions = r.completions := Array.empty_append ..
    refine .inl ⟨r.retold size false #[], .done done, ?_, fresh.short⟩
    rw [same (r.retold size false #[]) rfl rfl rfl, retold]
  | suspended => cases stop_eq
  | @next r r₁ r' ctx ctx₁ wanted packet packets left stop going taken more reads ih =>
    subst stop_eq
    have lead : packet[0]? ≠ some Lead.err := fun lead => not_refused going lead taken reads finished
    have going' : (r.retold size false #[]).isDone = false := going
    -- Where both readers take the packet alike, they go on.
    have alike {wanted' : ReadStep} {ctx' : Context} (fresh : r₁.Fresh size) (more : wanted' ≠ .suspended)
        (retaken : step packet (r.retold size false #[], ctx) =
          .ok wanted' (r₁.retold size false #[], ctx')) :
        (∃ r₂, (r.retold size false #[]).Reads (packet :: packets) r₂ .done left ∧
            r₂.finish = .ok (.ok (.completions completions)) ∧ Short size completions) ∨
          (r.retold size false #[]).Divides size (packet :: packets) completions left := by
      rcases ih fresh finished rfl with ⟨r₂, reads, finished⟩ | divides
      · exact .inl ⟨r₂, .next going' retaken more reads, finished⟩
      · exact .inr (divides.next going' retaken more)
    by_cases stage : r.stage = .rows
    · rcases row_cases stage lead taken with ⟨status, warnings, last, ended, rfl, rfl⟩ |
        ⟨set, between, current, rfl, rfl⟩
      · have retaken : step packet (r.retold size false #[], ctx) = _ :=
          step_of_resultEnd stage lead last ended
        rw [endRows_retold _ (nofun : false = true → size = 0)] at retaken
        exact alike (fresh.endRows _) (progress_ne _) retaken
      · have retaken : step packet (r.retold size false #[], ctx) = _ :=
          step_of_row stage lead between current
        have full_eq : (r.retold size false #[]).isFull ((r.retold size false #[]).extend packet set) =
            (decide (0 < size) && decide (size ≤ (r.extend packet set).rows.size)) := rfl
        rw [decide_eq_true positive, Bool.true_and] at full_eq
        have size_le : (r.extend packet set).rows.size ≤ set.rows.size + 1 := size_grown_le _
        have room := fresh.room set current
        by_cases full : size ≤ (r.extend packet set).rows.size
        · -- The first part: what is left is read in portions.
          have reached := full_eq.trans (decide_eq_true full)
          rw [if_pos reached] at retaken
          have now : (r.withRow (r.extend packet set)).current =
              some { r.extend packet set with rows := (r.extend packet set).rows ++ #[] } := by
            rw [Array.append_empty]
            rfl
          obtain ⟨chunks, last, after, parts, sizes, shorter, all⟩ :=
            parts_of_rows positive reads finished stage fresh.whole fresh.keeping now positive
          have own : r.completions = (r.retold size false #[]).completions := (Array.empty_append ..).symm
          refine .inr ⟨_, packets, r.extend packet set, chunks, last, after, .suspended going' retaken,
            rfl, ?_, ?_, by omega, sizes, shorter, ?_⟩
          · have portioned_eq : ((r.retold size false #[]).withRow ((r.retold size false #[]).extend
                packet set)).takeCompletions.2.takePartial.2 =
                (r.withRow (r.extend packet set)).portioned size (r.extend packet set) #[] := by
              simp only [withRow, reached]
              rfl
            rw [portioned_eq]
            exact parts
          · have short : Short size (r.retold size false #[]).completions := own ▸ fresh.short
            exact short
          · exact all.trans (own ▸ rfl)
        · have short := full_eq.trans (decide_eq_false full)
          rw [if_neg (Bool.eq_false_iff.mp short)] at retaken
          have both : (r.retold size false #[]).withRow ((r.retold size false #[]).extend packet set) =
              (r.withRow (r.extend packet set)).retold size false #[] := by
            simp only [withRow, short]
            rfl
          rw [both] at retaken
          refine alike ⟨fresh.whole, ?_, fresh.keeping, ?_, fresh.short⟩ needPacket_ne retaken
          · change (r.suspendedOnce || r.isFull _) = false
            rw [fresh.once, isFull_zero fresh.whole, Bool.false_or]
          · intro set' held
            obtain rfl := Option.some_inj.mp held
            exact Nat.lt_of_not_le full
    · have retaken : step packet (r.retold size false #[], ctx) = _ := step_retold (.inl stage)
      rw [taken] at retaken
      exact alike (fresh.step positive stage lead taken) more retaken

/-- A response that is read as a whole is read in portions of any size: it is given out as a whole when
no result set is as long as a portion, and else in parts that are this response when put together. -/
theorem divided_of_whole (command : Command) (deprecateEof : Bool) (options : StatementOptions)
    (positive : 0 < size)
    (reads : (new command deprecateEof { options with fetchSize := 0 }).Reads packets r .done left)
    (finished : r.finish = .ok (.ok (.completions completions))) :
    (∃ r', (new command deprecateEof { options with fetchSize := size }).Reads packets r' .done left ∧
        r'.finish = .ok (.ok (.completions completions)) ∧ Short size completions) ∨
      (new command deprecateEof { options with fetchSize := size }).Divides size packets completions
        left :=
  divided_of_fresh positive (fresh_new ..) reads finished

/-- A result set of one column with three rows, where rows end with an EOF packet. -/
def threeRows : List ByteArray :=
  [⟨#[1]⟩, ⟨#[0, 0, 0, 0, 0, 0, 12, 33, 0, 0, 0, 0, 0, 3, 0, 0, 0, 0, 0]⟩, ⟨#[254, 0, 0, 2, 0]⟩,
    ⟨#[0]⟩, ⟨#[1, 48]⟩, ⟨#[251]⟩, ⟨#[254, 0, 0, 2, 0]⟩]

def threeRowsSet : ResultSet where
  columns := #[⟨"", "", "", "", "", 33, 0, 3, 0, 0⟩]
  rows := #[⟨⟨#[0]⟩, false⟩, ⟨⟨#[1, 48]⟩, false⟩, ⟨⟨#[251]⟩, false⟩]
  streaming := false

theorem divided_threeRows : (new (.query "") false { fetchSize := 2 }).Divides 2 threeRows
    #[.rows threeRowsSet] [] := by
  let ctx : Context := .new ⟨⟨0⟩, ⟨0⟩, 1, "", [], 0, false, ""⟩ {}
  have next {r r₁ r₂ : Reader} {ctx' : Context} {wanted : ReadStep} {packet : ByteArray}
      {packets : List ByteArray} (going : r.isDone = false)
      (taken : step packet (r, ctx) = .ok wanted (r₁, ctx')) (more : wanted ≠ .suspended)
      (reads : r₁.Reads packets r₂ .done []) : r.Reads (packet :: packets) r₂ .done [] :=
    .next going taken more reads
  obtain ⟨r, reads, finished⟩ :
      ∃ r, (new (.query "") false { fetchSize := 0 }).Reads threeRows r .done [] ∧
        r.finish = .ok (.ok (.completions #[.rows threeRowsSet])) :=
    ⟨_, next rfl rfl nofun (next rfl rfl nofun (next rfl rfl nofun (next rfl rfl nofun
      (next rfl rfl nofun (next rfl rfl nofun (next rfl rfl nofun (.done rfl))))))), rfl⟩
  refine (divided_of_whole (.query "") false {} (by decide : 0 < 2) reads finished).resolve_left ?_
  rintro ⟨_, _, _, short⟩
  exact absurd (short threeRowsSet (by simp)) (by decide)

end Reader

/-! ## Drivers -/

namespace Exchange

variable {env : Net.Env} {command : Command} {c c' : Client}

/-- The first part of a response is read by a new reader, which is kept if it was suspended. -/
theorem reads_of_readFor {mark : Mark} {options : StatementOptions} {response : Response}
    (read : readFor env command mark options c = .ok response c') :
    ∃ packets r stop left,
      (Reader.new command c.ctx.deprecateEof options).Reads packets r stop left ∧
        match stop with
        | .done => r.finish = .ok (.ok response)
        | .suspended =>
          response = .completions (r.takeCompletions.1 ++
              (r.takeCompletions.2.takePartial.1.map Completion.rows).toArray) ∧
            c'.streaming = some ⟨r.takeCompletions.2.takePartial.2, command⟩ := by
  unfold readFor at read
  dsimp only at read
  split at read
  · cases read
  · next r c₁ untilStop =>
    obtain ⟨packets, left, reads⟩ := reads_of_readUntil untilStop
    cases read
    exact ⟨packets, r, .suspended, left, reads, rfl, rfl⟩
  · next r c₁ untilStop =>
    obtain ⟨packets, left, reads⟩ := reads_of_readUntil untilStop
    exact ⟨packets, r, .done, left, reads, finish_of_finishResponse read⟩

/-- A further part is read by the reader that was kept. -/
theorem reads_of_readStreaming {r : Reader} {part : Part} (streaming : c.streaming = some ⟨r, command⟩)
    (read : readStreaming env c = .ok part c') :
    ∃ packets r' stop left, r.Reads packets r' stop left ∧
      match stop with
      | .done => ∃ response, r'.finish = .ok (.ok response) ∧ part = .last response.toCompletions
      | .suspended => part = .rows r'.takeRows.1 ∧ c'.streaming = some ⟨r'.takeRows.2, command⟩ := by
  unfold readStreaming at read
  rw [EStateM.get_bind, streaming] at read
  dsimp only at read
  rw [EStateM.modify_bind] at read
  obtain ⟨⟨r', stop⟩, c₁, untilStop, rest⟩ := EStateM.ok_of_bind read
  obtain ⟨packets, left, reads⟩ := reads_of_readUntil untilStop
  refine ⟨packets, r', stop, left, reads, ?_⟩
  cases stop with
  | suspended =>
    cases rest
    exact ⟨rfl, rfl⟩
  | done =>
    obtain ⟨response, c₂, finished, given⟩ := EStateM.ok_of_bind rest
    cases given
    exact ⟨response, finish_of_finishResponse finished, rfl⟩

end Exchange

end SqlWire
