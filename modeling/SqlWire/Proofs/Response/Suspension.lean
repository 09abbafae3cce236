import SqlWire.Proofs.Response.Indifference
import SqlWire.Proofs.Response.Parts

/-!
# Which result set is given out in portions

A reader with a fetch size suspends with a row that fills a portion. At the end of a result set in which
it suspended it gives its fetch size up, and only there. So all its suspensions are in one result set of
a response, which is the first that fills a portion (`suspends_iff_fills`). It need not be the first of
the response: behind a shorter one the fetch size is still there.

A course (`Reader.course`) is what a reader makes of packets, whatever they are and whatever its
holder does between them. Each of its steps is a turn of one of three kinds (`turn_moment`): beside the
rows, at the end of a result set, or with a row. They keep `Poised`, which says what the fetch size
depends on in terms of the steps so far.
-/

namespace SqlWire.Reader

open Session (Context)

variable {r r' : Reader} {packet : ByteArray} {packets : List ByteArray} {ctx : Context}
  {size number : Nat}

/-- A step of a reader. -/
structure Moment where
  /-- How many result sets of the response had ended before. -/
  number : Nat
  before : Reader
  result : Result

/-- The step with which a reader takes a packet. -/
def moment (number : Nat) (r : Reader) (ctx : Context) (packet : ByteArray) : Moment :=
  ⟨number, r, step packet (r, ctx)⟩

namespace Moment

def after (m : Moment) : Reader := m.result.state.1

def suspends (m : Moment) : Bool :=
  match m.result with
  | .ok .suspended _ => true
  | _ => false

/-- A result set ends, with the response or before the next result. -/
def ends (m : Moment) : Bool := m.before.stage == .rows && m.after.stage != .rows

/-- A row of a result set is taken. -/
def takesRow (m : Moment) : Bool :=
  match m.result with
  | .ok _ _ => m.before.stage == .rows && m.after.stage == .rows
  | .error _ _ => false

/-- The rows that are there behind the step. -/
def buffered (m : Moment) : Nat := ((m.after.current.map (·.rows)).getD #[]).size

/-- A row is taken, and behind it there is a portion of `size` rows. -/
def fills (size : Nat) (m : Moment) : Bool :=
  m.takesRow && size ≤ m.buffered && !m.before.discarding

/-- How many result sets have ended behind the step. -/
def next (m : Moment) : Nat := if m.ends then m.number + 1 else m.number

end Moment

/-- The steps of a reader that takes these packets, with actions placed before the packet of each
number. -/
def course (r : Reader) (ctx : Context) (placed : Nat → List Action) (number : Nat) :
    List ByteArray → List Moment
  | [] => []
  | packet :: packets =>
    let before := (placed 0).foldl Action.apply r
    let m := moment number before ctx packet
    m :: m.after.course m.result.state.2 (fun i => placed (i + 1)) m.next packets

/-! ## What a step can do -/

/-- A step that neither takes a row nor sees the end of a result set. It may end the response. -/
structure Aside (r : Reader) (result : Result) : Prop where
  quiet : ∀ s, result ≠ .ok .suspended s
  fetchSize : result.state.1.fetchSize = r.fetchSize
  once : result.state.1.suspendedOnce = r.suspendedOnce
  discarding : result.state.1.discarding = r.discarding
  done : r.isDone = true → result.state.1.isDone = true
  rows : r.stage = .rows → (∃ fault s, result = .error fault s ∧ s.1.stage = .rows) ∨
    ∃ s, result = .ok .done s ∧ s.1.isDone = true

theorem Aside.of_error {fault : ProtocolFault} (stage : r'.stage = r.stage)
    (fetchSize : r'.fetchSize = r.fetchSize) (once : r'.suspendedOnce = r.suspendedOnce)
    (discarding : r'.discarding = r.discarding) : r.Aside (.error fault (r', ctx)) where
  quiet _ suspended := by cases suspended
  fetchSize := fetchSize
  once := once
  discarding := discarding
  done done := by
    rw [isDone, ← stage] at done
    exact done
  rows rows := .inl ⟨_, _, rfl, stage.trans rows⟩

/-- Only a row can suspend. -/
theorem quiet_step (stage : r.stage ≠ .rows) (s : Reader × Context) :
    step packet (r, ctx) ≠ .ok .suspended s := by
  -- The reader is one without a fetch size, retold, and that one never suspends.
  have told : r = (r.retold 0 false #[]).retold r.fetchSize r.suspendedOnce #[] := by
    simp [retold]
  have stage' : (r.retold 0 false #[]).stage ≠ .rows := stage
  rw [told, step_retold (.inl stage')]
  have calm : Calm (r.retold 0 false #[]) ctx (step packet (r.retold 0 false #[], ctx)) :=
    calm_step packet
  intro suspended
  cases result : step packet (r.retold 0 false #[], ctx) with
  | error fault s => rw [result] at suspended; cases suspended
  | ok wanted s =>
    rw [result] at suspended
    cases suspended
    exact (calm.whole rfl).2 _ result

theorem aside_accept (stage : r.stage ≠ .rows) (lead : packet[0]? ≠ some Lead.err) :
    r.Aside (step packet (r, ctx)) := by
  have quiet : ∀ s, step packet (r, ctx) ≠ .ok .suspended s := quiet_step stage
  rw [step_of_lead lead] at quiet ⊢
  have kept : r.Kept (r.accept packet ctx).state.1 := kept_accept stage
  refine ⟨quiet, kept.fetchSize, kept.once, kept.discarding, fun done => ?_, fun rows => absurd rows stage⟩
  have ended : r.stage = .done := by simpa [isDone] using done
  unfold accept
  dsimp only
  rw [ended]
  exact done

theorem step_of_done (ended : r.stage = .done) :
    step packet (r, ctx) = .error (.afterResponse (packet[0]?.getD 0)) (r, ctx) := by
  have done : r.isDone = true := by rw [isDone, ended]; rfl
  unfold step accept
  dsimp only
  rw [done, ended, if_neg (by simp)]

theorem aside_err (lead : packet[0]? = some Lead.err) : r.Aside (step packet (r, ctx)) := by
  by_cases ended : r.stage = .done
  · rw [step_of_done ended]
    exact .of_error rfl rfl rfl rfl
  · have going : r.isDone = false := by simpa [isDone] using ended
    cases parsed : ServerError.parse (Bytes.ofWire packet) with
    | error fault =>
      have refused : step packet (r, ctx) = .error fault (r, ctx) := by
        unfold step
        dsimp only
        rw [if_pos (by simp [lead, going]), parsed]
      rw [refused]
      exact .of_error rfl rfl rfl rfl
    | ok e =>
      rw [step_of_error going lead parsed]
      refine ⟨fun s suspended => ?_, rfl, rfl, rfl, fun _ => rfl, fun _ => .inr ⟨_, rfl, rfl⟩⟩
      cases suspended

/-- What a step can be: one beside the rows, the end of a result set, or a row of it. -/
inductive Turn (m : Moment) : Prop where
  | aside : m.before.Aside m.result → Turn m
  | ended {more : Bool} {ctx : Context} : m.before.stage = .rows →
      m.result = .ok (m.before.endRows more).progress (m.before.endRows more, ctx) → Turn m
  | row {set : ResultSet} {ctx : Context} : m.before.stage = .rows →
      m.result = .ok (if m.before.isFull set then .suspended else .needPacket)
        (m.before.withRow set, ctx) → Turn m

theorem turn_moment (number : Nat) (r : Reader) (ctx : Context) (packet : ByteArray) :
    Turn (moment number r ctx packet) := by
  by_cases lead : packet[0]? = some Lead.err
  · exact .aside (aside_err lead)
  by_cases stage : r.stage = .rows
  · have taken : step packet (r, ctx) = r.row packet ctx := by
      rw [step_of_lead lead, accept, stage]
    cases last : isResultEnd packet[0]? packet.size r.deprecateEof with
    | true =>
      cases ended : r.resultEnd (Bytes.ofWire packet) with
      | error fault =>
        refine .aside ?_
        rw [moment, taken, row, last, if_pos rfl, ended]
        exact .of_error rfl rfl rfl rfl
      | ok report => exact .ended stage (step_of_resultEnd stage lead last ended)
    | false =>
      cases current : r.current with
      | none =>
        refine .aside ?_
        rw [moment, taken, row, last, if_neg Bool.false_ne_true]
        dsimp only
        rw [current]
        exact .of_error rfl rfl rfl rfl
      | some set => exact .row stage (step_of_row stage lead last current)
  · exact .aside (aside_accept stage lead)

/-! ## What the fetch size depends on -/

variable {steps : List Moment} {m : Moment}

/-- The reader suspended in no other result set than this one. -/
def Alone (steps : List Moment) (number : Nat) : Prop :=
  ∀ m ∈ steps, m.suspends = true → m.number = number

theorem alone_append_iff :
    Alone (steps ++ [m]) number ↔ Alone steps number ∧ (m.suspends = true → m.number = number) := by
  simp [Alone, or_imp, forall_and]

theorem any_suspends_append :
    (steps ++ [m]).any Moment.suspends = (steps.any Moment.suspends || m.suspends) := by
  simp

/-- What a reader with a fetch size of `size` has made of the steps so far. Until the response ends, it
has the fetch size unless it suspended in a result set that is over. -/
structure Poised (size : Nat) (steps : List Moment) (number : Nat) (r : Reader) : Prop where
  inOrder : ∀ m ∈ steps, m.number ≤ number
  once : r.suspendedOnce = steps.any Moment.suspends
  portion : r.isDone = false → r.discarding = false → Alone steps number → r.fetchSize = size
  spent : r.isDone = false → ¬ Alone steps number → r.fetchSize = 0
  dropping : r.discarding = true → r.fetchSize = 0

theorem poised_new (command : Command) (deprecateEof : Bool) (options : StatementOptions) :
    Poised options.fetchSize [] 0 (new command deprecateEof options) where
  inOrder := List.forall_mem_nil _
  once := rfl
  portion _ _ _ := rfl
  spent _ other := absurd (List.forall_mem_nil _) other
  dropping := nofun

theorem Poised.apply (poised : Poised size steps number r) (action : Action) :
    Poised size steps number (action.apply r) := by
  obtain ⟨inOrder, once, portion, spent, dropping⟩ := poised
  cases action with
  | discard => exact ⟨inOrder, once, nofun, fun _ _ => rfl, fun _ => rfl⟩
  | takeRows | takePartial | takeCompletions => exact ⟨inOrder, once, portion, spent, dropping⟩

theorem Poised.applyAll (poised : Poised size steps number r) (actions : List Action) :
    Poised size steps number (actions.foldl Action.apply r) := by
  induction actions generalizing r with
  | nil => exact poised
  | cons action actions ih => exact ih (poised.apply action)

/-- Behind the end of a result set, no other one is meant by one that suspended only if none did. -/
theorem Poised.alone_succ_iff (poised : Poised size steps number r) :
    Alone steps (number + 1) ↔ r.suspendedOnce = false := by
  rw [poised.once, List.any_eq_false]
  refine forall₂_congr fun m mem => ⟨fun same suspends => ?_, fun quiet suspends => absurd suspends quiet⟩
  have le := poised.inOrder m mem
  have eq := same suspends
  omega

theorem Moment.inOrder_next (inOrder : ∀ m' ∈ steps, m'.number ≤ m.number) :
    ∀ m' ∈ steps ++ [m], m'.number ≤ m.next := by
  have le : m.number ≤ m.next := by unfold Moment.next; split <;> omega
  intro m' mem
  rcases List.mem_append.mp mem with before | last
  · exact Nat.le_trans (inOrder m' before) le
  · rw [List.mem_singleton.mp last]
    exact le

/-! ## Steps and what they keep -/

theorem suspends_iff : m.suspends = true ↔ ∃ s, m.result = .ok .suspended s := by
  unfold Moment.suspends
  split
  · next s taken => exact ⟨fun _ => ⟨s, taken⟩, fun _ => rfl⟩
  · next other => exact ⟨nofun, fun ⟨s, taken⟩ => absurd taken (other s)⟩

theorem Aside.not_suspends (aside : m.before.Aside m.result) : m.suspends = false :=
  Bool.eq_false_iff.mpr fun suspends => (suspends_iff.mp suspends).elim aside.quiet

theorem Aside.not_takesRow (aside : m.before.Aside m.result) : m.takesRow = false := by
  unfold Moment.takesRow
  split
  · next wanted s taken =>
    refine Bool.eq_false_iff.mpr fun row => ?_
    rw [Bool.and_eq_true, beq_iff_eq, beq_iff_eq] at row
    rcases aside.rows row.1 with ⟨_, _, refused, _⟩ | ⟨_, ended, done⟩
    · cases taken.symm.trans refused
    · rw [isDone, beq_iff_eq] at done
      rw [Moment.after, ended] at row
      cases done.symm.trans row.2
  · rfl

theorem Aside.next_eq (aside : m.before.Aside m.result) (going : m.after.isDone = false) :
    m.next = m.number := by
  refine if_neg fun ends => ?_
  rw [Moment.ends, Bool.and_eq_true, beq_iff_eq, bne_iff_ne] at ends
  rcases aside.rows ends.1 with ⟨_, _, refused, stage⟩ | ⟨_, ended, done⟩
  · rw [Moment.after, refused] at ends
    exact ends.2 stage
  · rw [Moment.after, ended] at going
    cases done.symm.trans going

theorem Poised.aside (poised : Poised size steps m.number m.before) (aside : m.before.Aside m.result) :
    Poised size (steps ++ [m]) m.next m.after := by
  have quiet := aside.not_suspends
  have going (more : m.after.isDone = false) : m.before.isDone = false :=
    Bool.eq_false_iff.mpr fun done => by cases more.symm.trans (aside.done done)
  have alone (more : m.after.isDone = false) :
      Alone (steps ++ [m]) m.next ↔ Alone steps m.number := by
    rw [aside.next_eq more, alone_append_iff, quiet]
    exact and_iff_left nofun
  refine ⟨Moment.inOrder_next poised.inOrder, ?_, fun more keeping only => ?_, fun more other => ?_,
    fun dropping => ?_⟩
  · rw [any_suspends_append, quiet, Bool.or_false, ← poised.once]
    exact aside.once
  · exact aside.fetchSize.trans
      (poised.portion (going more) (aside.discarding ▸ keeping) ((alone more).mp only))
  · exact aside.fetchSize.trans (poised.spent (going more) (mt (alone more).mpr other))
  · exact aside.fetchSize.trans (poised.dropping (aside.discarding ▸ dropping))

theorem not_suspends_of_ended {more : Bool}
    (taken : m.result = .ok (m.before.endRows more).progress (m.before.endRows more, ctx)) :
    m.suspends = false := by
  refine Bool.eq_false_iff.mpr fun suspends => ?_
  obtain ⟨s, suspended⟩ := suspends_iff.mp suspends
  rw [taken] at suspended
  injection suspended with wanted
  exact progress_ne _ wanted

theorem stage_endRows_ne (more : Bool) : (r.endRows more).stage ≠ .rows := by
  intro rows
  rw [endRows, afterCompletion] at rows
  cases more <;> cases rows

theorem not_takesRow_of_ended {more : Bool}
    (taken : m.result = .ok (m.before.endRows more).progress (m.before.endRows more, ctx)) :
    m.takesRow = false := by
  rw [Moment.takesRow, Moment.after, taken]
  exact Bool.and_eq_false_imp.mpr fun _ => beq_eq_false_iff_ne.mpr (stage_endRows_ne more)

/-- Behind a result set in which the reader suspended it has no fetch size. -/
theorem Poised.ended {more : Bool} (poised : Poised size steps m.number m.before)
    (stage : m.before.stage = .rows)
    (taken : m.result = .ok (m.before.endRows more).progress (m.before.endRows more, ctx)) :
    Poised size (steps ++ [m]) m.next m.after := by
  have after : m.after = m.before.endRows more := by rw [Moment.after, taken]; rfl
  have quiet := not_suspends_of_ended taken
  have next : m.next = m.number + 1 := by
    refine if_pos ?_
    rw [Moment.ends, after, stage, Bool.and_eq_true]
    exact ⟨rfl, bne_iff_ne.mpr (stage_endRows_ne more)⟩
  have fetchSize : m.after.fetchSize = if m.before.suspendedOnce then 0 else m.before.fetchSize := by
    rw [after]
    rfl
  have alone : Alone (steps ++ [m]) m.next ↔ m.before.suspendedOnce = false := by
    rw [next, alone_append_iff, quiet, poised.alone_succ_iff]
    exact and_iff_left nofun
  have going : m.before.isDone = false := by rw [isDone, stage]; rfl
  refine ⟨Moment.inOrder_next poised.inOrder, ?_, fun _ keeping only => ?_, fun _ other => ?_,
    fun dropping => ?_⟩
  · rw [any_suspends_append, quiet, Bool.or_false, ← poised.once, after]
    rfl
  · have never := alone.mp only
    rw [fetchSize, never, if_neg Bool.false_ne_true]
    refine poised.portion going ?_ fun m' mem suspends => ?_
    · rw [after] at keeping
      exact keeping
    · rw [poised.once, List.any_eq_false] at never
      exact absurd suspends (never m' mem)
  · rw [fetchSize, if_pos (Bool.of_not_eq_false (mt alone.mpr other))]
  · rw [after] at dropping
    rw [fetchSize, poised.dropping dropping, ite_self]

variable {set : ResultSet}

theorem suspends_of_row (taken : m.result = .ok (if m.before.isFull set then .suspended else .needPacket)
    (m.before.withRow set, ctx)) : m.suspends = m.before.isFull set := by
  rw [Moment.suspends, taken]
  cases m.before.isFull set <;> rfl

theorem Poised.row (poised : Poised size steps m.number m.before) (stage : m.before.stage = .rows)
    (taken : m.result = .ok (if m.before.isFull set then .suspended else .needPacket)
      (m.before.withRow set, ctx)) :
    Poised size (steps ++ [m]) m.next m.after := by
  have after : m.after = m.before.withRow set := by rw [Moment.after, taken]; rfl
  have next : m.next = m.number := by
    refine if_neg ?_
    rw [Moment.ends, after, withRow, stage]
    decide
  have alone : Alone (steps ++ [m]) m.next ↔ Alone steps m.number := by
    rw [next, alone_append_iff]
    exact and_iff_left fun _ => rfl
  have going : m.before.isDone = false := by rw [isDone, stage]; rfl
  rw [after]
  refine ⟨Moment.inOrder_next poised.inOrder, ?_, fun _ keeping only => ?_, fun _ other => ?_,
    poised.dropping⟩
  · rw [any_suspends_append, suspends_of_row taken, ← poised.once]
    rfl
  · exact poised.portion going keeping (alone.mp only)
  · exact poised.spent going (mt alone.mpr other)

theorem Poised.step (poised : Poised size steps m.number m.before) (turn : Turn m) :
    Poised size (steps ++ [m]) m.next m.after := by
  cases turn with
  | aside aside => exact poised.aside aside
  | ended stage taken => exact poised.ended stage taken
  | row stage taken => exact poised.row stage taken

/-! ## Which steps suspend -/

theorem fills_iff : m.fills size = true ↔
    m.takesRow = true ∧ size ≤ m.buffered ∧ m.before.discarding = false := by
  simp [Moment.fills, and_assoc]

theorem not_fills (noRow : m.takesRow = false) : m.fills size = false := by
  rw [Moment.fills, noRow, Bool.false_and, Bool.false_and]

/-- A row that fills a portion suspends, unless the reader suspended in another result set. -/
theorem Poised.suspends_iff_of_row (poised : Poised size steps m.number m.before) (positive : 0 < size)
    (stage : m.before.stage = .rows)
    (taken : m.result = .ok (if m.before.isFull set then .suspended else .needPacket)
      (m.before.withRow set, ctx)) :
    m.suspends = true ↔ m.fills size = true ∧ Alone steps m.number := by
  have row : m.takesRow = true := by
    rw [Moment.takesRow, Moment.after, taken, stage]
    dsimp only [EStateM.Result.state, withRow]
    rw [stage]
    rfl
  have buffered : m.buffered = set.rows.size := by
    rw [Moment.buffered, Moment.after, taken]
    rfl
  have going : m.before.isDone = false := by rw [isDone, stage]; rfl
  rw [suspends_of_row taken, fills_iff, row, buffered]
  cases dropping : m.before.discarding with
  | true =>
    rw [isFull_zero (poised.dropping dropping)]
    simp
  | false =>
    by_cases only : Alone steps m.number
    · rw [isFull, poised.portion going dropping only]
      simp [positive, only]
    · rw [isFull_zero (poised.spent going only)]
      simp [only]

theorem Poised.suspends_iff (poised : Poised size steps m.number m.before) (positive : 0 < size)
    (turn : Turn m) : m.suspends = true ↔ m.fills size = true ∧ Alone steps m.number := by
  cases turn with
  | aside aside =>
    rw [aside.not_suspends, not_fills aside.not_takesRow]
    simp
  | ended stage taken =>
    rw [not_suspends_of_ended taken, not_fills (not_takesRow_of_ended taken)]
    simp
  | row stage taken => exact poised.suspends_iff_of_row positive stage taken

/-! ## Courses -/

/-- Each step of a course is taken by a reader that is poised behind the steps before. -/
theorem poised_of_course {placed : Nat → List Action} {earlier later : List Moment}
    (poised : Poised size steps number r)
    (split : r.course ctx placed number packets = earlier ++ m :: later) :
    Poised size (steps ++ earlier) m.number m.before ∧ Turn m := by
  induction packets generalizing steps number r ctx placed earlier with
  | nil => cases earlier <;> cases split
  | cons packet packets ih =>
    have before := poised.applyAll (placed 0)
    have turn := turn_moment number ((placed 0).foldl Action.apply r) ctx packet
    cases earlier with
    | nil =>
      obtain ⟨rfl, -⟩ := List.cons.inj split
      rw [List.append_nil]
      exact ⟨before, turn⟩
    | cons first earlier =>
      obtain ⟨rfl, rest⟩ := List.cons.inj split
      have behind := ih (before.step (m := moment number _ ctx packet) turn) rest
      rwa [List.append_assoc] at behind

/-- The rows that fill a portion suspend, but only in one result set. -/
def Rations (size : Nat) (steps : List Moment) : Prop :=
  ∀ earlier m later, steps = earlier ++ m :: later →
    (m.suspends = true ↔ m.fills size = true ∧ Alone earlier m.number)

namespace Rations

variable {first : Moment}

theorem fills (rations : Rations size steps) (mem : m ∈ steps) (suspends : m.suspends = true) :
    m.fills size = true := by
  obtain ⟨earlier, later, split⟩ := List.append_of_mem mem
  exact ((rations earlier m later split).mp suspends).1

/-- The first row that fills a portion suspends, and all that suspend are of its result set. -/
theorem leads (rations : Rations size steps) (found : steps.find? (·.fills size) = some first) :
    first.suspends = true ∧ ∀ m ∈ steps, m.suspends = true → first.number = m.number := by
  obtain ⟨filled, earlier, later, split, short⟩ := List.find?_eq_some_iff_append.mp found
  have before {m : Moment} (mem : m ∈ earlier) : m.suspends ≠ true := fun suspends => by
    have unfilled := short m mem
    rw [rations.fills (split ▸ List.mem_append_left _ mem) suspends] at unfilled
    cases unfilled
  have suspends : first.suspends = true :=
    (rations earlier first later split).mpr ⟨filled, fun m mem suspends => absurd suspends (before mem)⟩
  refine ⟨suspends, fun m mem suspends' => ?_⟩
  rw [split, List.mem_append, List.mem_cons] at mem
  rcases mem with mem | rfl | mem
  · exact absurd suspends' (before mem)
  · rfl
  · obtain ⟨between, behind, rfl⟩ := List.append_of_mem mem
    have split' : steps = (earlier ++ first :: between) ++ m :: behind := by
      rw [split, List.append_assoc, List.cons_append]
    exact ((rations _ m behind split').mp suspends').2 first (by simp) suspends

theorem first_iff (rations : Rations size steps) : (∀ m ∈ steps, m.suspends = true → m.number = 0) ↔
    ∀ first, steps.find? (·.fills size) = some first → first.number = 0 := by
  constructor
  · intro only first found
    exact only first (List.mem_of_find?_eq_some found) (rations.leads found).1
  · intro zero m mem suspends
    obtain ⟨first, found⟩ := Option.isSome_iff_exists.mp
      (List.find?_isSome.mpr ⟨m, mem, rations.fills mem suspends⟩)
    rw [← (rations.leads found).2 m mem suspends]
    exact zero first found

end Rations

/-- A reader with a fetch size suspends with the rows that fill a portion, as long as it suspended in no
other result set; behind that one it takes rows as a reader without a fetch size. So all its
suspensions are in one result set of the response, and this is the first one exactly if the first row
that fills a portion is one of the first. -/
theorem suspends_iff_fills (command : Command) (deprecateEof : Bool) (options : StatementOptions)
    (positive : 0 < options.fetchSize) (ctx : Context) (placed : Nat → List Action)
    (packets : List ByteArray) :
    let steps := (new command deprecateEof options).course ctx placed 0 packets
    (∀ earlier m later, steps = earlier ++ m :: later →
        (m.suspends = true ↔ m.fills options.fetchSize = true ∧
          ∀ m' ∈ earlier, m'.suspends = true → m'.number = m.number) ∧
        (m.before.stage = .rows → (∃ m' ∈ earlier, m'.suspends = true ∧ m'.number ≠ m.number) →
          m.before.fetchSize = 0)) ∧
      ((∀ m ∈ steps, m.suspends = true → m.number = 0) ↔
        ∀ first, steps.find? (·.fills options.fetchSize) = some first → first.number = 0) := by
  intro steps
  have each {earlier later : List Moment} {m : Moment} (split : steps = earlier ++ m :: later) :
      Poised options.fetchSize earlier m.number m.before ∧ Turn m :=
    poised_of_course (poised_new command deprecateEof options) split
  have rations : Rations options.fetchSize steps := fun earlier m later split =>
    (each split).1.suspends_iff positive (each split).2
  refine ⟨fun earlier m later split => ⟨rations earlier m later split, ?_⟩, rations.first_iff⟩
  rintro rows ⟨m', mem, suspends, other⟩
  refine (each split).1.spent ?_ fun only => other (only m' mem suspends)
  rw [isDone, rows]
  rfl

/-- A result set with one row before one with two. -/
def oneThenTwo : List ByteArray :=
  let column : ByteArray := ⟨#[0, 0, 0, 0, 0, 0, 12, 33, 0, 0, 0, 0, 0, 3, 0, 0, 0, 0, 0]⟩
  [⟨#[1]⟩, column, ⟨#[254, 0, 0, 2, 0]⟩, ⟨#[0]⟩, ⟨#[254, 0, 0, 10, 0]⟩,
    ⟨#[1]⟩, column, ⟨#[254, 0, 0, 2, 0]⟩, ⟨#[1, 48]⟩, ⟨#[251]⟩, ⟨#[254, 0, 0, 2, 0]⟩]

theorem suspends_oneThenTwo : 0 < 2 ∧
    ¬ ∀ m ∈ (new (.query "") false { fetchSize := 2 }).course
      (.new ⟨⟨0⟩, ⟨0⟩, 1, "", [], 0, false, ""⟩ {}) (fun _ => []) 0 oneThenTwo,
      m.suspends = true → m.number = 0 := by
  have positive : 0 < 2 := by decide
  refine ⟨positive, fun only => ?_⟩
  have first := (suspends_iff_fills (.query "") false { fetchSize := 2 } positive
    (.new ⟨⟨0⟩, ⟨0⟩, 1, "", [], 0, false, ""⟩ {}) (fun _ => []) oneThenTwo).2.mp only _ rfl
  exact absurd first (by decide)

end SqlWire.Reader
