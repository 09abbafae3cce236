import SqlWire.Deadlines
import SqlWire.Proofs.Moments

/-!
# What a shared queue of deadlines does

The threads that have statements running arm and disarm entries of one queue, and a timer looks at it
again and again; whoever has the queue has it alone. Whatever the order in which they come and whatever
the clock shows, an entry is handed on at most once, at its time and not after it was disarmed, and no
other entry that waits then is due before it (`timely_of_moments`).

`mem_after` says once what a step does to the queue: it puts in what it arms, and takes out what it
disarms or finds expired. It needs the queue in order and its numbers used in turn, which is `Kept`;
from it and the steps so far one can tell what waits.
-/

namespace SqlWire

namespace DeadlineKey

variable {a b c : DeadlineKey}

theorem before_iff : a.before b = true ↔
    a.deadline < b.deadline ∨ a.deadline = b.deadline ∧ a.number.toNat < b.number.toNat := by
  simp [before, UInt64.lt_iff_toNat_lt]

theorem before_irrefl (a : DeadlineKey) : ¬ a.before a = true := by
  simp [before_iff]

theorem before_trans (ab : a.before b = true) (bc : b.before c = true) : a.before c = true := by
  rw [before_iff] at *
  omega

theorem before_of_not_before (ne : a ≠ b) (not : ¬ a.before b = true) : b.before a = true := by
  have other : a.deadline = b.deadline → a.number.toNat ≠ b.number.toNat := by
    intro same number
    cases a
    cases b
    exact ne (by rw [DeadlineKey.mk.injEq]; exact ⟨same, UInt64.toNat_inj.mp number⟩)
  rw [before_iff] at *
  omega

theorem deadline_le_of_before (ab : a.before b = true) : a.deadline ≤ b.deadline := by
  rw [before_iff] at ab
  omega

end DeadlineKey

namespace Deadlines

variable {α : Type} {d : Deadlines α} {key other : DeadlineKey} {a b : α} {e : DeadlineKey × α}
  {entries : List (DeadlineKey × α)} {now : Nat}

/-! ## Entries in order -/

/-- The entries are in the order of their keys, so no key is there twice. -/
def Sorted (entries : List (DeadlineKey × α)) : Prop :=
  entries.Pairwise fun e e' => e.1.before e'.1 = true

theorem mem_place (fresh : ∀ e ∈ entries, e.1 ≠ key) :
    e ∈ place key a entries ↔ e = (key, a) ∨ e ∈ entries := by
  induction entries with
  | nil => simp [place]
  | cons first rest ih =>
    obtain ⟨ne, fresh⟩ := List.forall_mem_cons.mp fresh
    rw [place, if_neg ne.symm]
    split
    · exact List.mem_cons
    · rw [List.mem_cons, List.mem_cons, ih fresh]
      exact or_left_comm

theorem sorted_place (sorted : Sorted entries) (fresh : ∀ e ∈ entries, e.1 ≠ key) :
    Sorted (place key a entries) := by
  induction entries with
  | nil => simp [place, Sorted]
  | cons first rest ih =>
    obtain ⟨ne, fresh⟩ := List.forall_mem_cons.mp fresh
    obtain ⟨least, sorted⟩ := List.pairwise_cons.mp sorted
    rw [place, if_neg ne.symm]
    split
    · next before =>
      refine List.pairwise_cons.mpr ⟨fun e mem => ?_, List.pairwise_cons.mpr ⟨least, sorted⟩⟩
      rcases List.mem_cons.mp mem with rfl | mem
      · exact before
      · exact DeadlineKey.before_trans before (least e mem)
    · next behind =>
      refine List.pairwise_cons.mpr ⟨fun e mem => ?_, ih sorted fresh⟩
      rcases (mem_place fresh).mp mem with rfl | mem
      · exact DeadlineKey.before_of_not_before ne.symm behind
      · exact least e mem

/-- The entries behind the first one are those with other keys. -/
theorem Sorted.mem_rest (sorted : Sorted ((key, a) :: entries)) :
    e ∈ entries ↔ e ∈ (key, a) :: entries ∧ e.1 ≠ key := by
  obtain ⟨least, -⟩ := List.pairwise_cons.mp sorted
  constructor
  · intro mem
    refine ⟨List.mem_cons_of_mem _ mem, ?_⟩
    rintro rfl
    exact DeadlineKey.before_irrefl _ (least e mem)
  · rintro ⟨mem, ne⟩
    rcases List.mem_cons.mp mem with rfl | mem
    · exact absurd rfl ne
    · exact mem

/-- The first entry has the least deadline. -/
theorem Sorted.deadline_le {first : DeadlineKey × α} (sorted : Sorted (first :: entries))
    (mem : e ∈ first :: entries) : first.1.deadline ≤ e.1.deadline := by
  rcases List.mem_cons.mp mem with rfl | mem
  · exact Nat.le_refl _
  · exact DeadlineKey.deadline_le_of_before ((List.pairwise_cons.mp sorted).1 e mem)

/-- What a look at a queue can find. -/
theorem expire_cases (d : Deadlines α) (now : Nat) :
    ((d.expire now).2 = d ∧ (∀ key a, (d.expire now).1 ≠ .expired key a) ∧
        ∀ first ∈ d.armed.head?, now < first.1.deadline) ∨
      ∃ key a rest, d.armed = (key, a) :: rest ∧ key.deadline ≤ now ∧
        d.expire now = (.expired key a, { d with armed := rest }) := by
  obtain ⟨entries, number⟩ := d
  cases entries with
  | nil => exact .inl ⟨rfl, nofun, nofun⟩
  | cons first rest =>
    by_cases due : first.1.deadline ≤ now
    · exact .inr ⟨first.1, first.2, rest, rfl, due, by simp [expire, due]⟩
    · refine .inl ⟨by simp [expire, due], by simp [expire, due], ?_⟩
      simpa using due

/-! ## Steps -/

/-- What is done to a queue. -/
inductive Act (α : Type) where
  /-- A thread arms an entry. -/
  | arm (deadline : Nat) (a : α)
  /-- A thread disarms the entry of a key, if it still waits. -/
  | disarm (key : DeadlineKey)
  /-- The timer looks at the queue, at a time that it reads from the clock. -/
  | look (now : Nat)

namespace Act

def isArm : Act α → Bool
  | arm _ _ => true
  | disarm _ | look _ => false

/-- The queue behind an act. -/
def apply (d : Deadlines α) : Act α → Deadlines α
  | arm deadline a => (d.arm deadline a).2
  | disarm key => d.disarm key
  | look now => (d.expire now).2

end Act

/-- Somebody has the queue. -/
abbrev Turn (α : Type) := Moment (Deadlines α) (Act α)

namespace Turn

def after (m : Turn α) : Deadlines α := m.act.apply m.before

/-- An entry is armed, and this is its key. -/
def Arms (m : Turn α) (key : DeadlineKey) (a : α) : Prop :=
  ∃ deadline, m.act = .arm deadline a ∧ (m.before.arm deadline a).1 = key

/-- The entry of a key is disarmed while it waits. -/
def Disarms (m : Turn α) (key : DeadlineKey) : Prop :=
  m.act = .disarm key ∧ ∃ a, (key, a) ∈ m.before.armed

/-- The timer hands an entry on, at this time. -/
def HandsOn (m : Turn α) (now : Nat) (key : DeadlineKey) (a : α) : Prop :=
  m.act = .look now ∧ (m.before.expire now).1 = .expired key a

/-- The entry of a key leaves the queue. -/
def Removes (m : Turn α) (key : DeadlineKey) : Prop :=
  m.Disarms key ∨ ∃ now a, m.HandsOn now key a

variable {m : Turn α} {steps : List (Turn α)}

theorem Arms.number (arms : m.Arms key a) : key.number = m.before.nextNumber := by
  obtain ⟨deadline, -, rfl⟩ := arms
  rfl

theorem not_removes_of_arms (arms : m.Arms key a) : ¬ m.Removes other := by
  obtain ⟨deadline, act, -⟩ := arms
  rintro (⟨disarm, -⟩ | ⟨now, b, look, -⟩)
  · cases act.symm.trans disarm
  · cases act.symm.trans look

/-- What the timer hands on was first in the queue, and due. -/
theorem HandsOn.first (handsOn : m.HandsOn now key a) :
    key.deadline ≤ now ∧ ∃ rest, m.before.armed = (key, a) :: rest ∧ m.after.armed = rest := by
  obtain ⟨look, found⟩ := handsOn
  have after : m.after = (m.before.expire now).2 := by rw [after, look]; rfl
  rcases expire_cases m.before now with ⟨-, none, -⟩ | ⟨key', a', rest, queue, due, taken⟩
  · exact absurd found (none key a)
  · rw [taken] at found after
    cases found
    exact ⟨due, rest, queue, by rw [after]⟩

theorem Removes.waits (removes : m.Removes key) : ∃ a, (key, a) ∈ m.before.armed := by
  rcases removes with ⟨-, waits⟩ | ⟨now, a, handsOn⟩
  · exact waits
  · obtain ⟨-, rest, queue, -⟩ := handsOn.first
    exact ⟨a, queue ▸ List.mem_cons_self⟩

/-- What a step does to a queue that is in order and has used no number twice: it puts in what it arms,
and takes out what it removes. -/
theorem mem_after (sorted : Sorted m.before.armed)
    (fresh : ∀ e ∈ m.before.armed, e.1.number ≠ m.before.nextNumber) :
    e ∈ m.after.armed ↔ m.Arms e.1 e.2 ∨ e ∈ m.before.armed ∧ ¬ m.Removes e.1 := by
  obtain ⟨d, act⟩ := m
  cases act with
  | arm deadline a =>
    have new : ∀ e ∈ d.armed, e.1 ≠ ⟨deadline, d.nextNumber⟩ := by
      intro e mem same
      exact fresh e mem (by rw [same])
    have arms : Turn.Arms ⟨d, .arm deadline a⟩ e.1 e.2 ↔ e = (⟨deadline, d.nextNumber⟩, a) := by
      constructor
      · rintro ⟨_, ⟨⟩, key⟩
        exact Prod.ext key.symm rfl
      · rintro rfl
        exact ⟨deadline, rfl, rfl⟩
    have stays : ¬ Turn.Removes ⟨d, .arm deadline a⟩ e.1 := not_removes_of_arms ⟨deadline, rfl, rfl⟩
    rw [arms, and_iff_left stays]
    exact mem_place new
  | disarm key =>
    have arms : ¬ Turn.Arms ⟨d, .disarm key⟩ e.1 e.2 := by
      rintro ⟨_, ⟨⟩, -⟩
    rw [or_iff_right arms]
    refine List.mem_filter.trans (and_congr_right fun mem => ?_)
    rw [bne_iff_ne, ne_comm]
    refine not_congr ⟨?_, ?_⟩
    · rintro rfl
      exact .inl ⟨rfl, e.2, mem⟩
    · rintro (⟨⟨⟩, -⟩ | ⟨_, _, ⟨⟩, -⟩)
      rfl
  | look now =>
    have arms : ¬ Turn.Arms ⟨d, .look now⟩ e.1 e.2 := by
      rintro ⟨_, ⟨⟩, -⟩
    rw [or_iff_right arms]
    rcases expire_cases d now with ⟨same, none, -⟩ | ⟨key, a, rest, queue, due, taken⟩
    · have stays : ¬ Turn.Removes ⟨d, .look now⟩ e.1 := by
        rintro (⟨⟨⟩, -⟩ | ⟨_, a, ⟨⟩, found⟩)
        exact none _ a found
      rw [and_iff_left stays]
      exact iff_of_eq (congrArg (e ∈ ·.armed) same)
    · have removes : Turn.Removes ⟨d, .look now⟩ e.1 ↔ e.1 = key := by
        constructor
        · rintro (⟨⟨⟩, -⟩ | ⟨_, a, ⟨⟩, found⟩)
          rw [taken] at found
          cases found
          rfl
        · rintro same
          exact .inr ⟨now, a, rfl, by rw [taken, same]⟩
      have after : (Turn.after ⟨d, .look now⟩).armed = rest := by
        rw [Turn.after, Act.apply, taken]
      rw [removes, after]
      change e ∈ rest ↔ e ∈ d.armed ∧ e.1 ≠ key
      rw [queue] at sorted ⊢
      exact sorted.mem_rest

theorem sorted_after (sorted : Sorted m.before.armed)
    (fresh : ∀ e ∈ m.before.armed, e.1.number ≠ m.before.nextNumber) : Sorted m.after.armed := by
  obtain ⟨d, act⟩ := m
  cases act with
  | arm deadline a =>
    refine sorted_place sorted fun e mem same => ?_
    exact fresh e mem (by rw [same])
  | disarm key => exact List.Pairwise.filter _ sorted
  | look now =>
    rcases expire_cases d now with ⟨same, -, -⟩ | ⟨key, a, rest, queue, -, taken⟩
    · rwa [after, Act.apply, same]
    · have behind : Sorted rest := (List.pairwise_cons.mp (queue ▸ sorted)).2
      rwa [after, Act.apply, taken]

end Turn

/-! ## Runs -/

/-- What the steps so far have left of a queue. -/
structure Kept (steps : List (Turn α)) (d : Deadlines α) : Prop where
  sorted : Sorted d.armed
  /-- What was armed waits, unless it was removed. -/
  waits_iff : ∀ key a, (key, a) ∈ d.armed ↔
    (∃ m ∈ steps, m.Arms key a) ∧ ∀ m ∈ steps, ¬ m.Removes key
  /-- Numbers are used in turn. -/
  numbers : d.nextNumber.toNat = steps.countP (·.act.isArm)
  used : ∀ m ∈ steps, ∀ key, (∃ a, m.Arms key a) ∨ m.Removes key →
    key.number.toNat < d.nextNumber.toNat

namespace Kept

variable {steps : List (Turn α)} {m : Turn α}

theorem empty : Kept [] (empty : Deadlines α) where
  sorted := .nil
  waits_iff key a := by simp [Deadlines.empty]
  numbers := rfl
  used m mem := by cases mem

theorem lt (kept : Kept steps d) (mem : e ∈ d.armed) : e.1.number.toNat < d.nextNumber.toNat := by
  obtain ⟨⟨m, mem, arms⟩, -⟩ := (kept.waits_iff e.1 e.2).mp mem
  exact kept.used m mem e.1 (.inl ⟨e.2, arms⟩)

theorem fresh (kept : Kept steps d) : ∀ e ∈ d.armed, e.1.number ≠ d.nextNumber := by
  intro e mem same
  have lt := kept.lt mem
  rw [same] at lt
  omega

theorem waits_after (kept : Kept steps m.before) (key : DeadlineKey) (a : α) :
    (key, a) ∈ m.after.armed ↔
      (∃ m' ∈ steps ++ [m], m'.Arms key a) ∧ ∀ m' ∈ steps ++ [m], ¬ m'.Removes key := by
  rw [Turn.mem_after kept.sorted kept.fresh, kept.waits_iff]
  constructor
  · rintro (arms | ⟨⟨⟨m', mem, arms⟩, remains⟩, stays⟩)
    · refine ⟨⟨m, by simp, arms⟩, fun m' mem removes => ?_⟩
      rcases List.mem_append.mp mem with before | last
      · -- A number that was used before is none that is new.
        have lt := kept.used m' before key (.inr removes)
        have new : key.number = _ := arms.number
        rw [new] at lt
        omega
      · rw [List.mem_singleton.mp last] at removes
        exact Turn.not_removes_of_arms arms removes
    · refine ⟨⟨m', List.mem_append_left _ mem, arms⟩, fun m'' mem' => ?_⟩
      rcases List.mem_append.mp mem' with before | last
      · exact remains m'' before
      · rwa [List.mem_singleton.mp last]
  · rintro ⟨⟨m', mem, arms⟩, remains⟩
    rcases List.mem_append.mp mem with before | last
    · refine .inr ⟨⟨⟨m', before, arms⟩, fun m'' mem' => ?_⟩, remains m (by simp)⟩
      exact remains m'' (List.mem_append_left _ mem')
    · rw [List.mem_singleton.mp last] at arms
      exact .inl arms

theorem nextNumber_after (m : Turn α) : m.after.nextNumber =
    if m.act.isArm then m.before.nextNumber + 1 else m.before.nextNumber := by
  obtain ⟨d, act⟩ := m
  cases act with
  | arm | disarm => rfl
  | look now =>
    change (d.expire now).2.nextNumber = d.nextNumber
    rcases expire_cases d now with ⟨same, -, -⟩ | ⟨_, _, _, -, -, taken⟩
    · rw [same]
    · rw [taken]

theorem next (kept : Kept steps m.before)
    (few : (steps ++ [m]).countP (·.act.isArm) < UInt64.size) : Kept (steps ++ [m]) m.after := by
  have counted : (steps ++ [m]).countP (·.act.isArm) =
      m.before.nextNumber.toNat + if m.act.isArm then 1 else 0 := by
    rw [List.countP_append, List.countP_singleton, kept.numbers]
  have number : m.after.nextNumber.toNat =
      m.before.nextNumber.toNat + if m.act.isArm then 1 else 0 := by
    rw [nextNumber_after]
    split
    · next isArm =>
      rw [counted, if_pos isArm] at few
      rw [UInt64.toNat_add]
      exact Nat.mod_eq_of_lt few
    · rfl
  refine ⟨Turn.sorted_after kept.sorted kept.fresh, kept.waits_after, number.trans counted.symm, ?_⟩
  intro m' mem key uses
  rcases List.mem_append.mp mem with before | last
  · have lt := kept.used m' before key uses
    omega
  · rw [List.mem_singleton.mp last] at uses
    rcases uses with ⟨a, arms⟩ | removes
    · have new := arms.number
      obtain ⟨deadline, act, -⟩ := arms
      have one : m.after.nextNumber.toNat = m.before.nextNumber.toNat + 1 := by
        rw [number, act]
        rfl
      rw [new]
      omega
    · obtain ⟨a, waits⟩ := removes.waits
      have lt := kept.lt waits
      change key.number.toNat < _ at lt
      omega

end Kept

/-- What holds of a step, given the steps before it. -/
structure Timely (earlier : List (Turn α)) (m : Turn α) : Prop where
  /-- What was armed waits until it is disarmed or handed on. -/
  waits : ∀ key a, (key, a) ∈ m.before.armed ↔ (∃ m' ∈ earlier, m'.Arms key a) ∧
    ∀ m' ∈ earlier, ¬ m'.Disarms key ∧ ∀ now b, ¬ m'.HandsOn now key b
  /-- What is armed gets a key of its own and leaves the rest of the queue alone. -/
  arms : ∀ deadline a, m.act = .arm deadline a → ∃ key, m.Arms key a ∧ key.deadline = deadline ∧
    (∀ m' ∈ earlier, ∀ b, ¬ m'.Arms key b) ∧
    ∀ e, e ∈ m.after.armed ↔ e = (key, a) ∨ e ∈ m.before.armed
  /-- Only the entry of the key is disarmed. -/
  disarms : ∀ key, m.act = .disarm key →
    ∀ e, e ∈ m.after.armed ↔ e ∈ m.before.armed ∧ e.1 ≠ key
  /-- The timer hands something on exactly if something is due. -/
  looks : ∀ now, m.act = .look now →
    ((∃ key a, m.HandsOn now key a) ↔ ∃ e ∈ m.before.armed, e.1.deadline ≤ now) ∧
    ((∀ key a, ¬ m.HandsOn now key a) → m.after = m.before)
  /-- What is handed on was armed, is due, was neither disarmed nor handed on before, and nothing that
  waits is due before it. -/
  handsOn : ∀ now key a, m.HandsOn now key a → key.deadline ≤ now ∧
    (∃ m' ∈ earlier, m'.Arms key a) ∧
    (∀ m' ∈ earlier, ¬ m'.Disarms key ∧ ∀ now' b, ¬ m'.HandsOn now' key b) ∧
    (∀ e ∈ m.before.armed, key.deadline ≤ e.1.deadline) ∧
    ∀ e, e ∈ m.after.armed ↔ e ∈ m.before.armed ∧ e.1 ≠ key

theorem Turn.not_removes_iff {m : Turn α} :
    ¬ m.Removes key ↔ ¬ m.Disarms key ∧ ∀ now b, ¬ m.HandsOn now key b := by
  simp [Turn.Removes]

/-- The key that an act arms under is one that no act before it has armed under. -/
theorem Kept.arms_new {steps : List (Turn α)} {m : Turn α} (kept : Kept steps m.before)
    (arms : m.Arms key a) : ∀ m' ∈ steps, ∀ b, ¬ m'.Arms key b := by
  intro m' mem b arms'
  have lt := kept.used m' mem key (.inl ⟨b, arms'⟩)
  rw [arms.number] at lt
  omega

theorem Kept.timely {steps : List (Turn α)} {m : Turn α} (kept : Kept steps m.before) :
    Timely steps m where
  waits key a := by simpa only [Turn.not_removes_iff] using kept.waits_iff key a
  arms deadline a act := by
    have arms : m.Arms ⟨deadline, m.before.nextNumber⟩ a := ⟨deadline, act, rfl⟩
    refine ⟨_, arms, rfl, kept.arms_new arms, fun e => ?_⟩
    rw [Turn.mem_after kept.sorted kept.fresh,
      and_iff_left (Turn.not_removes_of_arms arms : ¬ m.Removes e.1)]
    refine or_congr_left ⟨?_, ?_⟩
    · rintro ⟨_, same, key⟩
      cases act.symm.trans same
      exact Prod.ext key.symm rfl
    · rintro rfl
      exact arms
  disarms key act e := by
    have after : m.after = m.before.disarm key := by rw [Turn.after, act]; rfl
    rw [after]
    exact List.mem_filter.trans (by rw [bne_iff_ne])
  looks now act := by
    have after : m.after = (m.before.expire now).2 := by rw [Turn.after, act]; rfl
    rcases expire_cases m.before now with ⟨same, none, early⟩ | ⟨key, a, rest, queue, due, taken⟩
    · refine ⟨⟨?_, ?_⟩, fun _ => after.trans same⟩
      · rintro ⟨key, a, -, found⟩
        exact absurd found (none key a)
      · rintro ⟨e, mem, due⟩
        obtain ⟨first, rest, queue⟩ := List.exists_cons_of_ne_nil (List.ne_nil_of_mem mem)
        have late : now < first.1.deadline := early first (by rw [queue]; rfl)
        have le : first.1.deadline ≤ e.1.deadline := (queue ▸ kept.sorted).deadline_le (queue ▸ mem)
        omega
    · have handsOn : m.HandsOn now key a := ⟨act, by rw [taken]⟩
      refine ⟨iff_of_true ⟨key, a, handsOn⟩ ⟨(key, a), ?_, due⟩, fun none => absurd handsOn (none key a)⟩
      rw [queue]
      exact List.mem_cons_self
  handsOn now key a handsOn := by
    obtain ⟨due, rest, queue, after⟩ := handsOn.first
    have sorted : Sorted ((key, a) :: rest) := queue ▸ kept.sorted
    have waits : (key, a) ∈ m.before.armed := queue ▸ List.mem_cons_self
    obtain ⟨armed, remains⟩ := (kept.waits_iff key a).mp waits
    refine ⟨due, armed, fun m' mem => Turn.not_removes_iff.mp (remains m' mem), fun e mem => ?_,
      fun e => ?_⟩
    · exact sorted.deadline_le (queue ▸ mem)
    · rw [after, queue]
      exact sorted.mem_rest

theorem kept_of_moments {acts : List (Act α)} {earlier later : List (Turn α)} {m : Turn α}
    (few : acts.countP Act.isArm < UInt64.size)
    (split : moments Act.apply (empty : Deadlines α) acts = earlier ++ m :: later) :
    Kept earlier m.before := by
  have counted : (earlier ++ m :: later).countP (·.act.isArm) = acts.countP Act.isArm := by
    rw [← split]
    exact List.countP_map.symm.trans (congrArg (List.countP Act.isArm) (acts_moments ..))
  rw [List.countP_append] at counted
  -- As long as numbers are left, each step keeps what holds of the queue.
  let Keeps (steps : List (Turn α)) (d : Deadlines α) : Prop :=
    steps.countP (·.act.isArm) < UInt64.size → Kept steps d
  have keep (steps : List (Turn α)) (d : Deadlines α) (act : Act α) (kept : Keeps steps d) :
      Keeps (steps ++ [⟨d, act⟩]) (act.apply d) := by
    intro few
    have fewer : steps.countP (·.act.isArm) < UInt64.size := by
      rw [List.countP_append] at few
      omega
    exact (kept fewer).next few
  have start : Keeps [] (empty : Deadlines α) := fun _ => Kept.empty
  have kept : Keeps earlier m.before := keeps_moments keep start split
  exact kept (by omega)

/-- Threads arm and disarm, and the timer looks, in whatever order and at whatever times: each entry is
handed on at most once, when it is due and unless it was disarmed before, nobody touches the entry of
somebody else, and what is handed on has the least deadline of all that wait. -/
theorem timely_of_moments (acts : List (Act α)) (few : acts.countP Act.isArm < UInt64.size) :
    ∀ earlier m later, moments Act.apply (empty : Deadlines α) acts = earlier ++ m :: later →
      Timely earlier m := by
  intro earlier m later split
  exact (kept_of_moments few split).timely

/-- Two entries with one deadline, of which the first is disarmed, and one that is due before them. -/
def contested : List (Act String) :=
  [.arm 5 "a", .arm 5 "b", .look 4, .arm 3 "c", .look 5, .disarm ⟨3, 2⟩, .disarm ⟨5, 0⟩, .look 9]

theorem timely_contested : contested.countP Act.isArm < UInt64.size ∧
    ∃ earlier m later, moments Act.apply (empty : Deadlines String) contested = earlier ++ m :: later ∧
      m.HandsOn 9 ⟨5, 1⟩ "b" ∧ Timely earlier m := by
  have few : contested.countP Act.isArm < UInt64.size := by decide
  refine ⟨few, (moments Act.apply (empty : Deadlines String) contested).take 7,
    (moments Act.apply (empty : Deadlines String) contested)[7], [], rfl, ⟨rfl, rfl⟩, ?_⟩
  exact timely_of_moments contested few _ _ [] rfl

end Deadlines

end SqlWire
