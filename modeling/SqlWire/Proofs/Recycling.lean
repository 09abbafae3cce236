import SqlWire.BufferPool
import SqlWire.Proofs.Moments

/-!
# What a pool of buffers holds on to

Connections take sets of buffers from one pool, make of them what they like and give them back; each
time somebody has the pool alone. A set that waits in the pool is always one that was given back, and
emptied (`Held`). So nothing of one connection reaches another, and the room of three of its buffers is
bounded. The room of `inflated` is not looked at: it is bounded throughout a run exactly if no set is
kept whose `inflated` has grown too large (`idle_of_moments`).
-/

namespace SqlWire

namespace BufferSet

/-- The buffer of a name. -/
def buffer (s : BufferSet) : Slot → Buffer
  | .read => s.read
  | .write => s.write
  | .packet => s.packet
  | .inflated => s.inflated

/-- All buffers are empty, and nothing was taken from the last one. -/
def IsClear (s : BufferSet) : Prop := (∀ slot, (s.buffer slot).size = 0) ∧ s.inflatedAt = 0

@[simp] theorem buffer_clear (s : BufferSet) (slot : Slot) :
    s.clear.buffer slot = (s.buffer slot).clear := by
  cases slot <;> rfl

@[simp] theorem capacity_clear (b : Buffer) : b.clear.capacity = b.capacity := rfl

theorem isClear_clear (s : BufferSet) : s.clear.IsClear := by
  refine ⟨fun slot => ?_, rfl⟩
  rw [buffer_clear]
  rfl

end BufferSet

namespace BufferPool

variable {pool : BufferPool} {set given : BufferSet}

/-- Every buffer of a set but `inflated` is of a size that is kept. -/
def IsUsual (set : BufferSet) : Prop := ∀ slot, slot ≠ .inflated → (set.buffer slot).capacity ≤ maxPooled

theorem not_tooLarge_iff : tooLarge set = false ↔ IsUsual set := by
  rw [tooLarge]
  simp only [Bool.or_eq_false_iff, decide_eq_false_iff_not, Nat.not_lt]
  constructor
  · rintro ⟨⟨read, packet⟩, write⟩ slot other
    cases slot with
    | read => exact read
    | write => exact write
    | packet => exact packet
    | inflated => exact absurd rfl other
  · intro usual
    exact ⟨⟨usual .read nofun, usual .packet nofun⟩, usual .write nofun⟩

/-! ## Connections that share a pool -/

/-- A pool, and the sets that connections have taken from it. -/
structure Shared where
  pool : BufferPool
  out : List BufferSet

/-- What a connection does. -/
inductive Act where
  /-- It takes a set. -/
  | checkout
  /-- It makes something else of the set at some place. -/
  | change (place : Nat) (set : BufferSet)
  /-- It gives the set at some place back. -/
  | giveBack (place : Nat)

def Act.apply (s : Shared) : Act → Shared
  | .checkout => ⟨s.pool.checkout.2, s.out ++ [s.pool.checkout.1]⟩
  | .change place set => { s with out := s.out.set place set }
  | .giveBack place =>
    match s.out[place]? with
    | some set => ⟨s.pool.recycle set, s.out.eraseIdx place⟩
    | none => s

/-- A connection has the pool. -/
abbrev Turn := Moment Shared Act

namespace Turn

def after (m : Turn) : Shared := m.act.apply m.before

/-- A set is given back and kept: there is room in the pool, and the set is of a usual size as far as
that is looked at. -/
def Keeps (m : Turn) (given : BufferSet) : Prop :=
  (∃ place, m.act = .giveBack place ∧ m.before.out[place]? = some given) ∧ IsUsual given ∧
    m.before.pool.idle.length < m.before.pool.capacity

variable {m : Turn}

theorem Keeps.unique {other : BufferSet} (keeps : m.Keeps given) (keeps' : m.Keeps other) :
    given = other := by
  obtain ⟨⟨place, gives, out⟩, -⟩ := keeps
  obtain ⟨⟨place', gives', out'⟩, -⟩ := keeps'
  cases gives.symm.trans gives'
  exact Option.some_inj.mp (out.symm.trans out')

/-- What waits in the pool behind a step: sets that waited there before, and one that is kept. -/
theorem after_cases (m : Turn) : m.after.pool.capacity = m.before.pool.capacity ∧
    ((∃ given, m.Keeps given ∧ m.after.pool.idle = m.before.pool.idle ++ [given.clear]) ∨
      (∀ given, ¬ m.Keeps given) ∧ m.after.pool.idle <:+ m.before.pool.idle) := by
  obtain ⟨s, act⟩ := m
  have idles (quiet : ∀ place, act ≠ .giveBack place) (given : BufferSet) :
      ¬ Keeps ⟨s, act⟩ given := fun ⟨⟨place, gives, _⟩, _⟩ => quiet place gives
  cases act with
  | checkout =>
    simp only [after, Act.apply, checkout]
    cases idle : s.pool.idle with
    | nil => exact ⟨rfl, .inr ⟨idles nofun, by simp [idle]⟩⟩
    | cons first rest => exact ⟨rfl, .inr ⟨idles nofun, List.suffix_cons ..⟩⟩
  | change place set => exact ⟨rfl, .inr ⟨idles nofun, List.suffix_refl _⟩⟩
  | giveBack place =>
    simp only [after, Act.apply]
    cases taken : s.out[place]? with
    | none =>
      refine ⟨rfl, .inr ⟨?_, List.suffix_refl _⟩⟩
      rintro given ⟨⟨_, ⟨⟩, gives⟩, -⟩
      cases taken.symm.trans gives
    | some set =>
      dsimp only [recycle]
      split
      · next refused =>
        refine ⟨rfl, .inr ⟨?_, List.suffix_refl _⟩⟩
        rintro given ⟨⟨_, ⟨⟩, gives⟩, usual, room⟩
        cases taken.symm.trans gives
        rw [not_tooLarge_iff.mpr usual] at refused
        simp at refused
        change s.pool.idle.length < s.pool.capacity at room
        omega
      · next accepted =>
        simp only [Bool.or_eq_true, decide_eq_true_eq, not_or, Bool.not_eq_true, Nat.not_le] at accepted
        exact ⟨rfl, .inl ⟨set, ⟨⟨place, rfl, taken⟩, not_tooLarge_iff.mp accepted.1, accepted.2⟩, rfl⟩⟩

end Turn

/-- What is known of a pool from the steps so far: it is not too full, and what waits there was kept. -/
structure Held (capacity : Nat) (steps : List Turn) (s : Shared) : Prop where
  capacity_eq : s.pool.capacity = capacity
  length_le : s.pool.idle.length ≤ capacity
  kept : ∀ set ∈ s.pool.idle, ∃ m ∈ steps, ∃ given, m.Keeps given ∧ set = given.clear

namespace Held

variable {capacity : Nat} {steps : List Turn} {m : Turn}

theorem next (held : Held capacity steps m.before) : Held capacity (steps ++ [m]) m.after := by
  have before {set} (mem : set ∈ m.before.pool.idle) :
      ∃ m' ∈ steps ++ [m], ∃ given, m'.Keeps given ∧ set = given.clear := by
    obtain ⟨m', mem', given, keeps, rfl⟩ := held.kept set mem
    exact ⟨m', List.mem_append_left _ mem', given, keeps, rfl⟩
  obtain ⟨same, ⟨given, keeps, idle⟩ | ⟨-, fewer⟩⟩ := m.after_cases
  · refine ⟨same.trans held.capacity_eq, ?_, fun set mem => ?_⟩
    · have room := keeps.2.2
      rw [held.capacity_eq] at room
      rw [idle, List.length_append, List.length_singleton]
      exact room
    · rw [idle, List.mem_append, List.mem_singleton] at mem
      rcases mem with mem | rfl
      · exact before mem
      · exact ⟨m, by simp, given, keeps, rfl⟩
  · exact ⟨same.trans held.capacity_eq, Nat.le_trans fewer.length_le held.length_le,
      fun set mem => before (fewer.subset mem)⟩

theorem isClear {s : Shared} (held : Held capacity steps s) (mem : set ∈ s.pool.idle) :
    set.IsClear ∧ IsUsual set := by
  obtain ⟨m, -, given, ⟨-, usual, -⟩, rfl⟩ := held.kept set mem
  refine ⟨given.isClear_clear, fun slot other => ?_⟩
  rw [BufferSet.buffer_clear, BufferSet.capacity_clear]
  exact usual slot other

end Held

variable {capacity : Nat} {acts : List Act} {m : Turn}

/-- Behind each step of a run, what waits in the pool was kept in that step or before. -/
theorem held_of_moments (isNew : new? capacity = some pool)
    (mem : m ∈ moments Act.apply ⟨pool, []⟩ acts) :
    ∃ steps, (∀ m' ∈ steps, m' ∈ moments Act.apply ⟨pool, []⟩ acts) ∧ Held capacity steps m.after := by
  have start : Held capacity [] ⟨pool, []⟩ := by
    unfold new? at isNew
    split at isNew
    · cases isNew
    · cases isNew
      exact ⟨rfl, Nat.zero_le _, nofun⟩
  obtain ⟨earlier, later, split⟩ := List.append_of_mem mem
  have held : Held capacity earlier m.before :=
    keeps_moments (fun _ _ _ held => held.next) start split
  refine ⟨earlier ++ [m], fun m' mem' => ?_, held.next⟩
  rw [split, List.append_cons]
  exact List.mem_append_left _ mem'

/-- Whatever connections do with a pool and its sets: what waits in the pool is empty, there is never
more of it than the pool has room for, and all buffers but `inflated` are of a size that is kept. The
buffer `inflated` is so too throughout a run exactly if every set that was kept had a small one when it
was given back. -/
theorem idle_of_moments (isNew : new? capacity = some pool) (acts : List Act) :
    (∀ m : Turn, m ∈ moments Act.apply ⟨pool, []⟩ acts → m.after.pool.idle.length ≤ capacity ∧
      ∀ set ∈ m.after.pool.idle, set.IsClear ∧ IsUsual set) ∧
    ((∀ m : Turn, m ∈ moments Act.apply ⟨pool, []⟩ acts →
        ∀ set ∈ m.after.pool.idle, set.inflated.capacity ≤ maxPooled) ↔
      ∀ m : Turn, m ∈ moments Act.apply ⟨pool, []⟩ acts →
        ∀ given, m.Keeps given → given.inflated.capacity ≤ maxPooled) := by
  refine ⟨fun m mem => ?_, ?_, ?_⟩
  · obtain ⟨steps, -, held⟩ := held_of_moments isNew mem
    exact ⟨held.length_le, fun set waits => held.isClear waits⟩
  · intro bounded m mem given keeps
    rcases m.after_cases.2 with ⟨kept, keeps', idle⟩ | ⟨none, -⟩
    · obtain rfl := keeps.unique keeps'
      exact bounded m mem given.clear (by rw [idle]; simp)
    · exact absurd keeps (none given)
  · intro small m mem set waits
    obtain ⟨steps, sub, held⟩ := held_of_moments isNew mem
    obtain ⟨m', mem', given, keeps, rfl⟩ := held.kept set waits
    exact small m' (sub m' mem') given keeps

/-- A connection takes a set, reads one large frame, and gives the set back. -/
def largeFrame : List Act :=
  [.checkout, .change 0 (BufferSet.fresh.modify .inflated (·.reserve (maxPooled + 1))), .giveBack 0]

theorem idle_largeFrame : new? 1 = some ⟨1, []⟩ ∧
    ¬ ∀ m : Turn, m ∈ moments Act.apply ⟨⟨1, []⟩, []⟩ largeFrame →
      ∀ set ∈ m.after.pool.idle, set.inflated.capacity ≤ maxPooled := by
  have isNew : new? 1 = some ⟨1, []⟩ := rfl
  refine ⟨isNew, fun bounded => ?_⟩
  let last : Turn := (moments Act.apply ⟨⟨1, []⟩, []⟩ largeFrame)[2]
  have mem : last ∈ moments Act.apply ⟨⟨1, []⟩, []⟩ largeFrame := List.getElem_mem _
  have keeps : last.Keeps (BufferSet.fresh.modify .inflated (·.reserve (maxPooled + 1))) :=
    ⟨⟨0, rfl, rfl⟩, not_tooLarge_iff.mp (by decide), by decide⟩
  have small := (idle_of_moments isNew largeFrame).2.mp bounded last mem _ keeps
  exact absurd small (by decide)

end BufferPool

end SqlWire
