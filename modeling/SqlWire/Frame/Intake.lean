import SqlWire.Zlib.Burst

/-!
# Taking content in

The content of a body is taken into a buffer portion by portion. A portion is as large as the room
that is left in the buffer, and at first at most `firstPortion`; where there is hardly any room, a
probe of `probeSize` bytes comes first. A portion in which the content turns out to be damaged is
lost, and those before it are kept (`intake`).

Taking a portion uses up what is left of the content (`Tap.left_take`), so the loop ends.
-/

namespace SqlWire.Frame

open Zlib (Burst Inflated)

/-- Content that is being taken. -/
structure Tap where
  /-- Bytes of the present burst that were not taken. -/
  waiting : Nat
  /-- The bursts that follow. -/
  bursts : List Burst
  /-- Bytes of the last one. -/
  last : Nat
  /-- The last one can be taken. -/
  isWhole : Bool

namespace Tap

def ofInflated (inflated : Inflated) : Tap :=
  ⟨0, inflated.bursts, inflated.last, inflated.isWhole⟩

/-- The bytes of some bursts. -/
def total : List Burst → Nat
  | [] => 0
  | burst :: bursts => burst.size + total bursts

def left (tap : Tap) : Nat := tap.waiting + total tap.bursts + tap.last

/-- Takes at most `n` bytes from bursts, when `taken` were taken before them. A portion ends when it
is full, or with a burst that used up its piece. -/
def takeBursts (last : Nat) (isWhole : Bool) : List Burst → Nat → Nat → Option (Nat × Tap)
  | [], n, taken =>
    let more := min last n
    if isWhole then some (taken + more, ⟨0, [], last - more, isWhole⟩) else none
  | burst :: bursts, n, taken =>
    let more := min burst.size n
    if more = n || (burst.emptied && 0 < taken + more) then
      some (taken + more, ⟨burst.size - more, bursts, last, isWhole⟩)
    else takeBursts last isWhole bursts (n - more) (taken + more)

/-- Takes a portion of at most `n` bytes: how many they are, if the content is not damaged there. -/
def take (n : Nat) (tap : Tap) : Option (Nat × Tap) :=
  if 0 < tap.waiting then
    let more := min tap.waiting n
    some (more, { tap with waiting := tap.waiting - more })
  else takeBursts tap.last tap.isWhole tap.bursts n 0

theorem left_takeBursts {last n taken got : Nat} {isWhole : Bool} {bursts : List Burst} {tap : Tap}
    (h : takeBursts last isWhole bursts n taken = some (got, tap)) :
    tap.left + got = total bursts + last + taken := by
  induction bursts generalizing n taken with
  | nil =>
    simp only [takeBursts] at h
    split at h
    · injection h with h
      injection h with h₁ h₂
      subst h₁ h₂
      simp only [left, total]
      omega
    · cases h
  | cons burst bursts ih =>
    simp only [takeBursts] at h
    split at h
    · injection h with h
      injection h with h₁ h₂
      subst h₁ h₂
      simp only [left, total]
      omega
    · next go_on =>
      have := ih h
      simp only [Bool.or_eq_true, decide_eq_true_eq, not_or] at go_on
      simp only [total]
      omega

/-- What is taken was left before. -/
theorem left_take {n got : Nat} {tap tap' : Tap} (h : tap.take n = some (got, tap')) :
    tap'.left + got = tap.left := by
  unfold take at h
  split at h
  · injection h with h
    injection h with h₁ h₂
    subst h₁ h₂
    simp only [left]
    omega
  · next none_waiting =>
    have := left_takeBursts h
    simp only [left] at this ⊢
    omega

end Tap

def reserve (room size more : Nat) : Nat :=
  if room - size < more then max (2 * room) (max (size + more) 8) else room

def probeSize : Nat := 32

def firstPortion : Nat := 8192

/-- What taking content in gives. -/
structure Intake where
  /-- Bytes that were kept. -/
  kept : Nat
  /-- Room of the buffer. -/
  room : Nat

/-- Takes content into a buffer that had room for `start` bytes, has room for `room`, and holds
`size`; portions have at most `largest` bytes. -/
def takeAll (start : Nat) (tap : Tap) (size room largest : Nat) : Intake :=
  if (size == 0 && room < probeSize) || (size == room && room == start) then
    match _portion : tap.take probeSize with
    | none => ⟨size, room⟩
    | some (got, tap) =>
      if _end : got = 0 then ⟨size, room⟩
      else takeAll start tap (size + got) (reserve room size got) largest
  else
    let room := if size == room then reserve room size probeSize else room
    let portion := min (room - size) largest
    match _portion : tap.take portion with
    | none => ⟨size, room⟩
    | some (got, tap) =>
      if _end : got = 0 then ⟨size, room⟩
      else takeAll start tap (size + got) room (if got == largest then 2 * largest else largest)
termination_by tap.left
decreasing_by
  all_goals
    have := Tap.left_take _portion
    omega

/-- Takes the content of a stream into an empty buffer with room for `room` bytes. -/
def intake (inflated : Inflated) (room : Nat) : Intake :=
  takeAll room (.ofInflated inflated) 0 room firstPortion

end SqlWire.Frame
