import Mathlib.Algebra.Group.Nat.Defs
import SqlWire.Command
import SqlWire.Proofs.Fields

/-!
# Bitmaps

A bitmap holds eight bits in each byte: bit `i` stands in byte `i / 8` and counts `2 ^ (i % 8)` there.
Bits that were packed are found at their places (`bit?_packBits`), and those of a list that is read
from some place on are the list (`Bytes.Holds`), so that a reader can go through both together.
-/

namespace SqlWire

namespace Bytes

/-- The bit at a place, if the bitmap is long enough. -/
def bit? (bitmap : Bytes) (i : Nat) : Option Bool :=
  bitmap[i / 8]?.map fun byte => byte.toNat.testBit (i % 8)

/-- The bits stand in the bitmap from a place on. -/
def Holds (bitmap : Bytes) (i : Nat) (bits : List Bool) : Prop :=
  ∀ j < bits.length, bitmap.bit? (i + j) = bits[j]?

variable {bitmap : Bytes} {i : Nat} {bit : Bool} {bits : List Bool}

theorem Holds.head (holds : bitmap.Holds i (bit :: bits)) : bitmap.bit? i = some bit :=
  holds 0 (Nat.zero_lt_succ _)

theorem Holds.tail (holds : bitmap.Holds i (bit :: bits)) : bitmap.Holds (i + 1) bits := by
  intro j inside
  rw [Nat.add_assoc, Nat.add_comm 1 j]
  exact holds (j + 1) (Nat.succ_lt_succ inside)

end Bytes

namespace Command

open Bytes

theorem numberOfBits_cons (bit : Bool) (bits : List Bool) :
    numberOfBits (bit :: bits) = bit.toNat + 2 * numberOfBits bits := rfl

theorem testBit_numberOfBits (bits : List Bool) (i : Nat) :
    (numberOfBits bits).testBit i = (bits[i]?).getD false := by
  induction bits generalizing i with
  | nil => exact Nat.zero_testBit i
  | cons bit bits ih =>
    rw [numberOfBits_cons]
    cases i with
    | zero => cases bit <;> simp [Nat.testBit_zero]
    | succ i =>
      have half : (bit.toNat + 2 * numberOfBits bits) / 2 = numberOfBits bits := by
        have := bit.toNat_lt
        omega
      rw [Nat.testBit_succ, half, ih, List.getElem?_cons_succ]

theorem numberOfBits_lt (bits : List Bool) : numberOfBits bits < 2 ^ bits.length := by
  induction bits with
  | nil => exact Nat.one_pos
  | cons bit bits ih =>
    have := bit.toNat_lt
    rw [numberOfBits_cons, List.length_cons, Nat.pow_succ]
    omega

theorem length_packBits (bits : List Bool) : (packBits bits).length = (bits.length + 7) / 8 := by
  fun_induction packBits bits with
  | case1 => rfl
  | case2 bit bits ih =>
    rw [List.length_cons, ih, List.length_drop, List.length_cons]
    omega

theorem readBytes_packBits (bits : List Bool) (rest : Bytes) :
    Field.readBytes ((bits.length + 7) / 8) (packBits bits ++ rest) = .ok (packBits bits, rest) := by
  rw [← length_packBits, Field.readBytes_append]

/-- Of the bits of the first byte, each counts its place. -/
theorem bit?_packBits_of_lt {bits : List Bool} {i : Nat} (inside : i < bits.length) (low : i < 8) :
    (packBits bits).bit? i = bits[i]? := by
  obtain ⟨bit, bits, rfl⟩ := List.exists_cons_of_length_pos (Nat.zero_lt_of_lt inside)
  have fits : numberOfBits (bit :: bits.take 7) < 2 ^ 8 :=
    Nat.lt_of_lt_of_le (numberOfBits_lt _)
      (Nat.pow_le_pow_right (by decide) (Nat.succ_le_succ (List.length_take_le 7 bits)))
  have first : (bit :: bits.take 7)[i]? = (bit :: bits)[i]? := by
    change (List.take 8 (bit :: bits))[i]? = _
    rw [List.getElem?_take_of_lt low]
  unfold packBits bit?
  rw [Nat.div_eq_of_lt low, Nat.mod_eq_of_lt low, List.getElem?_cons_zero, Option.map_some,
    UInt8.toNat_ofNat', Nat.mod_eq_of_lt fits, testBit_numberOfBits, first, List.getElem?_eq_getElem inside,
    Option.getD_some]

theorem bit?_packBits {bits : List Bool} {i : Nat} (inside : i < bits.length) :
    (packBits bits).bit? i = bits[i]? := by
  induction i using Nat.strongRecOn generalizing bits with
  | ind i ih =>
    by_cases low : i < 8
    · exact bit?_packBits_of_lt inside low
    · obtain ⟨i, rfl⟩ := Nat.exists_eq_add_of_le (Nat.le_of_not_lt low)
      obtain ⟨bit, bits, rfl⟩ := List.exists_cons_of_length_pos (Nat.zero_lt_of_lt inside)
      -- The byte after the first holds what the first has left over.
      have next : (packBits (bit :: bits)).bit? (8 + i) = (packBits (bits.drop 7)).bit? i := by
        unfold bit?
        rw [packBits, Nat.add_div_left i (by decide), Nat.add_mod_left, List.getElem?_cons_succ]
      have behind : i < (bits.drop 7).length := by
        simp only [List.length_cons, List.length_drop] at inside ⊢
        omega
      rw [next, ih i (by omega) behind, List.getElem?_drop, show 8 + i = 7 + i + 1 by omega,
        List.getElem?_cons_succ]

/-- A bitmap holds what was packed into it. -/
theorem holds_packBits (bits : List Bool) : (packBits bits).Holds 0 bits := by
  intro j inside
  rw [Nat.zero_add]
  exact bit?_packBits inside

end Command

end SqlWire
