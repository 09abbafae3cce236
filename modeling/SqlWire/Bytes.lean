/-!
# Bytes of a message

A message is the list of its bytes; the wire itself is handled in arrays (`Bytes.toWire`,
`Bytes.ofWire`). Whole numbers are written least significant byte first: `ofNatLE k n` has
exactly `k` bytes and `toNatLE` reads `n` back modulo `256 ^ k`.
-/

namespace SqlWire

/-- The bytes of a message, or of one of its fields, in order. -/
abbrev Bytes := List UInt8

namespace Bytes

/-- A message as it is put on the wire. -/
def toWire (bytes : Bytes) : ByteArray := bytes.toByteArray

/-- What was taken from the wire, as a message. -/
def ofWire (wire : ByteArray) : Bytes := wire.data.toList

@[simp] theorem ofWire_toWire (bytes : Bytes) : ofWire (toWire bytes) = bytes := by
  simp [ofWire, toWire]

@[simp] theorem toWire_ofWire (wire : ByteArray) : toWire (ofWire wire) = wire := by
  apply ByteArray.ext
  rw [toWire, List.data_toByteArray, ofWire, Array.toArray_toList]

@[simp] theorem ofWire_append (a b : ByteArray) : ofWire (a ++ b) = ofWire a ++ ofWire b := by
  simp [ofWire]

@[simp] theorem length_ofWire (wire : ByteArray) : (ofWire wire).length = wire.size := by
  rfl

theorem size_toWire (bytes : Bytes) : bytes.toWire.size = bytes.length := by
  rw [← length_ofWire, ofWire_toWire]

theorem toWire_append (a b : Bytes) : toWire (a ++ b) = a.toWire ++ b.toWire := by
  rw [← toWire_ofWire (a.toWire ++ b.toWire), ofWire_append, ofWire_toWire, ofWire_toWire]

theorem ofWire_extract (wire : ByteArray) (start stop : Nat) :
    ofWire (wire.extract start stop) = ((ofWire wire).drop start).take (stop - start) := by
  unfold ofWire
  rw [ByteArray.data_extract, Array.toList_extract, List.extract_eq_take_drop]

/-- The low `k` bytes of `n`, least significant first. -/
def ofNatLE : Nat → Nat → Bytes
  | 0, _ => []
  | k + 1, n => UInt8.ofNat n :: ofNatLE k (n / 256)

/-- The number whose bytes these are, least significant first. -/
def toNatLE : Bytes → Nat
  | [] => 0
  | b :: rest => b.toNat + 256 * toNatLE rest

@[simp] theorem length_ofNatLE (k n : Nat) : (ofNatLE k n).length = k := by
  induction k generalizing n with
  | zero => rfl
  | succ k ih => simp [ofNatLE, ih]

theorem toNatLE_ofNatLE (k n : Nat) : toNatLE (ofNatLE k n) = n % Nat.pow 256 k := by
  induction k generalizing n with
  | zero => simp [ofNatLE, toNatLE, Nat.mod_one]
  | succ k ih =>
    have byte : (UInt8.ofNat n).toNat = n % 256 := UInt8.toNat_ofNat'
    have power : Nat.pow 256 (k + 1) = 256 * Nat.pow 256 k := Nat.mul_comm ..
    rw [ofNatLE, toNatLE, ih, byte, power, Nat.mod_mul]

theorem toNatLE_lt (bytes : Bytes) : toNatLE bytes < Nat.pow 256 bytes.length := by
  induction bytes with
  | nil => simp [toNatLE]
  | cons b rest ih =>
    have := b.toNat_lt
    have power : Nat.pow 256 (rest.length + 1) = Nat.pow 256 rest.length * 256 := rfl
    rw [toNatLE, List.length_cons, power]
    omega

theorem ofNatLE_toNatLE (bytes : Bytes) : ofNatLE bytes.length (toNatLE bytes) = bytes := by
  induction bytes with
  | nil => rfl
  | cons b rest ih =>
    have := b.toNat_lt
    have low : UInt8.ofNat (b.toNat + 256 * toNatLE rest) = b := by
      apply UInt8.toNat_inj.mp
      rw [UInt8.toNat_ofNat']
      omega
    have high : (b.toNat + 256 * toNatLE rest) / 256 = toNatLE rest := by omega
    rw [List.length_cons, toNatLE, ofNatLE, low, high, ih]

def ascii (text : String) : Bytes := text.toList.map fun c => UInt8.ofNat c.toNat

theorem digit_bounds {c : Char} (digit : c.isDigit = true) : 48 ≤ c.toNat ∧ c.toNat ≤ 57 := by
  simpa [Char.isDigit, UInt32.le_iff_toNat_le] using digit

end Bytes

end SqlWire
