import SqlWire.Zlib.Burst

/-!
# Copies of earlier data

Data is cut into single bytes and copies of earlier bytes. Of the earlier places with the same three
bytes the latest are tried first, and not all of them (`Index.longest`). A copy of fewer than
`longCopy` bytes is kept back for one byte, in case a longer one starts there (`Scan.step`).
-/

namespace SqlWire.Zlib

/-- What a block is made of. -/
inductive Item where
  | byte (b : UInt8)
  /-- The bytes that stand `distance` places back. -/
  | copy (length distance : Nat)

/-- A run of bytes that has been seen before. -/
structure Match where
  length : Nat
  distance : Nat

def minCopy : Nat := 3

def maxCopy : Nat := 258

def longCopy : Nat := 128

/-- A copy of `minCopy` bytes from at least so far back is not worth it. -/
def farBack : Nat := 8192

/-- The places of three bytes: the last one of each hash, and for each place of the window the one
before it with the same hash. A multiple of 65536 stands for no place. -/
structure Index where
  latest : Array Nat
  earlier : Array Nat

namespace Index

def empty : Index := ⟨Array.replicate windowSize 0, Array.replicate windowSize 0⟩

def hash (data : ByteArray) (i : Nat) : Nat :=
  (((data.get! i).toUInt32 <<< 10 ^^^ (data.get! (i + 1)).toUInt32 <<< 5 ^^^
    (data.get! (i + 2)).toUInt32) &&& 32767).toNat

def insert (data : ByteArray) (i : Nat) : Index → Index
  | ⟨latest, earlier⟩ =>
    if i + minCopy ≤ data.size then
      let h := hash data i
      let before := latest.getD h 0
      ⟨latest.setIfInBounds h i, earlier.setIfInBounds (i % windowSize) before⟩
    else ⟨latest, earlier⟩

def insertRun (data : ByteArray) : Nat → Nat → Index → Index
  | 0, _, index => index
  | n + 1, i, index => insertRun data n (i + 1) (index.insert data i)

/-- How many bytes from `i` and from `j` on agree, at most `n` more than `found`. -/
def agreement (data : ByteArray) : Nat → Nat → Nat → Nat → Nat
  | 0, _, _, found => found
  | n + 1, i, j, found =>
    if data.get! i == data.get! j then agreement data n (i + 1) (j + 1) (found + 1) else found

def pairAgrees (data : ByteArray) (i j : Nat) : Bool :=
  data.get! i == data.get! j && data.get! (i + 1) == data.get! (j + 1)

/-- The best copy at `i`, when `place` comes next and `best` was found: `ahead` bytes at most can be
copied. Places are tried in `groups` of three; `inGroup` of the present one are left, and a place that
agrees where `best` ends is the last one of its group. -/
def probe (data : ByteArray) (index : Index) (i ahead : Nat) :
    Nat → Nat → Nat → Nat → Match → Match
  | 0, _, _, _, best => best
  | fuel + 1, groups, inGroup, place, best =>
    if inGroup == 0 then
      if groups ≤ 1 then best else probe data index i ahead fuel (groups - 1) 3 place best
    else if place % 65536 == 0 || windowSize < i - place + ahead then best
    else
      let next := index.earlier.getD (place % windowSize) 0
      if !pairAgrees data (place + best.length - 1) (i + best.length - 1) then
        probe data index i ahead fuel groups (inGroup - 1) next best
      else if !pairAgrees data place i then probe data index i ahead fuel groups 0 next best
      else
        let length := agreement data (ahead - 2) (place + 2) (i + 2) 2
        if length ≤ best.length then probe data index i ahead fuel groups 0 next best
        else if length == ahead then ⟨length, i - place⟩
        else probe data index i ahead fuel groups 0 next ⟨length, i - place⟩

/-- The best copy at `i` that is longer than `length`; distance zero if there is none. -/
def longest (data : ByteArray) (index : Index) (i length : Nat) : Match :=
  let ahead := min maxCopy (data.size - i)
  if ahead ≤ length then ⟨length, 0⟩
  else
    let groups := if length < 32 then 44 else 12
    let found :=
      probe data index i ahead (4 * groups) groups 0 (index.latest.getD (hash data i) 0) ⟨length, 0⟩
    if (found.length == minCopy && farBack ≤ found.distance) || found.distance == i % windowSize then
      ⟨0, 0⟩
    else found

end Index

/-- Data that is being cut into items. -/
structure Scan where
  index : Index
  /-- The copy that starts one byte back and was not written yet. -/
  kept : Option Match
  items : Array Item
  /-- Bytes that the items stand for. -/
  size : Nat
  /-- How many of the items are copies. -/
  copies : Nat

namespace Scan

def empty : Scan := ⟨.empty, none, #[], 0, 0⟩

/-- Looks at the byte at `i`: how many more bytes are done with it. -/
def step (data : ByteArray) (i : Nat) : Scan → Nat × Scan
  | ⟨index, kept, items, size, copies⟩ =>
    let here := index.longest data i ((kept.map (·.length)).getD (minCopy - 1))
    match kept with
    | some before =>
      if before.length < here.length then
        let items := items.push (.byte (data.get! (i - 1)))
        if longCopy ≤ here.length then
          (here.length - 1, ⟨index.insertRun data here.length i, none,
            items.push (.copy here.length here.distance), size + 1 + here.length, copies + 1⟩)
        else (0, ⟨index.insert data i, some here, items, size + 1, copies⟩)
      else
        (before.length - 2, ⟨index.insertRun data (before.length - 1) i, none,
          items.push (.copy before.length before.distance), size + before.length, copies + 1⟩)
    | none =>
      if here.distance == 0 then
        (0, ⟨index.insert data i, none, items.push (.byte (data.get! i)), size + 1, copies⟩)
      else if longCopy ≤ here.length then
        (here.length - 1, ⟨index.insertRun data here.length i, none,
          items.push (.copy here.length here.distance), size + here.length, copies + 1⟩)
      else (0, ⟨index.insert data i, some here, items, size, copies⟩)

/-- Bytes that the items would take if a copy took three, and every eighth item one more. -/
def cost (scan : Scan) : Nat := 1 + scan.items.size + 2 * scan.copies + scan.items.size / 8

/-- It is time for a new block: the items are many, or they are hardly better than the data. -/
def isFull (scan : Scan) : Bool :=
  65528 < scan.cost || (31744 < scan.size && scan.size ≤ scan.cost * 115 / 128)

/-- The items are those of a new block. -/
def restart (scan : Scan) : Scan := { scan with items := #[], size := 0, copies := 0 }

end Scan

end SqlWire.Zlib
