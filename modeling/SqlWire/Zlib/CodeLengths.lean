/-!
# Lengths of codes

The best code for symbols that occur so and so often joins the two lightest trees until one is left,
which gives the depth of each symbol. Only the number of symbols at each depth matters, because the
rarest symbols are the deepest. Codes that are too long are shortened (`limitDepths`): a shorter code
is split for each of them.
-/

namespace SqlWire.Zlib

/-- A tree: how often its symbols occur, and how many of them there are at each depth. -/
structure Weighed where
  weight : Nat
  depths : List Nat

/-- Sums by place; a list that is too short counts as filled up with zeros. -/
def addDepths : List Nat → List Nat → List Nat
  | [], ys => ys
  | xs, [] => xs
  | x :: xs, y :: ys => (x + y) :: addDepths xs ys

def Weighed.join (s t : Weighed) : Weighed := ⟨s.weight + t.weight, 0 :: addDepths s.depths t.depths⟩

/-- The lightest tree of two queues, a symbol before a tree of the same weight. -/
def lightest : List Weighed → List Weighed → Option (Weighed × List Weighed × List Weighed)
  | [], [] => none
  | s :: symbols, [] => some (s, symbols, [])
  | [], t :: trees => some (t, [], trees)
  | s :: symbols, t :: trees =>
    if t.weight < s.weight then some (t, s :: symbols, trees)
    else some (s, symbols, t :: trees)

/-- How many symbols there are at each depth, after `n` joins at most. -/
def joinAll : Nat → List Weighed → List Weighed → List Nat
  | 0, _, _ => []
  | n + 1, symbols, trees =>
    match lightest symbols trees with
    | none => []
    | some (s, symbols, trees) =>
      match lightest symbols trees with
      | none => s.depths
      | some (t, symbols, trees) => joinAll n symbols (trees ++ [s.join t])

/-- Makes two codes of one that is shorter than those in front of it; the deepest come first. -/
def splitShorter : List Nat → List Nat
  | deeper :: count :: rest =>
    if count == 0 then deeper :: splitShorter (count :: rest)
    else (deeper + 2) :: (count - 1) :: rest
  | counts => counts

/-- Makes room for `n` codes too many, the deepest first. -/
def shorten : Nat → List Nat → List Nat
  | 0, counts => counts
  | n + 1, counts =>
    match counts with
    | deepest :: rest => shorten n (splitShorter ((deepest - 1) :: rest))
    | [] => []

/-- Depths of at most `limit`, the deepest first. -/
def limitDepths (limit : Nat) (depths : List Nat) : List Nat :=
  let counts := (List.range limit).map fun i => depths.getD (i + 1) 0
  let counts := (counts.reverse.headD 0 + (depths.drop (limit + 1)).foldl (· + ·) 0) :: counts.reverse.tail
  let used := (counts.foldl (fun (total, unit) count => (total + count * unit, unit * 2)) (0, 1)).1
  shorten (used - 1 <<< limit) counts

/-- Lengths of at most `limit` bits for symbols that occur `counts` times; those that do not occur
have no code. -/
def bestLengths (limit : Nat) (counts : Array Nat) : Array Nat :=
  let used := counts.toList.zipIdx.filter (0 < ·.1) |>.mergeSort (·.1 ≤ ·.1)
  let depths :=
    if used.length == 1 then [0, 1]
    else joinAll used.length (used.map fun (count, _) => ⟨count, [1]⟩) []
  let lengths := (limitDepths limit depths).zipIdx.flatMap fun (count, i) =>
    List.replicate count (limit - i)
  (used.zip lengths).foldl (fun out ((_, symbol), length) => out.setIfInBounds symbol length)
    (Array.replicate counts.size 0)

end SqlWire.Zlib
