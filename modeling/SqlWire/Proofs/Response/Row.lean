import SqlWire.Result.Reader

/-!
# Taking a row

A row is kept in the result set that is being read, unless rows are dropped or enough of them were
seen. `row_of_current` says in one equation what becomes of the reader.
-/

namespace SqlWire.Reader

open Session (Context)

variable {r : Reader} {set : ResultSet} {payload : ByteArray} {ctx : Context}

/-- The next row is one of those to be kept. -/
def keepsNext (r : Reader) : Bool :=
  !r.discarding && (r.maxRows == 0 || r.rowsSeen + 1 ≤ r.maxRows)

/-- The result set behind the next row. -/
def extend (r : Reader) (payload : ByteArray) (set : ResultSet) : ResultSet :=
  { set with
    rows := if r.keepsNext then set.rows.push ⟨payload, r.kind == .binary⟩ else set.rows }

/-- So many rows are there that they are to be taken. -/
def isFull (r : Reader) (set : ResultSet) : Bool := 0 < r.fetchSize && r.fetchSize ≤ set.rows.size

theorem isFull_zero (whole : r.fetchSize = 0) : r.isFull set = false := by
  simp [isFull, whole]

/-- The reader behind a row, with this result set. -/
def withRow (r : Reader) (set : ResultSet) : Reader :=
  { r with
    rowsSeen := r.rowsSeen + 1
    current := some set
    suspendedOnce := r.suspendedOnce || r.isFull set }

/-- A row is put into the result set that is being read. -/
theorem row_of_current (current : r.current = some set)
    (more : isResultEnd payload[0]? payload.size r.deprecateEof = false) :
    r.row payload ctx =
      .ok (if r.isFull (r.extend payload set) then .suspended else .needPacket)
        (r.withRow (r.extend payload set), ctx) := by
  unfold row
  rw [more, if_neg Bool.false_ne_true]
  dsimp only
  rw [current]
  change (if r.isFull (r.extend payload set) = true then _ else _) = _
  cases full : r.isFull (r.extend payload set) with
  | true =>
    rw [if_pos rfl, if_pos rfl, withRow, full, Bool.or_true]
    rfl
  | false =>
    rw [if_neg Bool.false_ne_true, if_neg Bool.false_ne_true, withRow, full, Bool.or_false]
    rfl

end SqlWire.Reader
