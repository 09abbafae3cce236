import SqlWire.Reply.Row

/-!
# Results of a command

A command completes with an OK packet or a result set, or with several of them. The items of a
batch are summed up in outcomes.
-/

namespace SqlWire

/-- Columns and the rows that were kept. -/
structure ResultSet where
  columns : Array Column
  rows : Array Row
  /-- Further rows are still to be read. -/
  streaming : Bool

/-- One result of a command. -/
inductive Completion where
  | ok (packet : OkPacket)
  | rows (set : ResultSet)

namespace Completion

/-- The rows that the command changed, if it is not a query. -/
def affectedRows? : Completion → Option UInt64
  | ok packet => some packet.affectedRows
  | rows _ => none

def resultSet? : Completion → Option ResultSet
  | ok _ => none
  | rows set => some set

end Completion

/-- What became of one item of a batch. -/
inductive BatchOutcome where
  /-- The server reported this many changed rows. -/
  | updated (count : UInt64)
  /-- The item succeeded without one such count. -/
  | noInfo
  | failed
  deriving DecidableEq, Repr

namespace BatchOutcome

def ofCompletions : List Completion → BatchOutcome
  | [.ok packet] => updated packet.affectedRows
  | _ => noInfo

def isSuccess (outcome : BatchOutcome) : Bool := outcome != failed

/-- The count as a signed 64-bit number, cut off at the largest; -2 for no count and -3 for a
failure. -/
def updateCount : BatchOutcome → Int
  | updated count => min count.toNat 0x7fffffffffffffff
  | noInfo => -2
  | failed => -3

end BatchOutcome

end SqlWire
