/-!
# Isolation levels
-/

namespace SqlWire

/-- The isolation of transactions. -/
inductive Isolation where
  | readUncommitted | readCommitted | repeatableRead | serializable
  deriving DecidableEq, Repr

namespace Isolation

def name : Isolation → String
  | readUncommitted => "ReadUncommitted"
  | readCommitted => "ReadCommitted"
  | repeatableRead => "RepeatableRead"
  | serializable => "Serializable"

def ofName? (name : String) : Option Isolation :=
  [readUncommitted, readCommitted, repeatableRead, serializable].find? (·.name == name)

def sql : Isolation → String
  | readUncommitted => "READ UNCOMMITTED"
  | readCommitted => "READ COMMITTED"
  | repeatableRead => "REPEATABLE READ"
  | serializable => "SERIALIZABLE"

end Isolation

end SqlWire
