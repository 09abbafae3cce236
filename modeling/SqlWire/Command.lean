import SqlWire.Sql.Interpolate

/-!
# Commands

What a client can ask a server to do, the bytes of each command, and how the server answers. The
first byte of a command is its code; SQL text, names and binary parameters follow it.
-/

namespace SqlWire

/-- How the server answers a command. -/
inductive ResponseKind where
  /-- Not at all. -/
  | none
  /-- With results whose rows are text. -/
  | text
  /-- With results whose rows are binary. -/
  | binary
  /-- With the description of a prepared statement. -/
  | prepare
  deriving DecidableEq, Repr

def ResponseKind.name : ResponseKind → String
  | none => "None"
  | text => "Text"
  | binary => "Binary"
  | prepare => "Prepare"

/-- A command. -/
inductive Command where
  /-- Run SQL text. -/
  | query (sql : String)
  /-- Run SQL text with literals in place of its placeholders. -/
  | clientPrepared (sql : String) (params : List Value)
  /-- Prepare a statement. -/
  | prepare (sql : String)
  /-- Run a prepared statement. The handle stays the same when the server gives it a new id. -/
  | execute (handle statementId : UInt32) (sql : String) (params : List Value)
  /-- Forget a prepared statement. -/
  | closeStatement (statementId : UInt32)
  /-- Bring the session back to its first state. -/
  | resetConnection
  /-- Change the current database. -/
  | initDb (database : String)
  | ping
  | quit
  deriving DecidableEq, Repr

namespace Command

/-- Codes of the commands on the wire. -/
inductive Code where
  | quit | initDb | query | ping | stmtPrepare | stmtExecute | stmtClose | resetConnection
  deriving DecidableEq, Repr

def Code.byte : Code → UInt8
  | quit => 0x01
  | initDb => 0x02
  | query => 0x03
  | ping => 0x0e
  | stmtPrepare => 0x16
  | stmtExecute => 0x17
  | stmtClose => 0x19
  | resetConnection => 0x1f

/-- The number that some bits write, the first of them lowest. -/
def numberOfBits (bits : List Bool) : Nat := bits.foldr (fun bit n => bit.toNat + 2 * n) 0

/-- Bits as bytes, the first bit lowest in the first byte. -/
def packBits : List Bool → Bytes
  | [] => []
  | b :: bits => UInt8.ofNat (numberOfBits (b :: bits.take 7)) :: packBits (bits.drop 7)
termination_by bits => bits.length
decreasing_by simp only [List.length_drop, List.length_cons]; omega

def maxParams : Nat := 65535

/-- Appends what runs a prepared statement: no cursor, one iteration, and, with parameters, the
bitmap of NULLs, the mark of new types, the types and the values. -/
def writeExecute (statementId : UInt32) (params : List Value) : EStateM UsageFault Bytes Unit := do
  if maxParams < params.length then
    throw (.tooManyParameters params.length)
  modify (· ++ (Code.stmtExecute.byte :: Field.u32 statementId ++ 0 :: Field.u32 1))
  if !params.isEmpty then
    modify (· ++ packBits (params.map Value.isNull))
    modify (· ++ [1])
    modify (· ++ params.flatMap Value.binaryType)
    modify (· ++ params.flatMap Value.binary)

/-- The sections of the parameters, if there are any. -/
def paramSections (params : List Value) : Bytes :=
  if params.isEmpty then []
  else packBits (params.map Value.isNull) ++
    1 :: (params.flatMap Value.binaryType ++ params.flatMap Value.binary)

/-- The sections that `writeExecute` appends, one behind the other. -/
def executeSections (statementId : UInt32) (params : List Value) : Bytes :=
  Code.stmtExecute.byte :: (Field.u32 statementId ++ 0 :: (Field.u32 1 ++ paramSections params))

theorem writeExecute_of_few {statementId : UInt32} {params : List Value} {buffer : Bytes}
    (few : params.length ≤ maxParams) : writeExecute statementId params buffer =
      .ok () (buffer ++ executeSections statementId params) := by
  unfold writeExecute executeSections paramSections
  rw [if_neg (Nat.not_lt.mpr few)]
  cases params with
  | nil => rfl
  | cons param params =>
    refine congrArg (EStateM.Result.ok ()) ?_
    simp only [List.isEmpty_cons, Bool.false_eq_true, if_false, List.append_assoc, List.cons_append,
      List.nil_append]

theorem writeExecute_of_many {statementId : UInt32} {params : List Value} {buffer : Bytes}
    (many : maxParams < params.length) : writeExecute statementId params buffer =
      .error (.tooManyParameters params.length) buffer := by
  unfold writeExecute
  rw [if_pos many]
  rfl

/-- The bytes that run a prepared statement. -/
def executeBytes (statementId : UInt32) (params : List Value) : Except UsageFault Bytes :=
  match writeExecute statementId params [] with
  | .ok () out => .ok out
  | .error fault _ => .error fault

theorem executeBytes_of_few {statementId : UInt32} {params : List Value}
    (few : params.length ≤ maxParams) :
    executeBytes statementId params = .ok (executeSections statementId params) := by
  unfold executeBytes
  rw [writeExecute_of_few few]
  rfl

theorem executeBytes_of_many {statementId : UInt32} {params : List Value}
    (many : maxParams < params.length) :
    executeBytes statementId params = .error (.tooManyParameters params.length) := by
  unfold executeBytes
  rw [writeExecute_of_many many]

def bytes (noBackslash : Bool) : Command → Except UsageFault Bytes
  | query sql => .ok (Code.query.byte :: Text.encode sql)
  | clientPrepared sql params => do
    return Code.query.byte :: (← Sql.interpolate noBackslash (Text.encode sql) params)
  | prepare sql => .ok (Code.stmtPrepare.byte :: Text.encode sql)
  | execute _ statementId _ params => executeBytes statementId params
  | closeStatement statementId => .ok (Code.stmtClose.byte :: Field.u32 statementId)
  | resetConnection => .ok [Code.resetConnection.byte]
  | initDb database => .ok (Code.initDb.byte :: Text.encode database)
  | ping => .ok [Code.ping.byte]
  | quit => .ok [Code.quit.byte]

def responseKind : Command → ResponseKind
  | query _ | clientPrepared _ _ | resetConnection | initDb _ | ping => .text
  | execute _ _ _ _ => .binary
  | prepare _ => .prepare
  | closeStatement _ | quit => .none

def expectedResponses (command : Command) : Nat :=
  if command.responseKind == .none then 0 else 1

def sql? : Command → Option String
  | query sql | clientPrepared sql _ | prepare sql | execute _ _ sql _ => some sql
  | _ => none

/-- A command for readers of a log. -/
def description : Command → String
  | query sql | clientPrepared sql _ => sql
  | prepare sql => "PREPARE " ++ sql
  | execute _ _ sql _ => "EXECUTE " ++ sql
  | closeStatement id => s!"COM_STMT_CLOSE {id}"
  | resetConnection => "COM_RESET_CONNECTION"
  | initDb database => "COM_INIT_DB " ++ database
  | ping => "COM_PING"
  | quit => "COM_QUIT"

/-- The command can be sent again on another session. -/
def canRedo : Command → Bool
  | query _ | clientPrepared _ _ | prepare _ | execute _ _ _ _ | initDb _ => true
  | _ => false

def sameParams : List Value → List Value → Bool
  | [], [] => true
  | a :: as, b :: bs => a.same b && sameParams as bs
  | _, _ => false

/-- Two commands are the same: parameters are compared as values, so a command with a parameter
that is not a number is not the same as itself. -/
def same : Command → Command → Bool
  | query a, query b => a == b
  | clientPrepared a ps, clientPrepared b qs => a == b && sameParams ps qs
  | prepare a, prepare b => a == b
  | execute h i a ps, execute h' i' b qs => h == h' && i == i' && a == b && sameParams ps qs
  | closeStatement a, closeStatement b => a == b
  | resetConnection, resetConnection => true
  | initDb a, initDb b => a == b
  | ping, ping => true
  | quit, quit => true
  | _, _ => false

end Command

end SqlWire
