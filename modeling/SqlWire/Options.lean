import SqlWire.Auth.Credential
import SqlWire.Session.Isolation

/-!
# Options

Everything a caller can say about a connection, with the values that hold when nothing is said, and
the options of a single statement. Times are milliseconds.
-/

namespace SqlWire

/-- How much the connection insists on TLS. -/
inductive TlsMode where
  | disable
  /-- TLS if the server has it. -/
  | prefer
  | require
  /-- TLS with a certificate of a known authority. -/
  | verifyCa
  /-- TLS with a certificate of the host. -/
  | verifyFull
  deriving DecidableEq, Repr

namespace TlsMode

def name : TlsMode → String
  | disable => "Disable"
  | prefer => "Prefer"
  | require => "Require"
  | verifyCa => "VerifyCa"
  | verifyFull => "VerifyFull"

def ofName? (name : String) : Option TlsMode :=
  [disable, prefer, require, verifyCa, verifyFull].find? (·.name == name)

def isRequired : TlsMode → Bool
  | disable | prefer => false
  | require | verifyCa | verifyFull => true

end TlsMode

/-- The options of a connection. -/
structure Options where
  host : String := ""
  port : UInt16 := 3306
  /-- The path of a Unix socket, used instead of host and port. -/
  socket : Option String := none
  user : String := ""
  password : Option String := none
  database : Option String := none
  tlsMode : TlsMode := .prefer
  tlsCaCert : Option String := none
  compress : Bool := false
  /-- The largest command, in place of what the server says. -/
  maxAllowedPacket : Option Nat := none
  connectTimeout : Option Nat := some 30000
  socketTimeout : Option Nat := none
  /-- The source of user and password, in place of those above. -/
  credentialSource : Option Auth.CredentialSource := none
  gssapi : Option Auth.GssapiProvider := none
  /-- The principal to use in place of the server's. -/
  servicePrincipal : Option String := none
  /-- A clear password may travel on a plaintext socket. -/
  enableCleartext : Bool := false
  /-- Batches with parameters use a statement prepared by the server. -/
  useServerPrepare : Bool := true
  cacheStatements : Bool := true
  statementCacheSize : Nat := 250
  /-- Replay the open transaction after the connection is lost. -/
  transactionReplay : Bool := false
  disablePipeline : Bool := false
  allowLocalInfile : Bool := false
  allowMultiQueries : Bool := false
  /-- Reset the session with the server's own command where it is known. -/
  useResetConnection : Bool := true
  autocommit : Option Bool := some true
  isolation : Option Isolation := none
  sessionVariables : List (String × String) := []
  /-- Statements to run after connecting. -/
  initSql : List String := []
  createDatabase : Bool := false
  maxQuerySizeToLog : Nat := 1024
  connectionAttributes : List (String × String) := []

/-- The socket path, or host and port, for errors. -/
def Options.target (opts : Options) : String :=
  match opts.socket with
  | some path => path
  | none => s!"{opts.host}:{opts.port}"

/-- The options of one statement. -/
structure StatementOptions where
  /-- Rows given out at a time; zero gives a result set as a whole. -/
  fetchSize : Nat := 0
  /-- Rows kept of each result set; zero keeps all. -/
  maxRows : UInt64 := 0
  /-- The statement is cancelled when it runs longer. -/
  timeout : Option Nat := none
  deriving DecidableEq, Repr

namespace StatementOptions

def withTimeout (timeout : Nat) : StatementOptions := { timeout := some timeout }

/-- Only a number of rows given out at a time. -/
def streaming (fetchSize : Nat) : StatementOptions := { fetchSize }

end StatementOptions

end SqlWire
