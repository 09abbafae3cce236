import SqlWire.BufferPool
import SqlWire.Client.Calls
import SqlWire.Proofs.Alignment.Conversation
import SqlWire.Proofs.Alignment.Sent
import SqlWire.Proofs.Batch.Modes
import SqlWire.Proofs.Bitmap
import SqlWire.Proofs.Closing
import SqlWire.Proofs.Deadlines
import SqlWire.Proofs.Ended.Ending
import SqlWire.Proofs.Fields
import SqlWire.Proofs.Framing.Limit
import SqlWire.Proofs.Framing.Packets
import SqlWire.Proofs.Framing.Pair
import SqlWire.Proofs.Handshake.Attempts
import SqlWire.Proofs.Handshake.Database
import SqlWire.Proofs.Handshake.Greeting
import SqlWire.Proofs.Handshake.Phases
import SqlWire.Proofs.Handshake.Scrambles
import SqlWire.Proofs.Handshake.Secrecy
import SqlWire.Proofs.Lengths
import SqlWire.Proofs.Properties.Settings
import SqlWire.Proofs.Recycling
import SqlWire.Proofs.Redo.Databases
import SqlWire.Proofs.Redo.Rebinding
import SqlWire.Proofs.Redo.Recovery
import SqlWire.Proofs.Response.Cells
import SqlWire.Proofs.Response.Encoding
import SqlWire.Proofs.Response.Indifference
import SqlWire.Proofs.Response.Parts
import SqlWire.Proofs.Response.Results
import SqlWire.Proofs.Response.Stages
import SqlWire.Proofs.Response.Suspension
import SqlWire.Proofs.Sql.Interpolation
import SqlWire.Proofs.Sql.Lexing
import SqlWire.Proofs.Sql.Literals
import SqlWire.Proofs.Sql.LocalFile
import SqlWire.Proofs.Sql.Naming
import SqlWire.Proofs.Sql.Words
import SqlWire.Proofs.Statements.Displacement
import SqlWire.Proofs.Statements.Lending
import SqlWire.Proofs.Statements.Parameters
import SqlWire.Proofs.Statements.Usage
import SqlWire.Proofs.Token.Expiry
import SqlWire.Proofs.Token.Hosts
