import SqlWire.Sql.Lexer
import SqlWire.Value

/-!
# Parameters in SQL text

A statement whose placeholders are replaced by literals. The literals are escaped under the mode in
which the statement itself is read.
-/

namespace SqlWire.Sql

/-- `out` in reverse, then the bytes with each placeholder replaced by the next literal. Past the
last literal a placeholder stays. -/
def substituteOnto (noBackslash : Bool) (state : State) (literals : List Bytes) (out : Bytes) :
    Bytes → Bytes
  | [] => out.reverse
  | b :: rest =>
    let after := state.next noBackslash b rest
    match state.atPlaceholder b, literals with
    | true, literal :: literals =>
      substituteOnto noBackslash after literals (literal.reverse ++ out) rest
    | _, _ => substituteOnto noBackslash after literals (b :: out) rest

/-- The bytes of a statement with each placeholder replaced by the next literal. -/
def substitute (noBackslash : Bool) (literals : List Bytes) (sql : Bytes) : Bytes :=
  substituteOnto noBackslash .start literals [] sql

/-- A statement with its parameters in place of its placeholders. -/
def interpolate (noBackslash : Bool) (sql : Bytes) (params : List Value) :
    Except UsageFault Bytes :=
  let count := (placeholders noBackslash sql).length
  if count != params.length then .error (.placeholderCount count params.length)
  else .ok (substitute noBackslash (params.map (Value.literal noBackslash)) sql)

end SqlWire.Sql
