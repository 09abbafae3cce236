import SqlWire.Error

/-!
# Batches

A batch is a list of commands that are answered one by one. `strategy` says how they are sent;
`Progress` collects what became of them. The first failure is the cause of the failure of the whole
batch, and the outcomes and completions of the other items go along with it.
-/

namespace SqlWire.Batch

/-- How the commands of a batch are sent. -/
inductive Strategy where
  /-- Every command before the first response is read. -/
  | pipelined
  /-- Each command after the response to the one before. -/
  | sequential
  deriving DecidableEq, Repr

def Strategy.name : Strategy → String
  | pipelined => "Pipelined"
  | sequential => "Sequential"

/-- Commands are not sent ahead where that is switched off, nor where a response may ask for a file,
which has to be sent before the next command. -/
def strategy (disablePipeline localInfile : Bool) : Strategy :=
  if disablePipeline || localInfile then .sequential else .pipelined

/-- What a batch has given so far. -/
structure Progress where
  /-- One outcome for each item that was answered or failed, in order. -/
  outcomes : Array BatchOutcome
  completions : Array Completion
  cause : Option Error

namespace Progress

def start : Progress := ⟨#[], #[], none⟩

def success (p : Progress) (completions : Array Completion) : Progress :=
  { p with
    outcomes := p.outcomes.push (.ofCompletions completions.toList)
    completions := p.completions ++ completions }

/-- The batch failed apart from any item. -/
def abort (p : Progress) (e : Error) : Progress := { p with cause := p.cause <|> some e }

def failure (p : Progress) (e : Error) : Progress :=
  { p with outcomes := p.outcomes.push .failed }.abort e

def finish (p : Progress) : Except Error (Array BatchOutcome × Array Completion) :=
  match p.cause with
  | none => .ok (p.outcomes, p.completions)
  | some cause => .error (.batch p.outcomes p.completions cause)

end Progress

end SqlWire.Batch
