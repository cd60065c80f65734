import PointRecords.CommandLine.Reader
import PointRecords.Log.Filter

/-!
# The program as a function

A run of the program takes the words given, the log specification of its
surroundings and the time, and leaves an exit code and two texts.
-/

namespace PointRecords.CommandLine

/-- How much is logged after so many verbose flags. -/
def verbosity : Nat → Log.Threshold
  | 0 => .upTo .warn
  | 1 => .upTo .info
  | _ => .upTo .debug

/-- The target that all records of the program have. -/
def logTarget : String := "ptypes"

/-- One line of the log, without what a terminal would not show. -/
def logLine (time : String) (record : Log.Record) : String :=
  Text.streamedText (time ++ " [" ++ record.level.name ++ "] - " ++ record.text ++ "\n")

/-- What a run leaves. -/
structure Outcome where
  exitCode : Nat
  output : String
  errors : String
  deriving DecidableEq

/-- The filter for the given verbosity, refined by a specification if there is
one. -/
def logFilter (verbose : Nat) (specification : Option String) :
    Log.Filter × List Log.SpecificationFault :=
  let filter : Log.Filter := ⟨[⟨none, verbosity verbose⟩], none⟩
  match specification with
  | none => (filter, [])
  | some text => Log.refine filter text

/-- Every record that carrying out arguments makes, in order. -/
def allRecords (arguments : Arguments) : List Log.Record :=
  let run := arguments.run
  [⟨.debug, "arguments: " ++ arguments.debug⟩] ++ run.records ++
    (match run.value with
    | .ok _ => []
    | .error error => [⟨.error, error.message⟩])

def carryOut (arguments : Arguments) (specification : Option String) (time : String) :
    Outcome :=
  let (filter, faults) := logFilter arguments.verbose specification
  let warnings := faults.map fun fault => "warning: " ++ fault.message ++ ", ignoring it\n"
  let written := (allRecords arguments).filter (filter.admits logTarget)
  let errors := String.join (warnings ++ written.map (logLine time))
  match arguments.run.value with
  | .ok description => ⟨0, description ++ "\n", errors⟩
  | .error _ => ⟨1, "", errors⟩

def refuse (refusal : Refusal) : Outcome :=
  if refusal.isAnswer then ⟨refusal.exitCode, refusal.printed, ""⟩
  else ⟨refusal.exitCode, "", refusal.printed⟩

def execute (words : List String) (specification : Option String) (time : String) : Outcome :=
  match readArguments words with
  | .ok arguments => carryOut arguments specification time
  | .error refusal => refuse refusal

end PointRecords.CommandLine
