import PointRecords.CommandLine.Arguments
import PointRecords.CommandLine.Refusal
import PointRecords.Decimal.Literal

/-!
# Reading the command line

Words are read from the left, and the first mistake ends the reading.  Flags may
stand before and after the subcommand and are collected at each place on its
own.  A value is converted when something after it shows that it is complete:
the next value, a known flag, or the end.
-/

namespace PointRecords.CommandLine

/-- A word before it is known what it is for. -/
inductive Word
  | separator
  | long (name : List Char) (value : Option (List Char))
  | short (letters : List Char)
  | plain

def splitValue (text : List Char) : Word :=
  let name := text.takeWhile (· != '=')
  match text.dropWhile (· != '=') with
  | [] => .long name none
  | _ :: value => .long name (some value)

namespace Word

/-- Tell words apart by their dashes. -/
def ofText (text : String) : Word :=
  match text.toList with
  | ['-', '-'] => .separator
  | '-' :: '-' :: rest => splitValue rest
  | ['-'] => .plain
  | '-' :: letters => .short letters
  | _ => .plain

end Word

/-- The flags. -/
inductive Flag
  | json
  | verbose
  | help
  | version
  deriving DecidableEq

namespace Flag

def shown : Flag → String
  | .json => "--json"
  | .verbose => "--verbose..."
  | .help => "--help"
  | .version => "--version"

/-- The flag of a long name.  The version can only be asked of the program. -/
def ofLong? (topic : Topic) (name : List Char) : Option Flag :=
  if name = "json".toList then some .json
  else if name = "verbose".toList then some .verbose
  else if name = "help".toList then some .help
  else if name = "version".toList ∧ topic = .program then some .version
  else none

def ofShort? (topic : Topic) (letter : Char) : Option Flag :=
  if letter = 'v' then some .verbose
  else if letter = 'h' then some .help
  else if letter = 'V' ∧ topic = .program then some .version
  else none

end Flag

/-- The flags seen at one place.  The count of verbose flags stops at 255. -/
structure Switches where
  json : Bool
  verbose : Nat
  deriving DecidableEq

namespace Switches

def none : Switches := ⟨false, 0⟩

def apply (topic : Topic) (switches : Switches) : Flag → Except Refusal Switches
  | .json =>
      if switches.json then .error (.repeatedFlag Flag.json.shown)
      else .ok { switches with json := true }
  | .verbose => .ok { switches with verbose := min 255 (switches.verbose + 1) }
  | .help => .error (.help topic)
  | .version => .error .version

/-- The flags before and after a subcommand together.  Verbose flags after it
outweigh those before it. -/
def merge (before after : Switches) : Switches where
  json := before.json || after.json
  verbose := if after.verbose = 0 then before.verbose else after.verbose

end Switches

/-- How the values of a subcommand are read, and what they make. -/
structure Positionals (α : Type) where
  subcommand : Subcommand
  allowsNegative : Bool
  convert : String → Except String α
  command : Triple α → Command

/-- A word made of digits and at most a point and an exponent without a sign can
be a negative number. -/
def isNumberShaped (text : List Char) : Bool :=
  let (whole, afterWhole) := Decimal.digitRun text
  let afterFraction :=
    match afterWhole with
    | '.' :: rest => (Decimal.digitRun rest).2
    | rest => rest
  let complete :=
    match afterFraction with
    | [] => true
    | mark :: exponent =>
        (mark == 'e' || mark == 'E') && !exponent.isEmpty && (Decimal.digitRun exponent).2.isEmpty
  !whole.isEmpty && complete

/-- How far the words after a subcommand have been read: the flags, the values
converted, and one that waits for its conversion. -/
structure Progress (α : Type) where
  switches : Switches
  converted : List α
  waiting : Option String

namespace Progress

variable {α : Type} (positionals : Positionals α)

def count (progress : Progress α) : Nat :=
  progress.converted.length + (if progress.waiting.isSome then 1 else 0)

def flush (progress : Progress α) : Except Refusal (Progress α) :=
  match progress.waiting with
  | none => .ok progress
  | some text =>
      match positionals.convert text with
      | .ok value =>
          .ok { progress with converted := progress.converted ++ [value], waiting := none }
      | .error reason =>
          let name := positionals.subcommand.valueNames.getD progress.converted.length ""
          .error (.invalidValue text name reason)

def accept (progress : Progress α) (text : String) : Except Refusal (Progress α) :=
  if progress.count < 3 then do
    let flushed ← progress.flush positionals
    return { flushed with waiting := some text }
  else .error (.unknownArgument text)

def raise (progress : Progress α) (flag : Flag) : Except Refusal (Progress α) := do
  let flushed ← progress.flush positionals
  let switches ← flushed.switches.apply (.subcommand positionals.subcommand) flag
  return { flushed with switches }

end Progress

/-- A long flag: unknown, with a value it cannot have, or known. -/
def longFlag (topic : Topic) (name : List Char) (value : Option (List Char)) :
    Except Refusal Flag :=
  match Flag.ofLong? topic name, value with
  | none, _ => .error (.unknownArgument ("--" ++ String.ofList name))
  | some flag, some text => .error (.unexpectedValue (String.ofList text) flag.shown)
  | some flag, none => .ok flag

def shortFlag (topic : Topic) (letter : Char) : Except Refusal Flag :=
  match Flag.ofShort? topic letter with
  | none => .error (.unknownArgument (String.ofList ['-', letter]))
  | some flag => .ok flag

namespace Progress

variable {α : Type} (positionals : Positionals α)

def raiseAll (progress : Progress α) : List Char → Except Refusal (Progress α)
  | [] => .ok progress
  | letter :: rest => do
      let flag ← shortFlag (.subcommand positionals.subcommand) letter
      let raised ← progress.raise positionals flag
      raised.raiseAll rest

/-- Take in the words after a subcommand; after a separator, all are values. -/
def readAll (progress : Progress α) : List String → Except Refusal (Progress α)
  | [] => progress.flush positionals
  | word :: rest => do
      match Word.ofText word with
      | .separator => do
          let filled ← rest.foldlM (·.accept positionals ·) progress
          filled.flush positionals
      | .long name value => do
          let flag ← longFlag (.subcommand positionals.subcommand) name value
          let raised ← progress.raise positionals flag
          raised.readAll rest
      | .short letters =>
          if positionals.allowsNegative && isNumberShaped letters && progress.count < 3 then do
            let accepted ← progress.accept positionals word
            accepted.readAll rest
          else do
            let raised ← progress.raiseAll positionals letters
            raised.readAll rest
      | .plain => do
          let accepted ← progress.accept positionals word
          accepted.readAll rest

end Progress

def readValues {α : Type} (positionals : Positionals α) (before : Switches)
    (words : List String) : Except Refusal Arguments := do
  let progress ← Progress.readAll positionals ⟨.none, [], none⟩ words
  match progress.converted with
  | [first, second, third] =>
      let switches := before.merge progress.switches
      return ⟨switches.json, switches.verbose, positionals.command ⟨first, second, third⟩⟩
  | converted =>
      .error (.missingValues (positionals.subcommand.valueNames.drop converted.length))

def readCoordinate (text : String) : Except String Coordinate :=
  (Decimal.readLiteral .single text.toList).mapError (·.message)

def readComponent (text : String) : Except String Component :=
  (Component.read text).mapError (·.message)

def readLevel (text : String) : Except String UInt16 :=
  match Decimal.readInteger text.toList with
  | .error fault => .error fault.message
  | .ok number =>
      if 0 ≤ number ∧ number ≤ 65535 then .ok (UInt16.ofNat number.toNat)
      else .error (integerText number ++ " is not in 0..=65535")

def readSubcommand (before : Switches) (words : List String) :
    Subcommand → Except Refusal Arguments
  | .xyz => readValues ⟨.xyz, true, readCoordinate, .point⟩ before words
  | .rgb => readValues ⟨.rgb, true, readComponent, .colour⟩ before words
  | .rgb16 => readValues ⟨.rgb16, false, readLevel, .wideColour⟩ before words

/-- The help that is asked for by the words after `help`.  Only the program has
subcommands, so a second word is one too many. -/
def readHelp : Topic → List String → Refusal
  | topic, [] => .help topic
  | .program, word :: rest =>
      match Subcommand.ofName? word with
      | some subcommand => readHelp (.subcommand subcommand) rest
      | none =>
          if word = helpWord then readHelp .help rest else .unknownSubcommand word
  | _, word :: _ => .unknownSubcommand word

/-- Nothing was given that could be carried out. -/
def noSubcommand (switches : Switches) : Refusal :=
  if switches = .none then .nothingGiven else .missingSubcommand

/-- The word after a separator, where no value can stand. -/
def strayWord (word : String) : Refusal :=
  if (Subcommand.ofName? word).isSome ∨ word = helpWord then .unknownArgument word
  else .unknownSubcommand word

def raiseLetters (switches : Switches) : List Char → Except Refusal Switches
  | [] => .ok switches
  | letter :: rest => do
      let flag ← shortFlag .program letter
      let raised ← switches.apply .program flag
      raiseLetters raised rest

def readFrom (switches : Switches) : List String → Except Refusal Arguments
  | [] => .error (noSubcommand switches)
  | word :: rest => do
      match Word.ofText word with
      | .separator =>
          .error (match rest with
            | [] => noSubcommand switches
            | stray :: _ => strayWord stray)
      | .long name value => do
          let flag ← longFlag .program name value
          let raised ← switches.apply .program flag
          readFrom raised rest
      | .short letters => do
          let raised ← raiseLetters switches letters
          readFrom raised rest
      | .plain =>
          match Subcommand.ofName? word with
          | some subcommand => readSubcommand switches rest subcommand
          | none =>
              if word = helpWord then .error (readHelp .program rest)
              else .error (.unknownSubcommand word)

def readArguments (words : List String) : Except Refusal Arguments :=
  readFrom .none words

end PointRecords.CommandLine
