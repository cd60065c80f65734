import PointRecords.Text.Terminal

/-!
# Refusals

Arguments that do not describe a record are refused: because help or the version
was asked for, or because of a mistake.  Each cause is a constructor; its text,
its name and its exit code follow from it.
-/

namespace PointRecords.CommandLine

/-- The kinds of record that can be asked for. -/
inductive Subcommand
  | xyz
  | rgb
  | rgb16
  deriving DecidableEq

/-- What a help text is about. -/
inductive Topic
  | program
  | subcommand (which : Subcommand)
  | help
  deriving DecidableEq

namespace Subcommand

def name : Subcommand → String
  | .xyz => "xyz"
  | .rgb => "rgb"
  | .rgb16 => "rgb16"

def ofName? (word : String) : Option Subcommand :=
  if word = "xyz" then some .xyz
  else if word = "rgb" then some .rgb
  else if word = "rgb16" then some .rgb16
  else none

def about : Subcommand → String
  | .xyz => "A 3D coordinate point"
  | .rgb => "An 8-bit RGB colour; components outside 0..=255 are rejected"
  | .rgb16 => "A 16-bit RGB colour, scaled down to 8 bits"

def valueNames : Subcommand → List String
  | .xyz => ["X", "Y", "Z"]
  | .rgb | .rgb16 => ["R", "G", "B"]

end Subcommand

def helpWord : String := "help"

def helpAbout : String := "Print this message or the help of the given subcommand(s)"

def optionLines : String :=
  "Options:\n" ++
    "      --json        Print the record as JSON instead of its text form\n" ++
    "  -v, --verbose...  Increase log verbosity (-v info, -vv debug)\n" ++
    "  -h, --help        Print help\n"

/-- A word and its explanation in a list of subcommands. -/
def commandLine (word about : String) : String :=
  "  " ++ word ++ String.ofList (List.replicate (7 - word.length) ' ') ++ about ++ "\n"

def programHelp : String :=
  "Construct point records and print their description\n\n" ++
    "Usage: ptypes [OPTIONS] <COMMAND>\n\nCommands:\n" ++
    String.join ([Subcommand.xyz, .rgb, .rgb16].map fun each =>
      commandLine each.name each.about) ++
    commandLine helpWord helpAbout ++ "\n" ++ optionLines ++
    "  -V, --version     Print version\n"

def subcommandHelp (subcommand : Subcommand) : String :=
  subcommand.about ++ "\n\nUsage: ptypes " ++ subcommand.name ++ " [OPTIONS]" ++
    String.join (subcommand.valueNames.map fun each => " <" ++ each ++ ">") ++
    "\n\nArguments:\n" ++
    String.join (subcommand.valueNames.map fun each => "  <" ++ each ++ ">  \n") ++
    "\n" ++ optionLines

def helpHelp : String :=
  helpAbout ++ "\n\nUsage: ptypes help [COMMAND]...\n\nArguments:\n" ++
    "  [COMMAND]...  Print help for the subcommand(s)\n"

namespace Topic

def text : Topic → String
  | .program => programHelp
  | .subcommand which => subcommandHelp which
  | .help => helpHelp

end Topic

/-- Why arguments do not describe a record. -/
inductive Refusal
  | help (topic : Topic)
  | version
  | nothingGiven
  | missingSubcommand
  | unknownSubcommand (word : String)
  | unknownArgument (argument : String)
  | unexpectedValue (value flag : String)
  | repeatedFlag (flag : String)
  | missingValues (names : List String)
  | invalidValue (value name reason : String)
  deriving DecidableEq

namespace Refusal

def name : Refusal → String
  | .help _ => "DisplayHelp"
  | .version => "DisplayVersion"
  | .nothingGiven => "DisplayHelpOnMissingArgumentOrSubcommand"
  | .missingSubcommand => "MissingSubcommand"
  | .unknownSubcommand _ => "InvalidSubcommand"
  | .unknownArgument _ => "UnknownArgument"
  | .unexpectedValue _ _ => "TooManyValues"
  | .repeatedFlag _ => "ArgumentConflict"
  | .missingValues _ => "MissingRequiredArgument"
  | .invalidValue _ _ _ => "ValueValidation"

/-- The answer was asked for and is no mistake. -/
def isAnswer : Refusal → Bool
  | .help _ | .version => true
  | _ => false

def exitCode (refusal : Refusal) : Nat :=
  if refusal.isAnswer then 0 else 2

/-- The text of a refusal, with what was typed set off from the rest. -/
def text : Refusal → String
  | .help topic => topic.text
  | .version => "ptypes 0.0.1\n"
  | .nothingGiven => programHelp
  | .missingSubcommand =>
      "error: 'ptypes' requires a subcommand but one was not provided\n" ++
        "  [subcommands: xyz, rgb, rgb16, help]"
  | .unknownSubcommand word =>
      "error: unrecognized subcommand '" ++ Text.emphasised word ++ "'"
  | .unknownArgument argument =>
      "error: unexpected argument '" ++ Text.emphasised argument ++ "' found"
  | .unexpectedValue value flag =>
      "error: unexpected value '" ++ Text.emphasised value ++ "' for '" ++ flag ++
        "' found; no more were expected"
  | .repeatedFlag flag =>
      "error: the argument '" ++ flag ++ "' cannot be used multiple times"
  | .missingValues names =>
      "error: the following required arguments were not provided:" ++
        String.join (names.map fun each => "\n  <" ++ each ++ ">")
  | .invalidValue value name reason =>
      "error: invalid value '" ++ Text.emphasised value ++ "' for '<" ++ name ++ ">': " ++ reason

/-- A help text is given in full, of an error only the headline. -/
def isWhole : Refusal → Bool
  | .help _ | .version | .nothingGiven => true
  | _ => false

/-- What a caller is told: a text in full, or the headline of an error message. -/
def message (refusal : Refusal) : String :=
  if refusal.isWhole then refusal.text else Text.headline (Text.shownText refusal.text)

/-- What is printed, which is streamed. -/
def printed (refusal : Refusal) : String :=
  if refusal.isWhole then refusal.text else Text.headline (Text.streamedText refusal.text)

end Refusal

end PointRecords.CommandLine
