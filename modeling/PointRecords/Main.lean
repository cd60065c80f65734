import PointRecords.CommandLine.Process
import Std.Time.Zoned

/-!
# The program

Only here are arguments, surroundings and the clock read, and texts printed.
-/

open PointRecords

def twoDigits (number : Int) : String :=
  if number < 10 then "0" ++ integerText number else integerText number

def stamp (now : Std.Time.PlainDateTime) : String :=
  integerText now.year.toInt ++ "-" ++ twoDigits now.month.toInt ++ "-" ++
    twoDigits now.day.toInt ++ " " ++ twoDigits now.hour.toInt ++ ":" ++
    twoDigits now.minute.toInt ++ ":" ++ twoDigits now.second.toInt

def main (words : List String) : IO UInt32 := do
  let specification ← IO.getEnv "RUST_LOG"
  let now ← Std.Time.PlainDateTime.now
  let outcome := CommandLine.execute words specification (stamp now)
  IO.print outcome.output
  if outcome.errors.isEmpty || outcome.errors.endsWith "\n" then IO.eprint outcome.errors
  else IO.eprintln outcome.errors
  return UInt32.ofNat outcome.exitCode
