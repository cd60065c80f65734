import PointRecords.CommandLine.Process

/-!
# What a run leaves

The exit code and the output of a run follow from the record that its arguments make
and from whether JSON is asked for; the verbosity only bears on what is logged.
-/

namespace PointRecords.CommandLine

variable {words : List String} {arguments : Arguments} {record : Record} {error : RecordError}

theorem execute_of_read (read : readArguments words = .ok arguments)
    (specification : Option String) (time : String) :
    execute words specification time = carryOut arguments specification time := by
  rw [execute, read]

theorem carryOut_of_made (made : arguments.command.record = .ok record)
    (specification : Option String) (time : String) :
    (carryOut arguments specification time).exitCode = 0 ∧
      (carryOut arguments specification time).output =
        record.describe arguments.json ++ "\n" := by
  have run : arguments.run.value = .ok (record.describe arguments.json) := by
    rw [Arguments.run, made]
  simp only [carryOut, run, and_self]

theorem carryOut_of_refused (refused : arguments.command.record = .error error)
    (specification : Option String) (time : String) :
    (carryOut arguments specification time).exitCode = 1 ∧
      (carryOut arguments specification time).output = "" := by
  have run : arguments.run.value = .error error := by
    rw [Arguments.run, refused]
  simp only [carryOut, run, and_self]

/-- The verbosity changes neither the exit code nor the output. -/
theorem carryOut_congr {first second : Arguments} (sameCommand : first.command = second.command)
    (sameJson : first.json = second.json) (specification : Option String) (time : String) :
    (carryOut first specification time).exitCode = (carryOut second specification time).exitCode ∧
      (carryOut first specification time).output = (carryOut second specification time).output := by
  cases made : first.command.record with
  | ok record =>
      obtain ⟨firstExit, firstOutput⟩ := carryOut_of_made made specification time
      obtain ⟨secondExit, secondOutput⟩ :=
        carryOut_of_made (sameCommand ▸ made) specification time
      exact ⟨firstExit.trans secondExit.symm, by rw [firstOutput, secondOutput, sameJson]⟩
  | error error =>
      obtain ⟨firstExit, firstOutput⟩ := carryOut_of_refused made specification time
      obtain ⟨secondExit, secondOutput⟩ :=
        carryOut_of_refused (sameCommand ▸ made) specification time
      exact ⟨firstExit.trans secondExit.symm, firstOutput.trans secondOutput.symm⟩

/-- Without a verbose flag and a specification, an error is all that is logged. -/
theorem carryOut_of_refused_quiet (refused : arguments.command.record = .error error)
    (quiet : arguments.verbose = 0) (time : String) :
    carryOut arguments none time = ⟨1, "", logLine time ⟨.error, error.message⟩⟩ := by
  have run : arguments.run = ⟨.error error, []⟩ := by
    rw [Arguments.run, refused]
  have hidden : (logFilter 0 none).1.admits logTarget
      ⟨.debug, "arguments: " ++ arguments.debug⟩ = false := rfl
  have shown : (logFilter 0 none).1.admits logTarget ⟨.error, error.message⟩ = true := rfl
  have records : (allRecords arguments).filter ((logFilter 0 none).1.admits logTarget) =
      [⟨.error, error.message⟩] := by
    simp only [allRecords, run, List.append_nil, List.singleton_append, List.filter_cons, hidden,
      shown, Bool.false_eq_true, if_false, if_true, List.filter_nil]
  have noFaults : (logFilter 0 none).2 = [] := rfl
  simp only [carryOut, quiet, run, records, noFaults, List.map_nil, List.map_cons, List.nil_append]
  simp [String.join]

end PointRecords.CommandLine
