import PointRecords.Proofs.CommandLine.Accepted
import PointRecords.Proofs.CommandLine.Outcome
import PointRecords.Proofs.Text.OneLine

/-!
# The lines of the log

An accepted run makes two records: its arguments, and then either what was constructed
or why nothing was.  Everything in them is written by the program or quoted, with one
exception: a component that begins with an integer that is too wide is repeated as it was
typed.  Unless such a component breaks the line, each record is one line of the log.
-/

namespace PointRecords

open Decimal Text

/-! ## Texts of records -/

theorem Channel.isOneLine_name (channel : Channel) : IsOneLine channel.name := by
  cases channel with
  | red => decide
  | green => decide
  | blue => decide

/-- The sentence on a component repeats it as it is. -/
theorem isOneLine_outOfRange_iff (channel : Channel) (component : String) :
    IsOneLine (outOfRange channel component) ↔ IsOneLine component := by
  have before : IsOneLine " component " := by decide
  have after : IsOneLine " is out of range 0..=255" := by decide
  simp only [outOfRange, isOneLine_append, channel.isOneLine_name, before, after, true_and,
    and_true]

theorem RangeError.isOneLine_message (error : RangeError) : IsOneLine error.message :=
  (isOneLine_outOfRange_iff _ _).mpr (isOneLine_integerText _)

theorem Coordinate.isOneLine_text (layout : Layout) (coordinate : Coordinate) :
    IsOneLine (coordinate.text layout) :=
  isOneLine_ofList (coordinate.staysOnLine_write layout)

theorem Point.isOneLine_debug (point : Point) : IsOneLine point.debug := by
  have opening : IsOneLine "PointXyz \x7b x: " := by decide
  have second : IsOneLine ", y: " := by decide
  have third : IsOneLine ", z: " := by decide
  have closing : IsOneLine " \x7d" := by decide
  unfold Point.debug
  simp only [Triple.map, isOneLine_append, Coordinate.isOneLine_text, opening, second, third,
    closing, and_self]

theorem Colour.isOneLine_debug (colour : Colour) : IsOneLine colour.debug := by
  have opening : IsOneLine "Rgb \x7b r: " := by decide
  have second : IsOneLine ", g: " := by decide
  have third : IsOneLine ", b: " := by decide
  have closing : IsOneLine " \x7d" := by decide
  unfold Colour.debug
  simp only [Triple.map, Colour.channelText, isOneLine_append, isOneLine_integerText, opening,
    second, third, closing, and_self]

theorem Record.isOneLine_debug (record : Record) : IsOneLine record.debug := by
  have closing : IsOneLine ")" := by decide
  cases record with
  | point made =>
      have opening : IsOneLine "Xyz(" := by decide
      simp only [Record.debug, isOneLine_append, made.isOneLine_debug, opening, closing, and_self]
  | colour made =>
      have opening : IsOneLine "Rgb(" := by decide
      simp only [Record.debug, isOneLine_append, made.isOneLine_debug, opening, closing, and_self]

namespace CommandLine

theorem Component.isOneLine_debug (component : Component) : IsOneLine component.debug := by
  have closing : IsOneLine ")" := by decide
  cases component with
  | value number =>
      have opening : IsOneLine "Value(" := by decide
      simp only [Component.debug, isOneLine_append, isOneLine_integerText, opening, closing,
        and_self]
  | overflow text =>
      have opening : IsOneLine "Overflow(" := by decide
      simp only [Component.debug, isOneLine_append, isOneLine_quoted, opening, closing, and_self]

theorem isOneLine_variantText {variant : String} {names texts : Triple String}
    (variantLine : IsOneLine variant) (nameLines : ∀ place, IsOneLine (names.get place))
    (textLines : ∀ place, IsOneLine (texts.get place)) :
    IsOneLine (variantText variant names texts) := by
  have opening : IsOneLine " \x7b " := by decide
  have colon : IsOneLine ": " := by decide
  have comma : IsOneLine ", " := by decide
  have closing : IsOneLine " \x7d" := by decide
  have names := And.intro (nameLines .first) (And.intro (nameLines .second) (nameLines .third))
  have texts := And.intro (textLines .first) (And.intro (textLines .second) (textLines .third))
  simp only [Triple.get] at names texts
  unfold variantText
  simp only [isOneLine_append, variantLine, names, texts, opening, colon, comma,
    closing, and_self]

theorem Command.isOneLine_debug (command : Command) : IsOneLine command.debug := by
  cases command with
  | point coordinates =>
      refine isOneLine_variantText (by decide) (by rintro ⟨⟩ <;> decide) ?_
      rintro ⟨⟩
      all_goals exact Coordinate.isOneLine_text .debug _
  | colour components =>
      refine isOneLine_variantText (by decide) (by rintro ⟨⟩ <;> decide) ?_
      rintro ⟨⟩
      all_goals exact Component.isOneLine_debug _
  | wideColour levels =>
      refine isOneLine_variantText (by decide) (by rintro ⟨⟩ <;> decide) ?_
      rintro ⟨⟩
      all_goals exact isOneLine_integerText _

theorem Arguments.isOneLine_debug (arguments : Arguments) : IsOneLine arguments.debug := by
  have opening : IsOneLine "Cli \x7b json: " := by decide
  have json : IsOneLine (if arguments.json then "true" else "false") := by split <;> decide
  have second : IsOneLine ", verbose: " := by decide
  have third : IsOneLine ", command: " := by decide
  have closing : IsOneLine " \x7d" := by decide
  unfold Arguments.debug
  simp only [isOneLine_append, isOneLine_integerText, opening, json, second, third,
    arguments.command.isOneLine_debug, closing, and_self]

/-! ## The records of a run -/

/-- The record that arguments end with: what was made, or why nothing was. -/
def Arguments.lastRecord (arguments : Arguments) : Log.Record :=
  match arguments.command.record with
  | .ok record => ⟨.info, "constructed " ++ record.debug⟩
  | .error error => ⟨.error, error.message⟩

/-- The records that are severe enough for the verbosity of the arguments. -/
def writtenRecords (arguments : Arguments) : List Log.Record :=
  (allRecords arguments).filter fun record => (verbosity arguments.verbose).admits record.level

/-- A record behind the time and its level. -/
def recordLine (time : String) (record : Log.Record) : String :=
  time ++ " [" ++ record.level.name ++ "] - " ++ record.text

variable {words : List String} {arguments : Arguments} {channel : Channel} {text time : String}

theorem allRecords_eq (arguments : Arguments) :
    allRecords arguments =
      [⟨.debug, "arguments: " ++ arguments.debug⟩, arguments.lastRecord] := by
  rw [allRecords, Arguments.run, Arguments.lastRecord]
  cases arguments.command.record with
  | ok record => rfl
  | error error => rfl

/-- Without a specification the verbosity alone decides what is logged. -/
theorem admits_logFilter_none (verbose : Nat) (record : Log.Record) :
    (logFilter verbose none).1.admits logTarget record =
      (verbosity verbose).admits record.level :=
  Bool.and_true _

theorem carryOut_errors (arguments : Arguments) (time : String) :
    (carryOut arguments none time).errors =
      String.join ((writtenRecords arguments).map (logLine time)) := by
  have noFaults : (logFilter arguments.verbose none).2 = [] := rfl
  have written : (allRecords arguments).filter
      ((logFilter arguments.verbose none).1.admits logTarget) = writtenRecords arguments :=
    List.filter_congr fun record _ => admits_logFilter_none arguments.verbose record
  rw [carryOut]
  simp only [noFaults, written, List.map_nil, List.nil_append]
  split <;> rfl

theorem Component.eq_overflow_of_toChannel {component : Component} {other : Channel}
    (failed : component.toChannel other = .error (.overflow channel text)) :
    component = .overflow text := by
  cases component with
  | value number =>
      rw [toChannel] at failed
      split at failed
      · cases failed
      · cases failed
  | overflow kept =>
      rw [toChannel, Except.error.injEq, RecordError.overflow.injEq] at failed
      rw [failed.2]

theorem mem_of_record_overflow {components : Triple Component}
    (failed : (Command.colour components).record = .error (.overflow channel text)) :
    .overflow text ∈ components.toList := by
  rw [Command.record] at failed
  rcases bind_eq_error_iff.mp failed with red | ⟨_, -, failed⟩
  · simp [Triple.toList, Component.eq_overflow_of_toChannel red]
  · rcases bind_eq_error_iff.mp failed with green | ⟨_, -, failed⟩
    · simp [Triple.toList, Component.eq_overflow_of_toChannel green]
    · rcases bind_eq_error_iff.mp failed with blue | ⟨_, -, failed⟩
      · simp [Triple.toList, Component.eq_overflow_of_toChannel blue]
      · cases failed

/-- What is repeated as it was typed is one of the words, and begins with an integer that
is too wide. -/
theorem mem_of_accepted_overflow (accepted : readArguments words = .ok arguments)
    (failed : arguments.command.record = .error (.overflow channel text)) :
    text ∈ words ∧ BeginsTooWide text.toList := by
  obtain ⟨before, after, subcommand, rfl⟩ := exists_subcommand_of_accepted accepted
  obtain ⟨-, -, -, command, reads, rfl⟩ := readArguments_eq_ok_iff.mp accepted
  cases subcommand with
  | xyz =>
      obtain ⟨-, coordinates, -, rfl⟩ := reads
      cases failed
  | rgb =>
      obtain ⟨-, components, converted, rfl⟩ := reads
      obtain ⟨word, isValue, given⟩ :=
        exists_of_mem_results converted (mem_of_record_overflow failed)
      obtain ⟨-, wide, -⟩ := Component.read_ends word
      obtain ⟨rfl, tooWide⟩ := (wide text).mp (mapError_eq_ok_iff.mp given)
      have behind := mem_of_mem_valuesOf isValue
      exact ⟨List.mem_append_right _ (List.mem_cons_of_mem _ behind), tooWide⟩
  | rgb16 =>
      obtain ⟨-, levels, -, rfl⟩ := reads
      cases failed

/-- The last record is on one line, unless it repeats a component that is not. -/
theorem isOneLine_lastRecord_iff (arguments : Arguments) :
    IsOneLine arguments.lastRecord.text ↔ ∀ channel text,
      arguments.command.record = .error (.overflow channel text) → IsOneLine text := by
  rw [Arguments.lastRecord]
  cases made : arguments.command.record with
  | ok record =>
      have constructed : IsOneLine "constructed " := by decide
      simp only [isOneLine_append, constructed, record.isOneLine_debug, and_self, reduceCtorEq,
        false_implies, implies_true]
  | error error =>
      cases error with
      | range error =>
          simp only [RecordError.message, error.isOneLine_message, Except.error.injEq, reduceCtorEq,
            false_implies, implies_true]
      | overflow channel text =>
          simp only [RecordError.message, isOneLine_outOfRange_iff, Except.error.injEq,
            RecordError.overflow.injEq, and_imp]
          exact ⟨fun isLine _ _ _ sameText => sameText ▸ isLine, fun areLines =>
            areLines channel text rfl rfl⟩

theorem isOneLine_recordLine {record : Log.Record} (timeLine : IsOneLine time)
    (textLine : IsOneLine record.text) : IsOneLine (recordLine time record) := by
  have opening : IsOneLine " [" := by decide
  have level : IsOneLine record.level.name := by cases record.level <;> decide
  have closing : IsOneLine "] - " := by decide
  simp only [recordLine, isOneLine_append, timeLine, textLine, opening, level, closing, and_self]

theorem logLine_eq {record : Log.Record} (timeLine : IsOneLine time)
    (textLine : IsOneLine record.text) :
    logLine time record = recordLine time record ++ "\n" := by
  have stays : StaysOnLine (recordLine time record).toList :=
    isOneLine_recordLine timeLine textLine
  change streamedText (recordLine time record ++ "\n") = _
  rw [streamedText, ← String.toList_inj, String.toList_ofList, String.toList_append]
  exact streamed_line stays false

theorem splitOn_join (lines : List String) (areLines : ∀ line ∈ lines, IsOneLine line) :
    (String.join (lines.map (· ++ "\n"))).toList.splitOn '\n' =
      lines.map String.toList ++ [[]] := by
  have joined : (String.join (lines.map (· ++ "\n"))).toList =
      (lines.map String.toList).flatMap (· ++ ['\n']) := by
    simp [List.flatMap_map]
  rw [joined]
  exact splitOn_lines (List.forall_mem_map.mpr areLines)

/-- Where the written records are on one line, each is written as it is. -/
theorem map_logLine_eq (timeLine : IsOneLine time)
    (areLines : ∀ record ∈ writtenRecords arguments, IsOneLine record.text) :
    (writtenRecords arguments).map (logLine time) =
      ((writtenRecords arguments).map (recordLine time)).map (· ++ "\n") := by
  rw [List.map_map]
  exact List.map_congr_left fun record isWritten => logLine_eq timeLine (areLines record isWritten)

/-- An accepted run makes two records, of which it writes those severe enough for the
verbosity, one after the other.  Each of them is on one line unless it repeats a component
that is not, and such a component begins with an integer that is too wide without being
one.  If all records are on one line, the lines of the log are the written records. -/
theorem log_of_accepted (accepted : readArguments words = .ok arguments)
    (timeLine : IsOneLine time) :
    allRecords arguments =
      [⟨.debug, "arguments: " ++ arguments.debug⟩, arguments.lastRecord] ∧
    (execute words none time).errors =
      String.join ((writtenRecords arguments).map (logLine time)) ∧
    ((∀ record ∈ allRecords arguments, IsOneLine record.text) ↔
      ∀ channel text, arguments.command.record = .error (.overflow channel text) →
        IsOneLine text) ∧
    (∀ record ∈ allRecords arguments, ¬ IsOneLine record.text →
      ∃ word ∈ words, BeginsTooWide word.toList ∧ ¬ IsInteger word.toList ∧ ¬ IsOneLine word) ∧
    ((∀ record ∈ allRecords arguments, IsOneLine record.text) →
      let lines := (writtenRecords arguments).map (recordLine time)
      (execute words none time).errors = String.join (lines.map (· ++ "\n")) ∧
      (execute words none time).errors.toList.splitOn '\n' =
        lines.map String.toList ++ [[]]) := by
  have announced : IsOneLine "arguments: " := by decide
  have firstLine : IsOneLine ("arguments: " ++ arguments.debug) :=
    isOneLine_append.mpr ⟨announced, arguments.isOneLine_debug⟩
  have areLinesIff : (∀ record ∈ allRecords arguments, IsOneLine record.text) ↔
      IsOneLine arguments.lastRecord.text := by
    simp only [allRecords_eq, List.forall_mem_cons, List.not_mem_nil, firstLine, true_and,
      false_implies, implies_true, and_true]
  have errors : (execute words none time).errors =
      String.join ((writtenRecords arguments).map (logLine time)) := by
    rw [execute_of_read accepted, carryOut_errors]
  refine ⟨allRecords_eq arguments, errors, ?_, ?_, ?_⟩
  · rw [areLinesIff, isOneLine_lastRecord_iff]
  · intro record isRecord broken
    have lastBroken : ¬ IsOneLine arguments.lastRecord.text :=
      fun lastLine => broken (areLinesIff.mpr lastLine record isRecord)
    rw [isOneLine_lastRecord_iff] at lastBroken
    push Not at lastBroken
    obtain ⟨channel, text, failed, textBroken⟩ := lastBroken
    obtain ⟨isWord, tooWide⟩ := mem_of_accepted_overflow accepted failed
    exact ⟨text, isWord, tooWide, fun isInteger => textBroken isInteger.staysOnLine, textBroken⟩
  · intro areLines lines
    have written : ∀ record ∈ writtenRecords arguments, IsOneLine record.text :=
      fun record isWritten => areLines record (List.mem_filter.mp isWritten).1
    have linesStay : ∀ line ∈ lines, IsOneLine line :=
      List.forall_mem_map.mpr fun record isWritten =>
        isOneLine_recordLine timeLine (written record isWritten)
    rw [errors, map_logLine_eq timeLine written]
    exact ⟨rfl, splitOn_join lines linesStay⟩

theorem log_of_accepted_tooWide :
    readArguments ["-vv", "rgb", "0", "99999999999999999999", "0"] =
        .ok ⟨false, 2, .colour ⟨.value 0, .overflow "99999999999999999999", .value 0⟩⟩ ∧
      IsOneLine "12:00" ∧
      (execute ["-vv", "rgb", "0", "99999999999999999999", "0"] none "12:00").errors =
        "12:00 [DEBUG] - arguments: Cli \x7b json: false, verbose: 2, command: Rgb \x7b " ++
          "r: Value(0), g: Overflow(\"99999999999999999999\"), b: Value(0) \x7d \x7d\n" ++
          "12:00 [ERROR] - green component 99999999999999999999 is out of range 0..=255\n" := by
  have accepted : readArguments ["-vv", "rgb", "0", "99999999999999999999", "0"] =
      .ok ⟨false, 2, .colour ⟨.value 0, .overflow "99999999999999999999", .value 0⟩⟩ := rfl
  have timeLine : IsOneLine "12:00" := by decide
  obtain ⟨-, -, areLinesIff, -, areLines⟩ := log_of_accepted accepted timeLine
  have repeated : ∀ channel text, RecordError.overflow .green "99999999999999999999" =
      .overflow channel text → IsOneLine text := by
    rintro channel text ⟨⟩
    decide
  obtain ⟨errors, -⟩ := areLines (areLinesIff.mpr fun channel text failed =>
    repeated channel text (Except.error.inj failed))
  refine ⟨accepted, timeLine, errors.trans ?_⟩
  decide +kernel

/-- A component that goes on in a second line, where it can pass for another record. -/
theorem forged_line :
    let words := ["rgb", "99999999999999999999\nforged", "0", "0"]
    let arguments : Arguments :=
      ⟨false, 0, .colour ⟨.overflow "99999999999999999999\nforged", .value 0, .value 0⟩⟩
    readArguments words = .ok arguments ∧
      (writtenRecords arguments).map (·.text) =
        ["red component 99999999999999999999\nforged is out of range 0..=255"] ∧
      ¬ IsOneLine "red component 99999999999999999999\nforged is out of range 0..=255" ∧
      (execute words none "12:00").errors =
        "12:00 [ERROR] - red component 99999999999999999999\n" ++
          "forged is out of range 0..=255\n" := by
  refine ⟨rfl, ?_, by decide, ?_⟩
  · decide +kernel
  · decide +kernel

end CommandLine

end PointRecords
