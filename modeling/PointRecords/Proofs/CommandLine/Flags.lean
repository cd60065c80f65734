import PointRecords.Proofs.CommandLine.Accepted
import PointRecords.Proofs.CommandLine.Outcome

/-!
# Flags before and after the subcommand

Where JSON is asked for makes no difference.  Verbose flags count at the place where
they stand, and those before the subcommand are dropped if there is one behind it: only
where all of them stand at one place, or enough of them behind, do the two counts add
up, and moving or adding flags changes what is logged as one would expect.
-/

namespace PointRecords.CommandLine

/-- How often verbosity is asked for. -/
def verboseCount (words : List String) : Nat := (flagsOf words).count .verbose

/-- Nothing is lost of the verbose flags at the two places. -/
def CountsAdd (before after : List String) : Prop :=
  verboseCount before = 0 ∨ verboseCount after = 0 ∨ 255 ≤ verboseCount after

/-- The words that remain without the flags before a separator. -/
def withoutFlags : List String → List String
  | [] => []
  | word :: rest =>
      if word = "--" then word :: rest
      else if wordFlags word = [] then word :: withoutFlags rest
      else withoutFlags rest

variable {α : Type} {positionals : Positionals α} {words other before after : List String}
  {subcommand : Subcommand} {command : Command} {arguments : Arguments}

theorem valuesOf_withoutFlags (words : List String) :
    valuesOf (withoutFlags words) = valuesOf words := by
  induction words with
  | nil => rfl
  | cons word rest ih =>
      rw [withoutFlags]
      split_ifs with separator isNone
      · rfl
      · rw [valuesOf_value separator isNone, valuesOf_value separator isNone, ih]
      · rw [valuesOf_flag isNone, ih]

theorem fits_withoutFlags (words : List String) :
    positionals.Fits (withoutFlags words) ↔ positionals.Fits words := by
  induction words with
  | nil => rfl
  | cons word rest ih =>
      rw [withoutFlags]
      split_ifs with separator isNone
      · rfl
      · rw [Positionals.Fits, Positionals.Fits, ih]
      · simp [Positionals.Fits, separator, isNone, ih]

/-- The flags among the words behind a subcommand have no part in its command. -/
theorem reads_congr (same : withoutFlags other = withoutFlags words) :
    subcommand.Reads other command ↔ subcommand.Reads words command := by
  have fits : ∀ {α : Type} (positionals : Positionals α),
      positionals.Fits other ↔ positionals.Fits words := by
    intro α positionals
    rw [← fits_withoutFlags other, same, fits_withoutFlags]
  have values : valuesOf other = valuesOf words := by
    rw [← valuesOf_withoutFlags other, same, valuesOf_withoutFlags]
  cases subcommand with
  | xyz => simp only [Subcommand.Reads, Positionals.Reads, fits, values]
  | rgb => simp only [Subcommand.Reads, Positionals.Reads, fits, values]
  | rgb16 => simp only [Subcommand.Reads, Positionals.Reads, fits, values]

/-- Each verbose flag admits one level more, from warnings on and up to debug texts. -/
theorem admits_verbosity_iff (verbose : Nat) (level : Log.Level) :
    (verbosity verbose).admits level = true ↔ level.rank ≤ 2 + min 2 verbose := by
  match verbose with
  | 0 => exact decide_eq_true_iff
  | 1 => exact decide_eq_true_iff
  | more + 2 =>
      rw [Nat.min_eq_left (by omega)]
      exact decide_eq_true_iff

theorem verbosity_mono {fewer more : Nat} (le : fewer ≤ more) {level : Log.Level}
    (admitted : (verbosity fewer).admits level = true) :
    (verbosity more).admits level = true := by
  rw [admits_verbosity_iff] at *
  omega

/-- The verbosity that flags at two places make. -/
theorem merge_verbose (before after : List String) :
    ((switchesOf before).merge (switchesOf after)).verbose =
      min 255 (if verboseCount after = 0 then verboseCount before else verboseCount after) := by
  have dropped : (switchesOf after).verbose = 0 ↔ verboseCount after = 0 := by
    simp only [switchesOf, verboseCount]
    omega
  simp only [Switches.merge, dropped]
  split_ifs <;> rfl

theorem merge_json (before after : List String) :
    ((switchesOf before).merge (switchesOf after)).json = true ↔
      .json ∈ flagsOf before ∨ .json ∈ flagsOf after := by
  simp [Switches.merge, switchesOf]

theorem counts_add_iff (before after : List String) :
    min 255 (if verboseCount after = 0 then verboseCount before else verboseCount after) =
      min 255 (verboseCount before + verboseCount after) ↔ CountsAdd before after := by
  unfold CountsAdd
  split_ifs <;> omega

/-- Two command lines have the same exit code and output. -/
def EndAlike (first second : List String) : Prop :=
  ∀ specification time,
    (execute first specification time).exitCode = (execute second specification time).exitCode ∧
      (execute first specification time).output = (execute second specification time).output

/-- What an accepted command line makes of its flags; and every command line that only
differs from it in the flags is accepted as well, unless it asks for JSON twice at one
place.  With the same flags at other places it ends alike, and it logs as much if all
verbose flags count on both lines; with more of them it then logs no less. -/
theorem flags_of_accepted
    (accepted : readArguments (before ++ subcommand.name :: after) = .ok arguments) :
    (arguments.json = true ↔ .json ∈ flagsOf before ∨ .json ∈ flagsOf after) ∧
    arguments.verbose =
      min 255 (if verboseCount after = 0 then verboseCount before else verboseCount after) ∧
    (arguments.verbose = min 255 (verboseCount before + verboseCount after) ↔
      CountsAdd before after) ∧
    ∀ otherBefore otherAfter : List String, (∀ word ∈ otherBefore, wordFlags word ≠ []) →
      withoutFlags otherAfter = withoutFlags after →
      (flagsOf otherBefore).count .json ≤ 1 → (flagsOf otherAfter).count .json ≤ 1 →
      ∃ other, readArguments (otherBefore ++ subcommand.name :: otherAfter) = .ok other ∧
        ((flagsOf otherBefore ++ flagsOf otherAfter).Perm (flagsOf before ++ flagsOf after) →
          EndAlike (otherBefore ++ subcommand.name :: otherAfter)
            (before ++ subcommand.name :: after) ∧
          (CountsAdd before after → CountsAdd otherBefore otherAfter →
            verbosity other.verbose = verbosity arguments.verbose)) ∧
        (CountsAdd before after → CountsAdd otherBefore otherAfter →
          verboseCount before + verboseCount after ≤
            verboseCount otherBefore + verboseCount otherAfter →
          ∀ level, (verbosity arguments.verbose).admits level = true →
            (verbosity other.verbose).admits level = true) := by
  obtain ⟨-, -, -, command, reads, rfl⟩ := readArguments_eq_ok_iff.mp accepted
  refine ⟨merge_json before after, merge_verbose before after, ?_, ?_⟩
  · rw [merge_verbose, counts_add_iff]
  · intro otherBefore otherAfter areFlags sameWords onceBefore onceAfter
    have otherAccepted := readArguments_eq_ok_iff.mpr
      ⟨areFlags, onceBefore, onceAfter, command, (reads_congr sameWords).mpr reads, rfl⟩
    refine ⟨_, otherAccepted, ?_, ?_⟩
    · intro sameFlags
      have sameJson := (merge_json otherBefore otherAfter).trans
        ((List.mem_append.symm.trans (sameFlags.mem_iff.trans List.mem_append)).trans
          (merge_json before after).symm)
      have sameCount : verboseCount otherBefore + verboseCount otherAfter =
          verboseCount before + verboseCount after := by
        simpa only [verboseCount, List.count_append] using sameFlags.count_eq .verbose
      refine ⟨?_, ?_⟩
      · intro specification time
        rw [execute_of_read accepted, execute_of_read otherAccepted]
        apply carryOut_congr
        · rfl
        · exact Bool.eq_iff_iff.mpr sameJson
      · intro countsAdd otherCountsAdd
        rw [merge_verbose, merge_verbose, (counts_add_iff _ _).mpr countsAdd,
          (counts_add_iff _ _).mpr otherCountsAdd, sameCount]
    · intro countsAdd otherCountsAdd le level admitted
      simp only [merge_verbose, (counts_add_iff _ _).mpr countsAdd,
        (counts_add_iff _ _).mpr otherCountsAdd] at admitted ⊢
      exact verbosity_mono (by omega) admitted

theorem flags_of_accepted_moved :
    readArguments ["-v", "rgb", "--json", "1", "2", "--", "3"] =
        .ok ⟨true, 1, .colour ⟨.value 1, .value 2, .value 3⟩⟩ ∧
      EndAlike ["--json", "rgb", "1", "-v", "2", "--", "3"]
        ["-v", "rgb", "--json", "1", "2", "--", "3"] := by
  have accepted : readArguments (["-v"] ++ Subcommand.rgb.name :: ["--json", "1", "2", "--", "3"]) =
      .ok ⟨true, 1, .colour ⟨.value 1, .value 2, .value 3⟩⟩ := rfl
  obtain ⟨-, -, -, moved⟩ := flags_of_accepted accepted
  obtain ⟨other, -, sameFlags, -⟩ := moved ["--json"] ["1", "-v", "2", "--", "3"]
    (by decide) (by decide) (by decide) (by decide)
  exact ⟨accepted, (sameFlags (by decide)).1⟩

/-- A verbose flag behind the subcommand takes the place of two before it, so that less
is logged than without it. -/
theorem verbose_behind_lowers :
    verboseCount ["-vv"] = 2 ∧ verboseCount ["-v", "1", "2", "3"] = 1 ∧
      readArguments ["-vv", "rgb", "1", "2", "3"] =
        .ok ⟨false, 2, .colour ⟨.value 1, .value 2, .value 3⟩⟩ ∧
      readArguments ["-vv", "rgb", "-v", "1", "2", "3"] =
        .ok ⟨false, 1, .colour ⟨.value 1, .value 2, .value 3⟩⟩ ∧
      verbosity 2 = .upTo .debug ∧ verbosity 1 = .upTo .info :=
  ⟨by decide, by decide, rfl, rfl, rfl, rfl⟩

end PointRecords.CommandLine
