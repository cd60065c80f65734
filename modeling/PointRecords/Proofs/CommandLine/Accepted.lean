import Mathlib.Tactic
import PointRecords.Proofs.Chain
import PointRecords.Proofs.CommandLine.Components
import PointRecords.Proofs.CommandLine.PlainPoint

/-!
# Which command lines are accepted

An accepted command line is made of words that are flags, the name of a subcommand,
and words behind it that are flags or values, where behind a separator all are values.
Neither the order of the values and flags nor when a value is converted matters: the
flags are applied one after the other, and the values are converted in turn.
-/

namespace PointRecords.CommandLine

/-- The flags that a word stands for: a long one, or a verbose flag for each of its
letters. -/
def wordFlags (word : String) : List Flag :=
  match word.toList with
  | '-' :: '-' :: name =>
      if name = "json".toList then [.json] else if name = "verbose".toList then [.verbose] else []
  | '-' :: letters => if letters.all (· == 'v') then letters.map fun _ => .verbose else []
  | _ => []

/-- The flags among some words, up to a separator. -/
def flagsOf : List String → List Flag
  | [] => []
  | word :: rest => if word = "--" then [] else wordFlags word ++ flagsOf rest

/-- The values among some words: those that are no flags, and all behind a separator. -/
def valuesOf : List String → List String
  | [] => []
  | word :: rest =>
      if word = "--" then rest
      else if wordFlags word = [] then word :: valuesOf rest
      else valuesOf rest

variable {α σ : Type} {positionals : Positionals α} {word : String} {letters : List Char}

/-! ## Words -/

theorem wordFlags_separator : wordFlags "--" = [] := by decide

theorem ne_separator_of_wordFlags (isFlag : wordFlags word ≠ []) : word ≠ "--" := by
  rintro rfl
  exact isFlag wordFlags_separator

theorem flagsOf_cons (notSeparator : word ≠ "--") (rest : List String) :
    flagsOf (word :: rest) = wordFlags word ++ flagsOf rest :=
  if_neg notSeparator

theorem valuesOf_flag (isFlag : wordFlags word ≠ []) (rest : List String) :
    valuesOf (word :: rest) = valuesOf rest := by
  rw [valuesOf, if_neg (ne_separator_of_wordFlags isFlag), if_neg isFlag]

theorem valuesOf_value (notSeparator : word ≠ "--") (isNone : wordFlags word = [])
    (rest : List String) : valuesOf (word :: rest) = word :: valuesOf rest := by
  rw [valuesOf, if_neg notSeparator, if_pos isNone]

theorem mem_of_mem_valuesOf {words : List String} (mem : word ∈ valuesOf words) :
    word ∈ words := by
  induction words with
  | nil => exact mem
  | cons first rest ih =>
      rw [valuesOf] at mem
      split_ifs at mem with separator isNone
      · exact List.mem_cons_of_mem _ mem
      · rcases List.mem_cons.mp mem with rfl | inRest
        · exact List.mem_cons_self
        · exact List.mem_cons_of_mem _ (ih inRest)
      · exact List.mem_cons_of_mem _ (ih mem)

theorem splitValue_eq_long (text : List Char) :
    ∃ name value, splitValue text = .long name value ∧ (value = none → name = text) := by
  unfold splitValue
  split
  case h_1 noValue =>
      have whole := List.takeWhile_append_dropWhile (p := (· != '=')) (l := text)
      rw [noValue, List.append_nil] at whole
      exact ⟨_, _, rfl, fun _ => whole⟩
  case h_2 value _ => exact ⟨_, _, rfl, fun valued => by cases valued⟩

/-- What the dashes of a word tell. -/
theorem ofText_cases (word : String) :
    (word = "--" ∧ Word.ofText word = .separator) ∨
    (∃ rest name value, word.toList = '-' :: '-' :: rest ∧
      splitValue rest = .long name value ∧ Word.ofText word = .long name value) ∨
    (∃ letters, letters ≠ [] ∧ letters.head? ≠ some '-' ∧ word.toList = '-' :: letters ∧
      Word.ofText word = .short letters) ∨
    ((word.toList = ['-'] ∨ word.toList.head? ≠ some '-') ∧ Word.ofText word = .plain) := by
  have separator : word = "--" ↔ word.toList = ['-', '-'] := by
    rw [← String.toList_inj]
    rfl
  rw [separator, Word.ofText]
  split
  case h_1 chars => exact Or.inl ⟨chars, rfl⟩
  case h_2 rest _ chars =>
      obtain ⟨name, value, split, -⟩ := splitValue_eq_long rest
      exact Or.inr (Or.inl ⟨rest, name, value, chars, split, split⟩)
  case h_3 chars => exact Or.inr (Or.inr (Or.inr ⟨Or.inl chars, rfl⟩))
  case h_4 letters _ notLong notDash chars =>
      refine Or.inr (Or.inr (Or.inl ⟨letters, ?_, ?_, chars, rfl⟩))
      · rintro rfl
        exact notDash rfl
      · intro dash
        obtain ⟨rest, rfl⟩ := List.head?_eq_some_iff.mp dash
        exact notLong rest rfl
  case h_5 noDash =>
      refine Or.inr (Or.inr (Or.inr ⟨Or.inr ?_, rfl⟩))
      intro dash
      obtain ⟨letters, chars⟩ := List.head?_eq_some_iff.mp dash
      exact noDash letters chars

theorem wordFlags_long {rest : List Char} (chars : word.toList = '-' :: '-' :: rest) :
    wordFlags word = if rest = "json".toList then [.json]
      else if rest = "verbose".toList then [.verbose] else [] := by
  rw [wordFlags, chars]
  rfl

theorem wordFlags_short (chars : word.toList = '-' :: letters)
    (single : letters.head? ≠ some '-') :
    wordFlags word =
      if letters.all (· == 'v') then letters.map fun _ => .verbose else [] := by
  rw [wordFlags, chars]
  cases letters with
  | nil => rfl
  | cons letter rest =>
      have notDash : letter ≠ '-' := by simpa using single
      split
      case h_1 name eq =>
          cases eq
          exact absurd rfl notDash
      case h_2 eq =>
          cases eq
          rfl
      case h_3 noDash => exact absurd rfl (noDash _)

theorem wordFlags_plain (plain : word.toList = ['-'] ∨ word.toList.head? ≠ some '-') :
    wordFlags word = [] := by
  rcases plain with dash | noDash
  · rw [wordFlags_short dash (by simp)]
    rfl
  · rw [wordFlags]
    split
    case h_1 eq => simp [eq] at noDash
    case h_2 eq => simp [eq] at noDash
    case h_3 => rfl

/-! ## Steps on single words -/

section

variable {topic : Topic} {flag : Flag} {step : σ → Flag → Except Refusal σ} {state result : σ}

/-- Flags that can be applied. -/
def Flag.IsSwitch (flag : Flag) : Prop := flag = .json ∨ flag = .verbose

theorem isSwitch_of_mem_wordFlags (mem : flag ∈ wordFlags word) : flag.IsSwitch := by
  rw [wordFlags] at mem
  split at mem
  · split at mem
    · exact Or.inl (List.mem_singleton.mp mem)
    · split at mem
      · exact Or.inr (List.mem_singleton.mp mem)
      · cases mem
  · split at mem
    · obtain ⟨_, -, rfl⟩ := List.mem_map.mp mem
      exact Or.inr rfl
    · cases mem
  · cases mem

/-- The step takes no flag that asks for an answer. -/
def OnlySwitches (step : σ → Flag → Except Refusal σ) : Prop :=
  ∀ state flag result, step state flag = .ok result → flag.IsSwitch

theorem onlySwitches_apply (topic : Topic) : OnlySwitches (Switches.apply topic) := by
  intro switches flag result applied
  cases flag with
  | json => exact Or.inl rfl
  | verbose => exact Or.inr rfl
  | help => cases applied
  | version => cases applied

theorem onlySwitches_raise (positionals : Positionals α) :
    OnlySwitches (Progress.raise positionals) := by
  intro progress flag result raised
  obtain ⟨flushed, -, rest⟩ := bind_eq_ok_iff.mp raised
  obtain ⟨switches, applied, -⟩ := bind_eq_ok_iff.mp rest
  exact onlySwitches_apply _ _ _ _ applied

theorem shortFlag_switch {letter : Char} (known : shortFlag topic letter = .ok flag)
    (isSwitch : flag.IsSwitch) : letter = 'v' ∧ flag = .verbose := by
  rw [shortFlag, Flag.ofShort?] at known
  by_cases verbose : letter = 'v'
  · rw [if_pos verbose] at known
    cases known
    exact ⟨verbose, rfl⟩
  · rw [if_neg verbose] at known
    exfalso
    rcases isSwitch with rfl | rfl
    all_goals
      split_ifs at known <;> cases known

theorem longFlag_switch {name : List Char} {value : Option (List Char)}
    (known : longFlag topic name value = .ok flag) (isSwitch : flag.IsSwitch) :
    value = none ∧
      (name = "json".toList ∧ flag = .json ∨ name = "verbose".toList ∧ flag = .verbose) := by
  unfold longFlag at known
  split at known
  case h_1 => cases known
  case h_2 => cases known
  case h_3 found =>
      cases known
      rw [Flag.ofLong?] at found
      split_ifs at found with json verbose help version
      · cases found
        exact ⟨rfl, Or.inl ⟨json, rfl⟩⟩
      · cases found
        exact ⟨rfl, Or.inr ⟨verbose, rfl⟩⟩
      · cases found
        exact absurd isSwitch (by simp [Flag.IsSwitch])
      · cases found
        exact absurd isSwitch (by simp [Flag.IsSwitch])

/-- A long flag is taken exactly if its word stands for flags, and as these. -/
theorem takeLong_eq_ok_iff (only : OnlySwitches step) {rest : List Char}
    (chars : word.toList = '-' :: '-' :: rest) {name : List Char} {value : Option (List Char)}
    (long : splitValue rest = .long name value) :
    (∃ flag, longFlag topic name value = .ok flag ∧ step state flag = .ok result) ↔
      wordFlags word ≠ [] ∧ (wordFlags word).foldlM step state = .ok result := by
  have flags := wordFlags_long chars
  constructor
  · rintro ⟨flag, known, taken⟩
    obtain ⟨rfl, named⟩ := longFlag_switch known (only _ _ _ taken)
    obtain ⟨_, _, split, whole⟩ := splitValue_eq_long rest
    rw [split] at long
    cases long
    obtain rfl := whole rfl
    rcases named with ⟨rfl, rfl⟩ | ⟨rfl, rfl⟩
    · rw [flags, if_pos rfl]
      simpa using taken
    · rw [flags, if_neg (by decide), if_pos rfl]
      simpa using taken
  · rintro ⟨isFlag, taken⟩
    rw [flags] at isFlag taken
    split_ifs at isFlag taken with json verbose
    · subst json
      cases long
      exact ⟨.json, rfl, by simpa using taken⟩
    · subst verbose
      cases long
      exact ⟨.verbose, rfl, by simpa using taken⟩
    · exact absurd rfl isFlag

theorem exists_takeLong_iff (only : OnlySwitches step) {rest : List Char}
    (chars : word.toList = '-' :: '-' :: rest) {name : List Char} {value : Option (List Char)}
    (long : splitValue rest = .long name value) (goesOn : σ → Prop) :
    (∃ flag, longFlag topic name value = .ok flag ∧
      ∃ result, step state flag = .ok result ∧ goesOn result) ↔
      wordFlags word ≠ [] ∧
        ∃ result, (wordFlags word).foldlM step state = .ok result ∧ goesOn result := by
  constructor
  · rintro ⟨flag, known, result, taken, readOn⟩
    obtain ⟨isFlag, allTaken⟩ := (takeLong_eq_ok_iff only chars long).mp ⟨flag, known, taken⟩
    exact ⟨isFlag, result, allTaken, readOn⟩
  · rintro ⟨isFlag, result, allTaken, readOn⟩
    obtain ⟨flag, known, taken⟩ := (takeLong_eq_ok_iff only chars long).mpr ⟨isFlag, allTaken⟩
    exact ⟨flag, known, result, taken, readOn⟩

theorem takeLetters_eq_ok_iff (only : OnlySwitches step) :
    letters.foldlM (fun state letter => shortFlag topic letter >>= step state) state = .ok result ↔
      letters.all (· == 'v') = true ∧
        (letters.map fun _ => Flag.verbose).foldlM step state = .ok result := by
  induction letters generalizing state with
  | nil => simp
  | cons letter rest ih =>
      simp only [List.foldlM_cons, List.map_cons, bind_eq_ok_iff, ih, List.all_cons,
        Bool.and_eq_true, beq_iff_eq]
      constructor
      · rintro ⟨next, ⟨flag, known, taken⟩, verbose, restTaken⟩
        obtain ⟨isVerbose, rfl⟩ := shortFlag_switch known (only _ _ _ taken)
        exact ⟨⟨isVerbose, verbose⟩, next, taken, restTaken⟩
      · rintro ⟨⟨rfl, verbose⟩, next, taken, restTaken⟩
        exact ⟨next, ⟨.verbose, rfl, taken⟩, verbose, restTaken⟩

/-- Short flags are taken exactly if their word stands for flags, and as these. -/
theorem takeShort_eq_ok_iff (only : OnlySwitches step) (chars : word.toList = '-' :: letters)
    (nonempty : letters ≠ []) (single : letters.head? ≠ some '-') :
    letters.foldlM (fun state letter => shortFlag topic letter >>= step state) state = .ok result ↔
      wordFlags word ≠ [] ∧ (wordFlags word).foldlM step state = .ok result := by
  rw [takeLetters_eq_ok_iff only, wordFlags_short chars single]
  split_ifs with verbose
  · have isFlag : letters.map (fun _ => Flag.verbose) ≠ [] := by simpa using nonempty
    exact ⟨fun taken => ⟨isFlag, taken.2⟩, fun taken => ⟨verbose, taken.2⟩⟩
  · simp [verbose]

end

theorem raiseLetters_eq (switches : Switches) (letters : List Char) :
    raiseLetters switches letters =
      letters.foldlM (fun state letter => shortFlag .program letter >>= state.apply .program)
        switches := by
  induction letters generalizing switches with
  | nil => rfl
  | cons letter rest ih => simp only [raiseLetters, List.foldlM_cons, ih, bind_assoc]

theorem raiseAll_eq (progress : Progress α) (letters : List Char) :
    progress.raiseAll positionals letters =
      letters.foldlM (fun state letter =>
        shortFlag (.subcommand positionals.subcommand) letter >>= state.raise positionals)
        progress := by
  induction letters generalizing progress with
  | nil => rfl
  | cons letter rest ih => simp only [Progress.raiseAll, List.foldlM_cons, ih, bind_assoc]

theorem isNumberShaped_verbose (nonempty : letters ≠ [])
    (verbose : letters.all (· == 'v') = true) : isNumberShaped letters = false := by
  obtain ⟨letter, rest, rfl⟩ := List.exists_cons_of_ne_nil nonempty
  obtain rfl : letter = 'v' := by simpa using List.all_eq_true.mp verbose letter (by simp)
  rfl

theorem not_isValue_long {name : List Char} {value : Option (List Char)}
    (long : Word.ofText word = .long name value) : ¬ positionals.IsValue word := by
  rintro (plain | ⟨_, short, -, -⟩)
  · exact absurd (long.symm.trans plain) (by simp)
  · exact absurd (long.symm.trans short) (by simp)

/-- A word that can only be a value is no flag. -/
theorem wordFlags_of_isValue (isValue : positionals.IsValue word) :
    word ≠ "--" ∧ wordFlags word = [] := by
  rcases ofText_cases word with ⟨rfl, separator⟩ | ⟨_, _, _, -, -, long⟩ |
    ⟨letters, nonempty, single, chars, short⟩ | ⟨noDash, plain⟩
  · rcases isValue with plain | ⟨_, short, -, -⟩
    · exact absurd (separator.symm.trans plain) (by simp)
    · exact absurd (separator.symm.trans short) (by simp)
  · exact absurd isValue (not_isValue_long long)
  · rcases isValue with plain | ⟨_, shortToo, -, shaped⟩
    · exact absurd (short.symm.trans plain) (by simp)
    · obtain rfl : letters = _ := Word.short.inj (short.symm.trans shortToo)
      refine ⟨?_, ?_⟩
      · rintro rfl
        cases chars
        exact single rfl
      · rw [wordFlags_short chars single, if_neg]
        intro verbose
        rw [isNumberShaped_verbose nonempty verbose] at shaped
        cases shaped
  · refine ⟨?_, wordFlags_plain noDash⟩
    rintro rfl
    exact absurd plain (by simp [Word.ofText])

/-! ## Words before the subcommand -/

theorem ofName?_eq_some_iff {subcommand : Subcommand} :
    Subcommand.ofName? word = some subcommand ↔ word = subcommand.name := by
  constructor
  · intro named
    rw [Subcommand.ofName?] at named
    split_ifs at named with xyz rgb rgb16
    all_goals
      cases named
      assumption
  · rintro rfl
    cases subcommand with
    | xyz => rfl
    | rgb => rfl
    | rgb16 => rfl

theorem Subcommand.name_undashed (subcommand : Subcommand) :
    subcommand.name.toList.head? ≠ some '-' := by
  cases subcommand with
  | xyz => decide
  | rgb => decide
  | rgb16 => decide

theorem ne_name_of_dashed (chars : word.toList = '-' :: letters) (subcommand : Subcommand) :
    word ≠ subcommand.name := by
  rintro rfl
  exact subcommand.name_undashed (by rw [chars]; rfl)

/-- Before the subcommand a word is a flag, or it is the name of the subcommand. -/
theorem readFrom_cons_eq_ok_iff {switches : Switches} {rest : List String}
    {arguments : Arguments} :
    readFrom switches (word :: rest) = .ok arguments ↔
      (wordFlags word ≠ [] ∧ ∃ raised,
        (wordFlags word).foldlM (Switches.apply .program) switches = .ok raised ∧
          readFrom raised rest = .ok arguments) ∨
      ∃ subcommand : Subcommand, word = subcommand.name ∧
        readSubcommand switches rest subcommand = .ok arguments := by
  have only := onlySwitches_apply .program
  rcases ofText_cases word with ⟨rfl, separator⟩ | ⟨text, name, value, chars, split, long⟩ |
    ⟨letters, nonempty, single, chars, short⟩ | ⟨noDash, plain⟩
  · have notName : ∀ subcommand : Subcommand, "--" ≠ subcommand.name := ne_name_of_dashed rfl
    simp [readFrom, separator, wordFlags_separator, notName]
  · have notName := ne_name_of_dashed chars
    simp only [readFrom, long, notName, false_and, exists_false, or_false, bind_eq_ok_iff]
    exact exists_takeLong_iff only chars split _
  · have notName := ne_name_of_dashed chars
    simp only [readFrom, short, notName, false_and, exists_false, or_false, bind_eq_ok_iff,
      raiseLetters_eq, takeShort_eq_ok_iff only chars nonempty single, and_assoc, exists_and_left]
  · have noFlag := wordFlags_plain noDash
    simp only [readFrom, plain, noFlag, ne_eq, not_true_eq_false, false_and, false_or]
    cases named : Subcommand.ofName? word with
    | none =>
        have notName : ∀ subcommand : Subcommand, word ≠ subcommand.name := by
          intro subcommand isName
          rw [ofName?_eq_some_iff.mpr isName] at named
          cases named
        simp only [notName, false_and, exists_false, iff_false]
        split_ifs <;> simp
    | some subcommand =>
        have isName := ofName?_eq_some_iff.mp named
        constructor
        · intro read
          exact ⟨subcommand, isName, read⟩
        · rintro ⟨other, isOther, read⟩
          obtain rfl := Option.some.inj (named.symm.trans (ofName?_eq_some_iff.mpr isOther))
          exact read

/-! ## Words behind the subcommand -/

namespace Progress

theorem flush_eq_ok_iff {progress flushed : Progress α} :
    progress.flush positionals = .ok flushed ↔
      ∃ values, progress.waiting.toList.mapM positionals.convert = .ok values ∧
        flushed = ⟨progress.switches, progress.converted ++ values, none⟩ := by
  obtain ⟨switches, converted, waiting⟩ := progress
  cases waiting with
  | none => simp [flush, pure, Except.pure, eq_comm]
  | some text =>
      cases given : positionals.convert text with
      | error reason => simp [flush, given, bind, Except.bind]
      | ok value => simp [flush, given, bind, Except.bind, pure, Except.pure, eq_comm]

/-- Reading goes on from here to an end where these flags are applied and these texts
are converted.  A text that waits is the first of them, so it makes no difference
whether the next word converts it or a later one. -/
structure Completes (positionals : Positionals α) (progress : Progress α) (flags : List Flag)
    (texts : List String) (final : Progress α) : Prop where
  switches : flags.foldlM (Switches.apply (.subcommand positionals.subcommand))
    progress.switches = .ok final.switches
  settled : final.waiting = none
  values : ∃ values, (progress.waiting.toList ++ texts).mapM positionals.convert = .ok values ∧
    final.converted = progress.converted ++ values

variable {progress final : Progress α} {flags : List Flag} {texts : List String}

theorem Completes.length (completes : progress.Completes positionals flags texts final) :
    final.converted.length = progress.count + texts.length := by
  obtain ⟨values, given, converted⟩ := completes.values
  have valuesLength := length_of_mapM given
  have waitingLength : progress.waiting.toList.length =
      if progress.waiting.isSome then 1 else 0 := by
    cases progress.waiting <;> rfl
  rw [List.length_append, waitingLength] at valuesLength
  rw [converted, List.length_append, count, valuesLength]
  omega

theorem completes_nil_iff :
    progress.Completes positionals [] [] final ↔ progress.flush positionals = .ok final := by
  rw [flush_eq_ok_iff]
  constructor
  · rintro ⟨switches, settled, values, given, converted⟩
    rw [List.append_nil] at given
    refine ⟨values, given, ?_⟩
    obtain ⟨_, _, _⟩ := final
    cases switches
    cases settled
    cases converted
    rfl
  · rintro ⟨values, given, rfl⟩
    exact ⟨rfl, rfl, values, by rwa [List.append_nil], rfl⟩

theorem accept_eq_ok_iff {accepted : Progress α} :
    progress.accept positionals word = .ok accepted ↔
      progress.count < 3 ∧ ∃ values,
        progress.waiting.toList.mapM positionals.convert = .ok values ∧
          accepted = ⟨progress.switches, progress.converted ++ values, some word⟩ := by
  rw [accept]
  split_ifs with room
  · simp only [bind_eq_ok_iff, flush_eq_ok_iff, pure, Except.pure, Except.ok.injEq, room, true_and]
    constructor
    · rintro ⟨_, ⟨values, given, rfl⟩, rfl⟩
      exact ⟨values, given, rfl⟩
    · rintro ⟨values, given, rfl⟩
      exact ⟨_, ⟨values, given, rfl⟩, rfl⟩
  · simp [room]

theorem raise_eq_ok_iff {raised : Progress α} {flag : Flag} :
    progress.raise positionals flag = .ok raised ↔ ∃ values switches,
      progress.waiting.toList.mapM positionals.convert = .ok values ∧
      progress.switches.apply (.subcommand positionals.subcommand) flag = .ok switches ∧
      raised = ⟨switches, progress.converted ++ values, none⟩ := by
  simp only [raise, bind_eq_ok_iff, flush_eq_ok_iff, pure, Except.pure, Except.ok.injEq]
  constructor
  · rintro ⟨_, ⟨values, given, rfl⟩, switches, applied, rfl⟩
    exact ⟨values, switches, given, applied, rfl⟩
  · rintro ⟨values, switches, given, applied, rfl⟩
    exact ⟨_, ⟨values, given, rfl⟩, switches, applied, rfl⟩

/-- To take in a text is to have one more of them, as long as there is room. -/
theorem completes_text_iff (room : final.converted.length ≤ 3) :
    progress.Completes positionals flags (word :: texts) final ↔
      ∃ accepted, progress.accept positionals word = .ok accepted ∧
        accepted.Completes positionals flags texts final := by
  simp only [accept_eq_ok_iff]
  constructor
  · intro completes
    have length := completes.length
    rw [List.length_cons] at length
    obtain ⟨switches, settled, values, given, converted⟩ := completes
    obtain ⟨flushed, others, flushedGiven, othersGiven, rfl⟩ := mapM_append_eq_ok_iff.mp given
    refine ⟨_, ⟨by omega, flushed, flushedGiven, rfl⟩, switches, settled, others, othersGiven, ?_⟩
    rw [converted, List.append_assoc]
  · rintro ⟨_, ⟨-, flushed, flushedGiven, rfl⟩, switches, settled, others, othersGiven, converted⟩
    refine ⟨switches, settled, flushed ++ others, ?_, ?_⟩
    · exact mapM_append_eq_ok_iff.mpr ⟨flushed, others, flushedGiven, othersGiven, rfl⟩
    · rw [converted, List.append_assoc]

theorem completes_flag_iff {flag : Flag} :
    progress.Completes positionals (flag :: flags) texts final ↔
      ∃ raised, progress.raise positionals flag = .ok raised ∧
        raised.Completes positionals flags texts final := by
  simp only [raise_eq_ok_iff]
  constructor
  · rintro ⟨switches, settled, values, given, converted⟩
    rw [List.foldlM_cons] at switches
    obtain ⟨raised, applied, others⟩ := bind_eq_ok_iff.mp switches
    obtain ⟨flushed, rest, flushedGiven, restGiven, rfl⟩ := mapM_append_eq_ok_iff.mp given
    refine ⟨_, ⟨flushed, raised, flushedGiven, applied, rfl⟩, others, settled, rest, restGiven, ?_⟩
    rw [converted, List.append_assoc]
  · rintro ⟨_, ⟨flushed, raised, flushedGiven, applied, rfl⟩, others, settled, rest, restGiven,
      converted⟩
    refine ⟨?_, settled, flushed ++ rest, ?_, ?_⟩
    · rw [List.foldlM_cons]
      exact bind_eq_ok_iff.mpr ⟨raised, applied, others⟩
    · exact mapM_append_eq_ok_iff.mpr ⟨flushed, rest, flushedGiven, restGiven, rfl⟩
    · rw [converted, List.append_assoc]

theorem completes_flags_iff {taken : List Flag} :
    progress.Completes positionals (taken ++ flags) texts final ↔
      ∃ raised, taken.foldlM (raise positionals) progress = .ok raised ∧
        raised.Completes positionals flags texts final := by
  induction taken generalizing progress with
  | nil => simp [pure, Except.pure]
  | cons flag rest ih =>
      simp only [List.cons_append, completes_flag_iff, ih]
      exact (exists_foldlM_cons_iff _).symm

theorem completes_texts_iff (room : final.converted.length ≤ 3) :
    progress.Completes positionals [] texts final ↔
      ∃ filled, texts.foldlM (accept positionals) progress = .ok filled ∧
        filled.flush positionals = .ok final := by
  induction texts generalizing progress with
  | nil => simp [completes_nil_iff, pure, Except.pure]
  | cons text rest ih =>
      simp only [completes_text_iff room, ih]
      exact (exists_foldlM_cons_iff _).symm

/-- Behind the subcommand a word is the separator, a flag or a value.  With three values
given, even a word that looks like a number is read as flags. -/
theorem readAll_cons_eq_ok_iff {rest : List String} :
    progress.readAll positionals (word :: rest) = .ok final ↔
      (word = "--" ∧ ∃ filled, rest.foldlM (accept positionals) progress = .ok filled ∧
        filled.flush positionals = .ok final) ∨
      (wordFlags word ≠ [] ∧ ∃ raised,
        (wordFlags word).foldlM (raise positionals) progress = .ok raised ∧
          raised.readAll positionals rest = .ok final) ∨
      (positionals.IsValue word ∧ ∃ accepted,
        progress.accept positionals word = .ok accepted ∧
          accepted.readAll positionals rest = .ok final) := by
  have only := onlySwitches_raise positionals
  rcases ofText_cases word with ⟨rfl, separator⟩ | ⟨text, name, value, chars, split, long⟩ |
    ⟨letters, nonempty, single, chars, short⟩ | ⟨noDash, plain⟩
  · have notValue : ¬ positionals.IsValue "--" := fun isValue =>
      (wordFlags_of_isValue isValue).1 rfl
    simp only [readAll, separator, wordFlags_separator, notValue, bind_eq_ok_iff, true_and, ne_eq,
      not_true_eq_false, false_and, or_false]
  · have notSeparator : word ≠ "--" := by
      rintro rfl
      cases long
    simp only [readAll, long, not_isValue_long long, notSeparator, false_and, or_false, false_or,
      bind_eq_ok_iff]
    exact exists_takeLong_iff only chars split _
  · have notSeparator : word ≠ "--" := by
      rintro rfl
      cases short
    simp only [readAll, short, notSeparator, false_and, false_or]
    split_ifs with asValue
    · simp only [Bool.and_eq_true, decide_eq_true_eq] at asValue
      have isValue : positionals.IsValue word :=
        Or.inr ⟨letters, short, asValue.1.1, asValue.1.2⟩
      simp only [isValue, (wordFlags_of_isValue isValue).2, bind_eq_ok_iff, true_and, ne_eq,
        not_true_eq_false, false_and, false_or]
    · have noRoom : ¬ (positionals.IsValue word ∧ ∃ accepted,
          progress.accept positionals word = .ok accepted ∧
            accepted.readAll positionals rest = .ok final) := by
        rintro ⟨plain | ⟨_, shortToo, allowed, shaped⟩, accepted, given, -⟩
        · exact absurd (short.symm.trans plain) (by simp)
        · obtain rfl := Word.short.inj (short.symm.trans shortToo)
          have room := (accept_eq_ok_iff.mp given).1
          simp [allowed, shaped, room] at asValue
      simp only [noRoom, or_false, bind_eq_ok_iff, raiseAll_eq,
        takeShort_eq_ok_iff only chars nonempty single, and_assoc, exists_and_left]
  · have notSeparator : word ≠ "--" := by
      rintro rfl
      cases plain
    have isValue : positionals.IsValue word := Or.inl plain
    simp only [readAll, plain, wordFlags_plain noDash, isValue, notSeparator, false_and, false_or,
      bind_eq_ok_iff, true_and, ne_eq, not_true_eq_false]

end Progress

/-- The words before a separator are flags or values. -/
def Positionals.Fits (positionals : Positionals α) : List String → Prop
  | [] => True
  | word :: rest =>
      word = "--" ∨ (wordFlags word ≠ [] ∨ positionals.IsValue word) ∧ positionals.Fits rest

/-- What reading does to words that leave at most three values. -/
theorem Progress.readAll_eq_ok_iff {progress final : Progress α} {words : List String}
    (room : final.converted.length ≤ 3) :
    progress.readAll positionals words = .ok final ↔ positionals.Fits words ∧
      progress.Completes positionals (flagsOf words) (valuesOf words) final := by
  induction words generalizing progress with
  | nil =>
      rw [flagsOf, valuesOf, Progress.completes_nil_iff, Progress.readAll, Positionals.Fits,
        true_and]
  | cons word rest ih =>
      rw [Progress.readAll_cons_eq_ok_iff, Positionals.Fits]
      by_cases separator : word = "--"
      · subst separator
        have notValue : ¬ positionals.IsValue "--" := fun isValue =>
          (wordFlags_of_isValue isValue).1 rfl
        have flags : flagsOf ("--" :: rest) = [] := if_pos rfl
        have values : valuesOf ("--" :: rest) = rest := if_pos rfl
        simp only [flags, values, Progress.completes_texts_iff room, wordFlags_separator, notValue,
          ne_eq, not_true_eq_false, false_and, or_false, true_and]
      · by_cases isFlag : wordFlags word = []
        · rw [flagsOf_cons separator, valuesOf_value separator isFlag, isFlag, List.nil_append,
            Progress.completes_text_iff room]
          simp only [separator, ih, false_and, ne_eq, not_true_eq_false, false_or, and_assoc,
            exists_and_left, and_left_comm]
        · have notValue : ¬ positionals.IsValue word := fun isValue =>
            isFlag (wordFlags_of_isValue isValue).2
          rw [flagsOf_cons separator, valuesOf_flag isFlag, Progress.completes_flags_iff]
          simp only [separator, isFlag, notValue, ih, false_and, ne_eq, not_false_eq_true,
            false_or, or_false, exists_and_left, and_left_comm, true_and]

/-- The words fit and their values make the command. -/
def Positionals.Reads (positionals : Positionals α) (words : List String) (command : Command) :
    Prop :=
  positionals.Fits words ∧ ∃ values : Triple α,
    (valuesOf words).mapM positionals.convert = .ok values.toList ∧
      command = positionals.command values

theorem readValues_eq_ok_iff (positionals : Positionals α) {before : Switches}
    {words : List String} {arguments : Arguments} :
    readValues positionals before words = .ok arguments ↔ ∃ after command,
      (flagsOf words).foldlM (Switches.apply (.subcommand positionals.subcommand)) .none =
        .ok after ∧
      positionals.Reads words command ∧
      arguments = ⟨(before.merge after).json, (before.merge after).verbose, command⟩ := by
  rw [readValues, bind_eq_ok_iff]
  constructor
  · rintro ⟨final, read, made⟩
    split at made
    case h_1 first second third three =>
        cases made
        have room : final.converted.length ≤ 3 := by simp [three]
        obtain ⟨fits, switches, -, values, given, converted⟩ :=
          (Progress.readAll_eq_ok_iff room).mp read
        rw [three] at converted
        obtain rfl : [first, second, third] = values := converted
        exact ⟨final.switches, _, switches, ⟨fits, ⟨first, second, third⟩, given, rfl⟩, rfl⟩
    case h_2 => cases made
  · rintro ⟨after, command, applied, ⟨fits, values, given, rfl⟩, rfl⟩
    refine ⟨⟨after, values.toList, none⟩, ?_, rfl⟩
    have room : values.toList.length ≤ 3 := le_rfl
    exact (Progress.readAll_eq_ok_iff room).mpr ⟨fits, applied, rfl, values.toList, given, rfl⟩

/-- The values of a colour with 16-bit levels on the command line. -/
def wideColourValues : Positionals UInt16 := ⟨.rgb16, false, readLevel, .wideColour⟩

/-- The words behind the subcommand fit it, and their values make the command. -/
def Subcommand.Reads : Subcommand → List String → Command → Prop
  | .xyz => pointValues.Reads
  | .rgb => colourValues.Reads
  | .rgb16 => wideColourValues.Reads

theorem readSubcommand_eq_ok_iff {subcommand : Subcommand} {before : Switches}
    {words : List String} {arguments : Arguments} :
    readSubcommand before words subcommand = .ok arguments ↔ ∃ after command,
      (flagsOf words).foldlM (Switches.apply (.subcommand subcommand)) .none = .ok after ∧
      subcommand.Reads words command ∧
      arguments = ⟨(before.merge after).json, (before.merge after).verbose, command⟩ := by
  cases subcommand with
  | xyz => exact readValues_eq_ok_iff pointValues
  | rgb => exact readValues_eq_ok_iff colourValues
  | rgb16 => exact readValues_eq_ok_iff wideColourValues

/-- No value of a subcommand is the name of one. -/
theorem Subcommand.Reads.name_not_mem {subcommand : Subcommand} {words : List String}
    {command : Command} (reads : subcommand.Reads words command) (other : Subcommand) :
    other.name ∉ valuesOf words := by
  intro mem
  cases subcommand with
  | xyz =>
      obtain ⟨-, _, given, -⟩ := reads
      obtain ⟨_, converted⟩ := exists_of_mem_mapM given mem
      cases other <;> cases converted
  | rgb =>
      obtain ⟨-, _, given, -⟩ := reads
      obtain ⟨_, converted⟩ := exists_of_mem_mapM given mem
      cases other <;> cases converted
  | rgb16 =>
      obtain ⟨-, _, given, -⟩ := reads
      obtain ⟨_, converted⟩ := exists_of_mem_mapM given mem
      cases other <;> cases converted

/-! ## All words -/

theorem Subcommand.name_no_flag (subcommand : Subcommand) :
    subcommand.name ≠ "--" ∧ wordFlags subcommand.name = [] := by
  refine ⟨?_, wordFlags_plain (Or.inr subcommand.name_undashed)⟩
  cases subcommand with
  | xyz => decide
  | rgb => decide
  | rgb16 => decide

theorem name_mem_valuesOf (before after : List String) (subcommand : Subcommand) :
    subcommand.name ∈ valuesOf (before ++ subcommand.name :: after) := by
  obtain ⟨notSeparator, noFlag⟩ := subcommand.name_no_flag
  induction before with
  | nil =>
      rw [List.nil_append, valuesOf_value notSeparator noFlag]
      exact List.mem_cons_self
  | cons word rest ih =>
      rw [List.cons_append, valuesOf]
      split_ifs with separator isNone
      · exact List.mem_append_right _ List.mem_cons_self
      · exact List.mem_cons_of_mem _ ih
      · exact ih

section

variable {switches : Switches} {before after : List String} {subcommand : Subcommand}
  {arguments : Arguments}

/-- Only flags stand before the name of the subcommand: an earlier subcommand would have to
take this name for a value. -/
theorem readFrom_eq_ok_iff :
    readFrom switches (before ++ subcommand.name :: after) = .ok arguments ↔
      (∀ word ∈ before, wordFlags word ≠ []) ∧ ∃ raised,
        (flagsOf before).foldlM (Switches.apply .program) switches = .ok raised ∧
        readSubcommand raised after subcommand = .ok arguments := by
  induction before generalizing switches with
  | nil =>
      have name : readFrom switches (subcommand.name :: after) =
          readSubcommand switches after subcommand := by
        cases subcommand with
        | xyz => rfl
        | rgb => rfl
        | rgb16 => rfl
      simp [name, flagsOf, pure, Except.pure]
  | cons word rest ih =>
      rw [List.cons_append, readFrom_cons_eq_ok_iff, List.forall_mem_cons]
      constructor
      · rintro (⟨isFlag, next, taken, read⟩ | ⟨other, rfl, read⟩)
        · obtain ⟨restFlags, raised, restTaken, readAfter⟩ := ih.mp read
          refine ⟨⟨isFlag, restFlags⟩, raised, ?_, readAfter⟩
          rw [flagsOf_cons (ne_separator_of_wordFlags isFlag), List.foldlM_append]
          exact bind_eq_ok_iff.mpr ⟨next, taken, restTaken⟩
        · obtain ⟨_, _, -, reads, -⟩ := readSubcommand_eq_ok_iff.mp read
          exact absurd (name_mem_valuesOf rest after subcommand) (reads.name_not_mem subcommand)
      · rintro ⟨⟨isFlag, restFlags⟩, raised, taken, readAfter⟩
        rw [flagsOf_cons (ne_separator_of_wordFlags isFlag), List.foldlM_append] at taken
        obtain ⟨next, firstTaken, restTaken⟩ := bind_eq_ok_iff.mp taken
        exact Or.inl ⟨isFlag, next, firstTaken, ih.mpr ⟨restFlags, raised, restTaken, readAfter⟩⟩

end

/-- An accepted command line names a subcommand. -/
theorem exists_subcommand_of_accepted {switches : Switches} {words : List String}
    {arguments : Arguments} (accepted : readFrom switches words = .ok arguments) :
    ∃ before after, ∃ subcommand : Subcommand, words = before ++ subcommand.name :: after := by
  induction words generalizing switches with
  | nil => cases accepted
  | cons word rest ih =>
      rcases readFrom_cons_eq_ok_iff.mp accepted with ⟨-, raised, -, read⟩ | ⟨subcommand, rfl, -⟩
      · obtain ⟨before, after, subcommand, rfl⟩ := ih read
        exact ⟨word :: before, after, subcommand, rfl⟩
      · exact ⟨[], rest, subcommand, rfl⟩

/-! ## Flags together -/

theorem areSwitches_flagsOf (words : List String) : ∀ flag ∈ flagsOf words, flag.IsSwitch := by
  induction words with
  | nil => simp [flagsOf]
  | cons word rest ih =>
      intro flag mem
      rw [flagsOf] at mem
      split_ifs at mem with separator
      · cases mem
      · rcases List.mem_append.mp mem with inWord | inRest
        · exact isSwitch_of_mem_wordFlags inWord
        · exact ih flag inRest

/-- Flags can be applied unless one of them asks for JSON again, and JSON is then asked
for if one of them does so. -/
theorem applyAll_eq_ok_iff {topic : Topic} {flags : List Flag} {switches result : Switches}
    (areSwitches : ∀ flag ∈ flags, flag.IsSwitch) (atMost : switches.verbose ≤ 255) :
    flags.foldlM (Switches.apply topic) switches = .ok result ↔
      flags.count .json + (if switches.json then 1 else 0) ≤ 1 ∧
        result = ⟨switches.json || flags.contains .json,
          min 255 (switches.verbose + flags.count .verbose)⟩ := by
  induction flags generalizing switches with
  | nil =>
      obtain ⟨json, verbose⟩ := switches
      cases json <;> simp [pure, Except.pure, eq_comm, Nat.min_eq_right atMost]
  | cons flag rest ih =>
      obtain ⟨isSwitch, restSwitches⟩ := List.forall_mem_cons.mp areSwitches
      obtain ⟨json, verbose⟩ := switches
      rw [List.foldlM_cons, bind_eq_ok_iff]
      rcases isSwitch with rfl | rfl
      · cases json with
        | false =>
            have others := @ih ⟨true, verbose⟩ restSwitches atMost
            simp only [Switches.apply, Bool.false_eq_true, if_false, Except.ok.injEq,
              exists_eq_left', others]
            simp
        | true => simp [Switches.apply]
      · have others := @ih ⟨json, min 255 (verbose + 1)⟩ restSwitches
          (Nat.min_le_left _ _)
        have total : min 255 (min 255 (verbose + 1) + rest.count .verbose) =
            min 255 (verbose + (rest.count .verbose + 1)) := by omega
        simp only [Switches.apply, Except.ok.injEq, exists_eq_left', others, total]
        simp

/-- The flags at one place together. -/
def switchesOf (words : List String) : Switches :=
  ⟨(flagsOf words).contains .json, min 255 ((flagsOf words).count .verbose)⟩

theorem applyAll_flagsOf {topic : Topic} {words : List String} {result : Switches} :
    (flagsOf words).foldlM (Switches.apply topic) .none = .ok result ↔
      (flagsOf words).count .json ≤ 1 ∧ result = switchesOf words := by
  rw [applyAll_eq_ok_iff (areSwitches_flagsOf words) (Nat.zero_le _)]
  simp [Switches.none, switchesOf]

/-- A command line is accepted if flags are all that stands before the subcommand, JSON
is not asked for twice at one place, and the words behind the subcommand make a command. -/
theorem readArguments_eq_ok_iff {before after : List String} {subcommand : Subcommand}
    {arguments : Arguments} :
    readArguments (before ++ subcommand.name :: after) = .ok arguments ↔
      (∀ word ∈ before, wordFlags word ≠ []) ∧
      (flagsOf before).count .json ≤ 1 ∧ (flagsOf after).count .json ≤ 1 ∧
      ∃ command, subcommand.Reads after command ∧
        arguments = ⟨((switchesOf before).merge (switchesOf after)).json,
          ((switchesOf before).merge (switchesOf after)).verbose, command⟩ := by
  simp only [readArguments, readFrom_eq_ok_iff, readSubcommand_eq_ok_iff, applyAll_flagsOf]
  constructor
  · rintro ⟨areFlags, _, ⟨onceBefore, rfl⟩, _, command, ⟨onceAfter, rfl⟩, reads, rfl⟩
    exact ⟨areFlags, onceBefore, onceAfter, command, reads, rfl⟩
  · rintro ⟨areFlags, onceBefore, onceAfter, command, reads, rfl⟩
    exact ⟨areFlags, _, ⟨onceBefore, rfl⟩, _, command, ⟨onceAfter, rfl⟩, reads, rfl⟩

end PointRecords.CommandLine
