import PointRecords.CommandLine.Process

/-!
# Three values after a subcommand

Words that can only be values are converted in turn, and the first that cannot be
converted is what the command line is refused for.  After a separator every word
is a value; without one, words with no dash are values, and so are negative
numbers where these are allowed.
-/

namespace PointRecords.CommandLine

variable {α : Type}

def Positionals.convertAt (positionals : Positionals α) (position : Nat) (text : String) :
    Except Refusal α :=
  (positionals.convert text).mapError
    (.invalidValue text (positionals.subcommand.valueNames.getD position ""))

theorem Positionals.convertAt_of_ok {positionals : Positionals α} (position : Nat)
    {text : String} {value : α} (given : positionals.convert text = .ok value) :
    positionals.convertAt position text = .ok value := by
  rw [Positionals.convertAt, given]
  rfl

theorem Positionals.convertAt_of_error {positionals : Positionals α} (position : Nat)
    {text reason : String} (failed : positionals.convert text = .error reason) :
    positionals.convertAt position text = .error
      (.invalidValue text (positionals.subcommand.valueNames.getD position "") reason) := by
  rw [Positionals.convertAt, failed]
  rfl

/-- What three values make, converted in turn. -/
def Positionals.readThree (positionals : Positionals α) (before : Switches)
    (texts : Triple String) : Except Refusal Arguments := do
  let first ← positionals.convertAt 0 texts.first
  let second ← positionals.convertAt 1 texts.second
  let third ← positionals.convertAt 2 texts.third
  return ⟨before.json, before.verbose, positionals.command ⟨first, second, third⟩⟩

/-- Three values that can be converted make the command. -/
theorem Positionals.readThree_of_convert {positionals : Positionals α} (before : Switches)
    {texts : Triple String} {values : Triple α}
    (convert : ∀ place, positionals.convert (texts.get place) = .ok (values.get place)) :
    positionals.readThree before texts =
      .ok ⟨before.json, before.verbose, positionals.command values⟩ := by
  have first := Positionals.convertAt_of_ok 0 (convert .first)
  have second := Positionals.convertAt_of_ok 1 (convert .second)
  have third := Positionals.convertAt_of_ok 2 (convert .third)
  simp only [Triple.get] at first second third
  rw [Positionals.readThree, first, second, third]
  rfl

/-- A value that cannot be converted is a mistake of usage, this one or one before
it. -/
theorem Positionals.readThree_of_error {positionals : Positionals α} (before : Switches)
    {texts : Triple String} {place : Place} {reason : String}
    (failed : positionals.convert (texts.get place) = .error reason) :
    ∃ value name why, positionals.readThree before texts =
      .error (.invalidValue value name why) := by
  rw [Positionals.readThree]
  cases first : positionals.convert texts.first with
  | error why =>
      rw [Positionals.convertAt_of_error 0 first]
      exact ⟨_, _, _, rfl⟩
  | ok firstValue =>
      rw [Positionals.convertAt_of_ok 0 first]
      cases second : positionals.convert texts.second with
      | error why =>
          rw [Positionals.convertAt_of_error 1 second]
          exact ⟨_, _, _, rfl⟩
      | ok secondValue =>
          rw [Positionals.convertAt_of_ok 1 second]
          cases place with
          | first => exact absurd (failed.symm.trans first) (by simp)
          | second => exact absurd (failed.symm.trans second) (by simp)
          | third =>
              have third : positionals.convert texts.third = .error reason := failed
              rw [Positionals.convertAt_of_error 2 third]
              exact ⟨_, _, _, rfl⟩

/-- The word stands for a value wherever one can stand. -/
def Positionals.IsValue (positionals : Positionals α) (word : String) : Prop :=
  Word.ofText word = .plain ∨
    ∃ letters, Word.ofText word = .short letters ∧ positionals.allowsNegative = true ∧
      isNumberShaped letters = true

namespace Progress

variable {positionals : Positionals α}

theorem flush_waiting (switches : Switches) (converted : List α) (text : String) :
    flush positionals ⟨switches, converted, some text⟩ =
      (positionals.convertAt converted.length text).map
        fun value => ⟨switches, converted ++ [value], none⟩ := by
  simp only [flush, Positionals.convertAt]
  cases positionals.convert text with
  | error reason => rfl
  | ok value => rfl

theorem accept_first (text : String) :
    accept positionals ⟨.none, [], none⟩ text = .ok ⟨.none, [], some text⟩ :=
  rfl

theorem accept_waiting {converted : List α} (room : converted.length < 2) (waiting text : String) :
    accept positionals ⟨.none, converted, some waiting⟩ text =
      (positionals.convertAt converted.length waiting).map
        fun value => ⟨.none, converted ++ [value], some text⟩ := by
  have room : converted.length + 1 < 3 := by omega
  simp only [accept, count, Option.isSome_some, if_true, room, flush_waiting]
  cases positionals.convertAt converted.length waiting with
  | error refusal => rfl
  | ok value => rfl

theorem readAll_value (progress : Progress α) (room : progress.count < 3) {word : String}
    (isValue : positionals.IsValue word) (rest : List String) :
    progress.readAll positionals (word :: rest) =
      progress.accept positionals word >>= fun accepted => accepted.readAll positionals rest := by
  rcases isValue with plain | ⟨letters, short, allowed, shaped⟩
  · simp only [readAll, plain]
  · simp only [readAll, short, allowed, shaped, room, decide_true, Bool.and_true, if_true]

end Progress

/-- Three values taken in and flushed have been converted in turn. -/
theorem accept_three (positionals : Positionals α) (first second third : String) :
    (do
      let waitsFirst ← Progress.accept positionals ⟨.none, [], none⟩ first
      let waitsSecond ← waitsFirst.accept positionals second
      let waitsThird ← waitsSecond.accept positionals third
      waitsThird.flush positionals) =
    (do
      let firstValue ← positionals.convertAt 0 first
      let secondValue ← positionals.convertAt 1 second
      let thirdValue ← positionals.convertAt 2 third
      return ⟨.none, [firstValue, secondValue, thirdValue], none⟩) := by
  rw [Progress.accept_first]
  change Progress.accept positionals ⟨.none, [], some first⟩ second >>= _ = _
  rw [Progress.accept_waiting (by simp)]
  cases positionals.convertAt 0 first with
  | error refusal => rfl
  | ok firstValue =>
      change Progress.accept positionals ⟨.none, [firstValue], some second⟩ third >>= _ =
        positionals.convertAt 1 second >>= _
      rw [Progress.accept_waiting (by simp)]
      cases positionals.convertAt 1 second with
      | error refusal => rfl
      | ok secondValue =>
          change Progress.flush positionals ⟨.none, [firstValue, secondValue], some third⟩ =
            positionals.convertAt 2 third >>= _
          rw [Progress.flush_waiting]
          cases positionals.convertAt 2 third with
          | error refusal => rfl
          | ok thirdValue => rfl

/-- Once the words have become three values, these make the command. -/
theorem readValues_of_readAll {positionals : Positionals α} {before : Switches}
    {words : List String} {texts : Triple String}
    (read : Progress.readAll positionals ⟨.none, [], none⟩ words =
      (do
        let firstValue ← positionals.convertAt 0 texts.first
        let secondValue ← positionals.convertAt 1 texts.second
        let thirdValue ← positionals.convertAt 2 texts.third
        return ⟨.none, [firstValue, secondValue, thirdValue], none⟩)) :
    readValues positionals before words = positionals.readThree before texts := by
  rw [readValues, read, Positionals.readThree]
  cases positionals.convertAt 0 texts.first with
  | error refusal => rfl
  | ok firstValue =>
      cases positionals.convertAt 1 texts.second with
      | error refusal => rfl
      | ok secondValue =>
          cases positionals.convertAt 2 texts.third with
          | error refusal => rfl
          | ok thirdValue =>
              simp [bind, Except.bind, pure, Except.pure, Switches.merge, Switches.none]

theorem readValues_values {positionals : Positionals α} {before : Switches}
    {texts : Triple String} (firstValue : positionals.IsValue texts.first)
    (secondValue : positionals.IsValue texts.second)
    (thirdValue : positionals.IsValue texts.third) :
    readValues positionals before texts.toList = positionals.readThree before texts := by
  apply readValues_of_readAll
  rw [← accept_three, Triple.toList, Progress.readAll_value _ (by simp [Progress.count]) firstValue,
    Progress.accept_first]
  change Progress.readAll positionals ⟨.none, [], some texts.first⟩ [texts.second, texts.third] =
    Progress.accept positionals ⟨.none, [], some texts.first⟩ texts.second >>= _
  rw [Progress.readAll_value _ (by simp [Progress.count]) secondValue,
    Progress.accept_waiting (by simp)]
  cases positionals.convertAt 0 texts.first with
  | error refusal => rfl
  | ok value =>
      change Progress.readAll positionals ⟨.none, [value], some texts.second⟩ [texts.third] =
        Progress.accept positionals ⟨.none, [value], some texts.second⟩ texts.third >>= _
      rw [Progress.readAll_value _ (by simp [Progress.count]) thirdValue]
      rfl

/-- Three values of the right kind make the command. -/
theorem readValues_of_convert {positionals : Positionals α} (before : Switches)
    {texts : Triple String} {values : Triple α}
    (isValue : ∀ place, positionals.IsValue (texts.get place))
    (convert : ∀ place, positionals.convert (texts.get place) = .ok (values.get place)) :
    readValues positionals before texts.toList =
      .ok ⟨before.json, before.verbose, positionals.command values⟩ := by
  rw [readValues_values (isValue .first) (isValue .second) (isValue .third),
    Positionals.readThree_of_convert _ convert]

theorem readValues_separated (positionals : Positionals α) (before : Switches)
    (texts : Triple String) :
    readValues positionals before ("--" :: texts.toList) =
      positionals.readThree before texts := by
  apply readValues_of_readAll
  rw [← accept_three]
  have separator : Word.ofText "--" = .separator := rfl
  simp only [Progress.readAll, separator, Triple.toList, List.foldlM_cons, List.foldlM_nil,
    bind_assoc, pure_bind]

theorem readArguments_subcommand (subcommand : Subcommand) (rest : List String) :
    readArguments (subcommand.name :: rest) = readSubcommand .none rest subcommand := by
  cases subcommand with
  | xyz => rfl
  | rgb => rfl
  | rgb16 => rfl

end PointRecords.CommandLine
