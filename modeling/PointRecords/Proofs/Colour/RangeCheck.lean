import PointRecords.Proofs.CommandLine.Components
import PointRecords.Proofs.CommandLine.Outcome
import PointRecords.Proofs.CommandLine.PlainPoint
import PointRecords.Script.Construction

/-!
# The range of a channel is checked everywhere alike

Three integers can be typed, given to a class by a script, or checked on their own.
Each way has its checks and its errors, but all of them check one channel after the
other, let the same integers through, and report the first other one in the same
words, also if it is wider than 64 bits.
-/

namespace PointRecords

open Decimal CommandLine

def InRange (number : Int) : Prop := 0 ≤ number ∧ number ≤ 255

instance (number : Int) : Decidable (InRange number) :=
  inferInstanceAs (Decidable (_ ∧ _))

/-- The channels of a colour as integers. -/
def Colour.levels (colour : Colour) : Triple Int :=
  colour.toTriple.map fun level => (level.toNat : Int)

/-- The first of three integers, from red to blue, that lies outside the range. -/
inductive FirstOutside : Triple Int → RangeError → Prop
  | red {red green blue : Int} (outside : ¬ InRange red) :
      FirstOutside ⟨red, green, blue⟩ ⟨.red, red⟩
  | green {red green blue : Int} (inside : InRange red) (outside : ¬ InRange green) :
      FirstOutside ⟨red, green, blue⟩ ⟨.green, green⟩
  | blue {red green blue : Int} (insideRed : InRange red) (insideGreen : InRange green)
      (outside : ¬ InRange blue) : FirstOutside ⟨red, green, blue⟩ ⟨.blue, blue⟩

theorem FirstOutside.exists_place {numbers : Triple Int} {error : RangeError}
    (outside : FirstOutside numbers error) : ∃ place, numbers.get place = error.value := by
  cases outside with
  | red _ => exact ⟨.first, rfl⟩
  | green _ _ => exact ⟨.second, rfl⟩
  | blue _ _ _ => exact ⟨.third, rfl⟩

theorem FirstOutside.unique {numbers : Triple Int} {first second : RangeError}
    (firstOutside : FirstOutside numbers first) (secondOutside : FirstOutside numbers second) :
    first = second := by
  cases firstOutside with
  | red outside =>
      cases secondOutside with
      | red _ => rfl
      | green inside _ => exact absurd inside outside
      | blue inside _ _ => exact absurd inside outside
  | green insideRed outside =>
      cases secondOutside with
      | red outsideRed => exact absurd insideRed outsideRed
      | green _ _ => rfl
      | blue _ inside _ => exact absurd inside outside
  | blue insideRed insideGreen _ =>
      cases secondOutside with
      | red outside => exact absurd insideRed outside
      | green _ outside => exact absurd insideGreen outside
      | blue _ _ _ => rfl

theorem Colour.levels_injective {first second : Colour} (equal : first.levels = second.levels) :
    first = second := by
  obtain ⟨red, green, blue⟩ := first
  simp only [levels, toTriple, Triple.map, Triple.mk.injEq, Nat.cast_inj, UInt8.toNat_inj] at equal
  rw [equal.1, equal.2.1, equal.2.2]

theorem inRange_level (level : UInt8) : InRange level.toNat := by
  have := level.toNat_lt
  unfold InRange
  omega

theorem exists_level {number : Int} (inside : InRange number) :
    ∃ level : UInt8, (level.toNat : Int) = number := by
  unfold InRange at inside
  refine ⟨UInt8.ofNat number.toNat, ?_⟩
  rw [UInt8.toNat_ofNat_of_lt' (show number.toNat < 256 by omega)]
  omega

theorem inRange_iff_levels (numbers : Triple Int) :
    (∀ place, InRange (numbers.get place)) ↔ ∃ colour : Colour, colour.levels = numbers := by
  constructor
  · intro inside
    obtain ⟨red, redLevel⟩ := exists_level (inside .first)
    obtain ⟨green, greenLevel⟩ := exists_level (inside .second)
    obtain ⟨blue, blueLevel⟩ := exists_level (inside .third)
    refine ⟨⟨red, green, blue⟩, ?_⟩
    simp only [Colour.levels, Colour.toTriple, Triple.map, redLevel, greenLevel, blueLevel]
    rfl
  · rintro ⟨colour, rfl⟩ place
    cases place with
    | first => exact inRange_level colour.red
    | second => exact inRange_level colour.green
    | third => exact inRange_level colour.blue

theorem not_inRange_iff_firstOutside (numbers : Triple Int) :
    (¬ ∀ place, InRange (numbers.get place)) ↔ ∃ error, FirstOutside numbers error := by
  obtain ⟨red, green, blue⟩ := numbers
  constructor
  · intro notInside
    by_cases insideRed : InRange red
    · by_cases insideGreen : InRange green
      · refine ⟨_, .blue insideRed insideGreen fun insideBlue => notInside fun place => ?_⟩
        cases place with
        | first => exact insideRed
        | second => exact insideGreen
        | third => exact insideBlue
      · exact ⟨_, .green insideRed insideGreen⟩
    · exact ⟨_, .red insideRed⟩
  · rintro ⟨error, outside⟩ inside
    cases outside with
    | red outside => exact outside (inside .first)
    | green _ outside => exact outside (inside .second)
    | blue _ _ outside => exact outside (inside .third)

/-! ## Checks in turn -/

section

variable {ε β : Type} {check : Channel → Int → Except ε UInt8} {refuse : Channel → Int → ε}

/-- The check of one channel lets the range through and refuses everything else. -/
structure ChecksRange (check : Channel → Int → Except ε UInt8) (refuse : Channel → Int → ε) :
    Prop where
  accepts : ∀ channel (level : UInt8), check channel level.toNat = .ok level
  refuses : ∀ channel number, ¬ InRange number →
    check channel number = .error (refuse channel number)

/-- Three integers checked in turn, and what is made of them. -/
def inTurn (make : Colour → β) (check : Channel → Int → Except ε UInt8) (numbers : Triple Int) :
    Except ε β := do
  let red ← check .red numbers.first
  let green ← check .green numbers.second
  let blue ← check .blue numbers.third
  return make ⟨red, green, blue⟩

theorem ChecksRange.exists_accepted (checks : ChecksRange check refuse) (channel : Channel)
    {number : Int} (inside : InRange number) : ∃ level, check channel number = .ok level := by
  obtain ⟨level, rfl⟩ := exists_level inside
  exact ⟨level, checks.accepts channel level⟩

theorem ChecksRange.inTurn_levels (checks : ChecksRange check refuse) (make : Colour → β)
    (colour : Colour) : inTurn make check colour.levels = .ok (make colour) := by
  have red := checks.accepts .red colour.red
  have green := checks.accepts .green colour.green
  have blue := checks.accepts .blue colour.blue
  simp only [inTurn, Colour.levels, Colour.toTriple, Triple.map, red, green, blue]
  rfl

/-- Integers of which one lies outside are refused for the first of these, whatever
follows it. -/
theorem ChecksRange.inTurn_firstOutside (checks : ChecksRange check refuse) (make : Colour → β)
    {numbers : Triple Int} {error : RangeError} (outside : FirstOutside numbers error) :
    inTurn make check numbers = .error (refuse error.channel error.value) := by
  cases outside with
  | red outside =>
      rw [inTurn, checks.refuses .red _ outside]
      rfl
  | green inside outside =>
      obtain ⟨red, redAccepted⟩ := checks.exists_accepted .red inside
      rw [inTurn, redAccepted, checks.refuses .green _ outside]
      rfl
  | blue insideRed insideGreen outside =>
      obtain ⟨red, redAccepted⟩ := checks.exists_accepted .red insideRed
      obtain ⟨green, greenAccepted⟩ := checks.exists_accepted .green insideGreen
      rw [inTurn, redAccepted, greenAccepted, checks.refuses .blue _ outside]
      rfl

end

/-! ## The checks of the library -/

theorem Colour.checksRange_channel? : ChecksRange Colour.channel? RangeError.mk where
  accepts _ level := by
    have inside := inRange_level level
    unfold InRange at inside
    rw [channel?, if_pos inside, Int.toNat_natCast, UInt8.ofNat_toNat]
  refuses _ number outside := by
    unfold InRange at outside
    rw [channel?, if_neg outside]

/-- The three ways to check integers of 64 bits have this result. -/
structure Colour.CheckedAs (numbers : Triple Int) (result : Logged (Except RangeError Colour)) :
    Prop where
  integers : checked numbers.first numbers.second numbers.third = result
  tuple : checkedTuple (numbers.first, numbers.second, numbers.third) = result
  row : checkedTriple numbers = result

theorem Colour.checkedAs_levels (colour : Colour) : CheckedAs colour.levels ⟨.ok colour, []⟩ := by
  have accepted : ofIntegers colour.levels.first colour.levels.second colour.levels.third =
      .ok colour := checksRange_channel?.inTurn_levels id colour
  have result : checked colour.levels.first colour.levels.second colour.levels.third =
      ⟨.ok colour, []⟩ := by
    rw [checked, accepted]
  exact ⟨result, result, result⟩

/-- A refusal is logged once, with the channel and the integer it is for. -/
theorem Colour.checkedAs_firstOutside {numbers : Triple Int} {error : RangeError}
    (outside : FirstOutside numbers error) :
    CheckedAs numbers ⟨.error error, [⟨.debug, "rejecting " ++ error.channel.name ++
      " component " ++ integerText error.value⟩]⟩ := by
  have refused : ofIntegers numbers.first numbers.second numbers.third = .error error :=
    checksRange_channel?.inTurn_firstOutside id outside
  have result : checked numbers.first numbers.second numbers.third =
      ⟨.error error, [rejection error]⟩ := by
    rw [checked, refused]
  exact ⟨result, result, result⟩

/-! ## The checks of a script -/

namespace Script

/-- An integer outside the range, as a host writes it out. -/
def writtenNumber (write : Int → String) (number : Int) : String :=
  if FitsInt64 number then integerText number else write number

theorem fitsInt64_of_inRange {number : Int} (inside : InRange number) : FitsInt64 number := by
  unfold InRange at inside
  unfold FitsInt64 signedLimit
  omega

theorem checksRange_component (write : Int → String) :
    ChecksRange (fun channel number => component write channel (.integer number))
      (fun channel number => .componentOutOfRange channel (writtenNumber write number)) where
  accepts channel level := by
    have fits := fitsInt64_of_inRange (inRange_level level)
    simp only [component, Value.asInteger?, fits, if_true,
      Colour.checksRange_channel?.accepts channel level]
  refuses channel number outside := by
    by_cases fits : FitsInt64 number
    · simp only [component, Value.asInteger?, fits, if_true, writtenNumber,
        Colour.checksRange_channel?.refuses channel number outside]
    · simp only [component, Value.asInteger?, fits, if_false, writtenNumber, printedComponent]

theorem writtenNumber_of_decimal {write : Int → String} {number : Int}
    (decimal : write number = integerText number) :
    writtenNumber write number = integerText number := by
  rw [writtenNumber, decimal, ite_self]

/-- Integers of up to 22 digits, and so all of 64 bits, are written as decimals. -/
theorem printedInteger_of_lt {number : Int} (short : number.natAbs < 10 ^ 22) :
    printedInteger number = integerText number := by
  have digits : 22 ≤ printableDigits := by decide
  have wide := Nat.pow_le_pow_right (show 0 < 10 by decide) digits
  rw [printedInteger, Nat.pow_eq, if_pos (short.trans_le wide)]

/-- The class of colours called with three integers. -/
def calledColour (write : Int → String) (numbers : Triple Int) : Except Exception Record :=
  constructOn write .colour (numbers.map Value.integer).toList []

theorem calledColour_eq (write : Int → String) (numbers : Triple Int) :
    calledColour write numbers =
      inTurn Record.colour (fun channel number => component write channel (.integer number))
        numbers :=
  rfl

end Script

/-! ## The checks of the command line -/

namespace CommandLine

/-- The component that an integer is read as. -/
def Component.ofInt (number : Int) : Component :=
  if FitsInt64 number then .value number else .overflow (integerText number)

theorem Component.read_integerText (number : Int) :
    Component.read (integerText number) = .ok (.ofInt number) := by
  have denotes : Denotes (integerText number).toList number := by
    rw [integerText, String.toList_ofList]
    exact denotes_integer number
  obtain ⟨value, wide, -⟩ := read_ends (integerText number)
  unfold ofInt
  split
  · rename_i fits
    exact (value number).mpr ⟨denotes, fits⟩
  · rename_i tooWide
    exact (wide _).mpr ⟨rfl, _, number, List.prefix_refl _, denotes, tooWide⟩

/-- The text of an integer stands for a value, also behind a minus sign. -/
theorem isValue_integerText (number : Int) : colourValues.IsValue (integerText number) := by
  have nonempty := writtenDigits_ne_nil number.natAbs
  have areDigits := areDigits_writtenDigits number.natAbs
  have shaped := isNumberShaped_pointed areDigits areDigits_nil nonempty
  rw [show pointed false [] = [] from rfl, List.append_nil, ← natural_eq] at shaped
  obtain ⟨digit, more, digits⟩ := List.exists_cons_of_ne_nil nonempty
  have first : natural number.natAbs = digitChar digit :: more.map digitChar := by
    rw [natural_eq, digits, List.map_cons]
  have notDash := (digitChar_ne_sign (areDigits_cons.mp (digits ▸ areDigits)).1).2
  by_cases negative : number < 0
  · right
    refine ⟨natural number.natAbs, ?_, rfl, shaped⟩
    rw [first]
    simp [Word.ofText, integerText, integer, negative, first, notDash]
  · left
    simp [Word.ofText, integerText, integer, negative, first, notDash]

/-- Why an integer outside the range is refused. -/
def rangeRefusal (channel : Channel) (number : Int) : RecordError :=
  if FitsInt64 number then .range ⟨channel, number⟩ else .overflow channel (integerText number)

theorem message_rangeRefusal (channel : Channel) (number : Int) :
    (rangeRefusal channel number).message = outOfRange channel (integerText number) := by
  unfold rangeRefusal
  split
  · rfl
  · rfl

theorem checksRange_toChannel :
    ChecksRange (fun channel number => (Component.ofInt number).toChannel channel)
      rangeRefusal where
  accepts channel level := by
    have fits := Script.fitsInt64_of_inRange (inRange_level level)
    have value : Component.ofInt level.toNat = .value level.toNat := if_pos fits
    rw [value, Component.toChannel, Colour.checksRange_channel?.accepts channel level]
  refuses channel number outside := by
    by_cases fits : FitsInt64 number
    · have value : Component.ofInt number = .value number := if_pos fits
      have refusal : rangeRefusal channel number = .range ⟨channel, number⟩ := if_pos fits
      rw [value, refusal, Component.toChannel,
        Colour.checksRange_channel?.refuses channel number outside]
    · have overflow : Component.ofInt number = .overflow (integerText number) := if_neg fits
      have refusal : rangeRefusal channel number = .overflow channel (integerText number) :=
        if_neg fits
      rw [overflow, refusal, Component.toChannel]

/-- Three integers typed after the name of the subcommand. -/
def typedColour (numbers : Triple Int) : List String :=
  "rgb" :: (numbers.map integerText).toList

def typedArguments (numbers : Triple Int) : Arguments :=
  ⟨false, 0, .colour (numbers.map Component.ofInt)⟩

theorem readArguments_typedColour (numbers : Triple Int) :
    readArguments (typedColour numbers) = .ok (typedArguments numbers) := by
  have textEq : ∀ place, (numbers.map integerText).get place = integerText (numbers.get place) := by
    intro place
    cases place <;> rfl
  have isValue : ∀ place, colourValues.IsValue ((numbers.map integerText).get place) := by
    intro place
    rw [textEq]
    exact isValue_integerText _
  have convert : ∀ place, colourValues.convert ((numbers.map integerText).get place) =
      .ok ((numbers.map Component.ofInt).get place) := by
    intro place
    have componentEq : (numbers.map Component.ofInt).get place =
        Component.ofInt (numbers.get place) := by cases place <;> rfl
    rw [textEq, componentEq]
    exact readComponent_of_read (Component.read_integerText _)
  change readArguments (Subcommand.rgb.name :: (numbers.map integerText).toList) = _
  rw [readArguments_subcommand]
  exact readValues_of_convert .none isValue convert

theorem record_typedArguments (numbers : Triple Int) :
    (typedArguments numbers).command.record =
      inTurn Record.colour (fun channel number => (Component.ofInt number).toChannel channel)
        numbers :=
  rfl

end CommandLine

/-! ## All of them -/

/-- Whichever way three integers take, this colour is made of them. -/
structure MadeEverywhere (write : Int → String) (numbers : Triple Int) (colour : Colour) :
    Prop where
  typed : ∃ arguments, readArguments (typedColour numbers) = .ok arguments ∧
    arguments.command.record = .ok (.colour colour)
  printed : ∀ specification time,
    (execute (typedColour numbers) specification time).exitCode = 0 ∧
      (execute (typedColour numbers) specification time).output = colour.display ++ "\n"
  called : Script.calledColour write numbers = .ok (.colour colour)
  checked : Colour.CheckedAs numbers ⟨.ok colour, []⟩

/-- Whichever way three integers take, they are refused for this one of them, in the
same words. -/
structure RefusedEverywhere (write : Int → String) (numbers : Triple Int) (error : RangeError)
    (message : String) : Prop where
  typed : ∃ arguments refusal, readArguments (typedColour numbers) = .ok arguments ∧
    arguments.command.record = .error refusal ∧ refusal.message = message
  logged : ∀ time, execute (typedColour numbers) none time =
    ⟨1, "", logLine time ⟨.error, message⟩⟩
  exited : ∀ specification time,
    (execute (typedColour numbers) specification time).exitCode = 1 ∧
      (execute (typedColour numbers) specification time).output = ""
  called : ∃ exception, Script.calledColour write numbers = .error exception ∧
    exception.name = "RangeError" ∧ exception.message = message
  checked : Colour.CheckedAs numbers ⟨.error error, [⟨.debug, "rejecting " ++
    error.channel.name ++ " component " ++ integerText error.value⟩]⟩
  worded : error.message = message

theorem madeEverywhere_levels (write : Int → String) (colour : Colour) :
    MadeEverywhere write colour.levels colour := by
  have arguments := readArguments_typedColour colour.levels
  have record : (typedArguments colour.levels).command.record = .ok (.colour colour) := by
    rw [record_typedArguments, checksRange_toChannel.inTurn_levels]
  refine ⟨⟨_, arguments, record⟩, fun specification time => ?_, ?_,
    Colour.checkedAs_levels colour⟩
  · rw [execute_of_read arguments]
    exact carryOut_of_made record specification time
  · rw [Script.calledColour_eq, (Script.checksRange_component write).inTurn_levels]

theorem refusedEverywhere_firstOutside {write : Int → String} {numbers : Triple Int}
    {error : RangeError} (outside : FirstOutside numbers error)
    (decimal : write error.value = integerText error.value) :
    RefusedEverywhere write numbers error (error.channel.name ++ " component " ++
      integerText error.value ++ " is out of range 0..=255") := by
  have arguments := readArguments_typedColour numbers
  have record : (typedArguments numbers).command.record =
      .error (rangeRefusal error.channel error.value) := by
    rw [record_typedArguments, checksRange_toChannel.inTurn_firstOutside _ outside]
  have message := message_rangeRefusal error.channel error.value
  refine ⟨⟨_, _, arguments, record, message⟩, fun time => ?_, fun specification time => ?_, ?_,
    Colour.checkedAs_firstOutside outside, rfl⟩
  · rw [execute_of_read arguments, carryOut_of_refused_quiet record rfl, message]
    rfl
  · rw [execute_of_read arguments]
    exact carryOut_of_refused record specification time
  · have called := (Script.checksRange_component write).inTurn_firstOutside Record.colour outside
    rw [Script.writtenNumber_of_decimal decimal] at called
    exact ⟨_, called, rfl, rfl⟩

/-- Three integers of any size make the same colour everywhere if all of them lie in the
range, and are refused everywhere for the first that does not, in the same words.  Of
the host of a script only its way of writing these integers matters. -/
theorem rangeChecks_agree (numbers : Triple Int) (write : Int → String)
    (decimal : ∀ place, write (numbers.get place) = integerText (numbers.get place)) :
    ((∀ place, InRange (numbers.get place)) →
      ∃ colour : Colour, colour.levels = numbers ∧ MadeEverywhere write numbers colour) ∧
    ((¬ ∀ place, InRange (numbers.get place)) →
      ∃ error, FirstOutside numbers error ∧
        RefusedEverywhere write numbers error (error.channel.name ++ " component " ++
          integerText error.value ++ " is out of range 0..=255")) := by
  constructor
  · intro inside
    obtain ⟨colour, rfl⟩ := (inRange_iff_levels numbers).mp inside
    exact ⟨colour, rfl, madeEverywhere_levels write colour⟩
  · intro notInside
    obtain ⟨error, outside⟩ := (not_inRange_iff_firstOutside numbers).mp notInside
    obtain ⟨place, valueEq⟩ := outside.exists_place
    have decimalHere := decimal place
    rw [valueEq] at decimalHere
    exact ⟨error, outside, refusedEverywhere_firstOutside outside decimalHere⟩

/-- The green component is wider than 64 bits, and the blue one is negative. -/
def mixedNumbers : Triple Int := ⟨255, 1180591620717411303424, -1⟩

theorem rangeChecks_agree_mixed :
    (∀ place, Script.printedInteger (mixedNumbers.get place) =
        integerText (mixedNumbers.get place)) ∧
      (¬ ∀ place, InRange (mixedNumbers.get place)) ∧
      RefusedEverywhere Script.printedInteger mixedNumbers ⟨.green, 1180591620717411303424⟩
        "green component 1180591620717411303424 is out of range 0..=255" ∧
      (∀ place, InRange ((⟨255, 0, 128⟩ : Triple Int).get place)) ∧
      MadeEverywhere Script.printedInteger ⟨255, 0, 128⟩ ⟨255, 0, 128⟩ := by
  have decimalMixed : ∀ place, Script.printedInteger (mixedNumbers.get place) =
      integerText (mixedNumbers.get place) :=
    fun place => Script.printedInteger_of_lt (by cases place <;> decide)
  have decimalSmall : ∀ place, Script.printedInteger ((⟨255, 0, 128⟩ : Triple Int).get place) =
      integerText ((⟨255, 0, 128⟩ : Triple Int).get place) :=
    fun place => Script.printedInteger_of_lt (by cases place <;> decide)
  have outside : ¬ ∀ place, InRange (mixedNumbers.get place) :=
    fun inside => absurd (inside .second) (by decide)
  have inside : ∀ place, InRange ((⟨255, 0, 128⟩ : Triple Int).get place) := by
    intro place
    cases place <;> decide
  obtain ⟨error, first, refused⟩ :=
    (rangeChecks_agree mixedNumbers Script.printedInteger decimalMixed).2 outside
  obtain ⟨colour, levels, made⟩ :=
    (rangeChecks_agree ⟨255, 0, 128⟩ Script.printedInteger decimalSmall).1 inside
  obtain rfl : error = ⟨.green, 1180591620717411303424⟩ :=
    first.unique (.green (by decide) (by decide))
  obtain rfl : colour = ⟨255, 0, 128⟩ := Colour.levels_injective levels
  have text : integerText 1180591620717411303424 = "1180591620717411303424" := by decide +kernel
  rw [text] at refused
  exact ⟨decimalMixed, outside, refused, inside, made⟩

end PointRecords
