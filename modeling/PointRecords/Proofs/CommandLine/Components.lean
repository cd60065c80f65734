import PointRecords.Proofs.CommandLine.Values
import PointRecords.Proofs.Decimal.Integer

/-!
# Three components on the command line

Whether three texts make a colour, are out of range, or are no components at all
follows from the texts.  A text is taken for an integer also where it only begins
with one that is too wide: such a text is reported as out of range and not as a
mistake of usage.
-/

namespace PointRecords

open Decimal

namespace CommandLine

/-- The text is taken for an integer. -/
def IsComponent (text : String) : Prop :=
  IsInteger text.toList ∨ BeginsTooWide text.toList

/-- The text is an integer that fits a channel. -/
def FitsChannel (text : String) : Prop :=
  ∃ level : UInt8, Denotes text.toList level.toNat

namespace Component

theorem read_ends (text : String) :
    (∀ number, read text = .ok (.value number) ↔
      Denotes text.toList number ∧ FitsInt64 number) ∧
    (∀ kept, read text = .ok (.overflow kept) ↔ kept = text ∧ BeginsTooWide text.toList) ∧
    ((∃ fault, read text = .error fault) ↔ ¬ IsComponent text) := by
  obtain ⟨value, wide, fault⟩ := readInteger_ends text.toList
  have notComponent : ¬ IsComponent text ↔ readInteger text.toList = .error .empty ∨
      readInteger text.toList = .error .invalidDigit := by
    rw [IsComponent, not_or, fault]
  simp only [notComponent, ← value, ← wide, read]
  cases readInteger text.toList with
  | ok number => simp
  | error reason => cases reason <;> simp [eq_comm]

theorem fitsInt64_level (level : UInt8) : FitsInt64 level.toNat := by
  have := level.toNat_lt
  unfold FitsInt64 signedLimit
  omega

/-- A component becomes the level that its text denotes, and no other does. -/
theorem toChannel_eq_ok_iff {text : String} {component : Component}
    (given : read text = .ok component) (channel : Channel) (level : UInt8) :
    component.toChannel channel = .ok level ↔ Denotes text.toList level.toNat := by
  obtain ⟨value, wide, -⟩ := read_ends text
  cases component with
  | value number =>
      obtain ⟨denotes, -⟩ := (value number).mp given
      have sameLevel : Denotes text.toList level.toNat ↔ number = level.toNat :=
        ⟨fun other => denotes.unique other, fun equal => equal ▸ denotes⟩
      rw [sameLevel, toChannel, Colour.channel?]
      have below := level.toNat_lt
      by_cases inRange : 0 ≤ number ∧ number ≤ 255
      · rw [if_pos inRange, Except.ok.injEq, ← UInt8.toNat_inj]
        rw [UInt8.toNat_ofNat_of_lt' (show number.toNat < 256 by omega)]
        omega
      · rw [if_neg inRange]
        simp only [reduceCtorEq, false_iff]
        omega
  | overflow kept =>
      obtain ⟨rfl, tooWide⟩ := (wide kept).mp given
      simp only [toChannel, reduceCtorEq, false_iff]
      exact fun denotes => tooWide.not_fits denotes (fitsInt64_level level)

theorem exists_read_of_isComponent {text : String} (isComponent : IsComponent text) :
    ∃ component, read text = .ok component := by
  cases result : read text with
  | ok component => exact ⟨component, rfl⟩
  | error fault => exact absurd isComponent ((read_ends text).2.2.mp ⟨fault, result⟩)

end Component

/-- The values of a colour on the command line. -/
def colourValues : Positionals Component := ⟨.rgb, true, readComponent, .colour⟩

def channelAt : Place → Channel
  | .first => .red
  | .second => .green
  | .third => .blue

/-- Three components make a colour if each of them fits its channel. -/
theorem record_colour_eq_ok_iff (components : Triple Component) (record : Record) :
    (Command.colour components).record = .ok record ↔
      ∃ colour, record = .colour colour ∧ ∀ place,
        (components.get place).toChannel (channelAt place) = .ok (colour.toTriple.get place) := by
  simp only [Command.record]
  constructor
  · intro made
    cases red : components.first.toChannel .red with
    | error error => simp [red, bind, Except.bind] at made
    | ok redLevel =>
        cases green : components.second.toChannel .green with
        | error error => simp [red, green, bind, Except.bind] at made
        | ok greenLevel =>
            cases blue : components.third.toChannel .blue with
            | error error => simp [red, green, blue, bind, Except.bind] at made
            | ok blueLevel =>
                simp only [red, green, blue, bind, Except.bind, pure, Except.pure,
                  Except.ok.injEq] at made
                refine ⟨⟨redLevel, greenLevel, blueLevel⟩, made.symm, ?_⟩
                intro place
                cases place with
                | first => exact red
                | second => exact green
                | third => exact blue
  · rintro ⟨colour, rfl, fits⟩
    have red := fits .first
    have green := fits .second
    have blue := fits .third
    simp only [Triple.get, channelAt] at red green blue
    rw [red, green, blue]
    rfl

/-- Three texts behind a separator, so that none of them can be a flag. -/
def separatedColour (texts : Triple String) : List String :=
  "rgb" :: "--" :: texts.toList

theorem readArguments_separated (texts : Triple String) :
    readArguments (separatedColour texts) = colourValues.readThree .none texts := by
  change readArguments (Subcommand.rgb.name :: "--" :: texts.toList) = _
  rw [readArguments_subcommand]
  exact readValues_separated colourValues .none texts

theorem readComponent_of_read {text : String} {component : Component}
    (given : Component.read text = .ok component) : readComponent text = .ok component := by
  rw [readComponent, given]
  rfl

/-- How a command line with three components can end. -/
inductive Ending
  | misuse
  | outOfRange
  | made (colour : Colour)

/-- A run of the program ends so. -/
def Ending.Of (words : List String) (specification : Option String) (time : String) :
    Ending → Prop
  | .misuse =>
      (∃ refusal, readArguments words = .error refusal) ∧
        (execute words specification time).exitCode = 2
  | .outOfRange =>
      (∃ arguments error, readArguments words = .ok arguments ∧
        arguments.command.record = .error error) ∧
        (execute words specification time).exitCode = 1
  | .made colour =>
      (∃ arguments, readArguments words = .ok arguments ∧
        arguments.command.record = .ok (.colour colour)) ∧
        (execute words specification time).exitCode = 0 ∧
        (execute words specification time).output = colour.display ++ "\n"

theorem Ending.Of.unique {words : List String} {specification : Option String} {time : String}
    {first second : Ending} (endsFirst : first.Of words specification time)
    (endsSecond : second.Of words specification time) : first = second := by
  cases first with
  | misuse =>
      cases second with
      | misuse => rfl
      | outOfRange => exact absurd (endsFirst.2.symm.trans endsSecond.2) (by decide)
      | made colour => exact absurd (endsFirst.2.symm.trans endsSecond.2.1) (by decide)
  | outOfRange =>
      cases second with
      | misuse => exact absurd (endsFirst.2.symm.trans endsSecond.2) (by decide)
      | outOfRange => rfl
      | made colour => exact absurd (endsFirst.2.symm.trans endsSecond.2.1) (by decide)
  | made colour =>
      cases second with
      | misuse => exact absurd (endsFirst.2.1.symm.trans endsSecond.2) (by decide)
      | outOfRange => exact absurd (endsFirst.2.1.symm.trans endsSecond.2) (by decide)
      | made other =>
          obtain ⟨firstArguments, firstRead, firstMade⟩ := endsFirst.1
          obtain ⟨secondArguments, secondRead, secondMade⟩ := endsSecond.1
          rw [firstRead, Except.ok.injEq] at secondRead
          rw [← secondRead, firstMade, Except.ok.injEq, Record.colour.injEq] at secondMade
          rw [secondMade]

section

variable (texts : Triple String) (specification : Option String) (time : String)

theorem misuse_of_not_isComponent {place : Place} (isNone : ¬ IsComponent (texts.get place)) :
    Ending.misuse.Of (separatedColour texts) specification time := by
  obtain ⟨fault, failed⟩ := (Component.read_ends _).2.2.mpr isNone
  have notConverted : colourValues.convert (texts.get place) = .error fault.message := by
    change (Component.read (texts.get place)).mapError _ = _
    rw [failed]
    rfl
  obtain ⟨value, name, why, refused⟩ := Positionals.readThree_of_error .none notConverted
  have refusedHere := (readArguments_separated texts).trans refused
  exact ⟨⟨_, refusedHere⟩, by rw [execute, refusedHere]; rfl⟩

theorem readArguments_of_isComponent (areComponents : ∀ place, IsComponent (texts.get place)) :
    ∃ components : Triple Component,
      (∀ place, Component.read (texts.get place) = .ok (components.get place)) ∧
      readArguments (separatedColour texts) = .ok ⟨false, 0, .colour components⟩ := by
  obtain ⟨first, firstRead⟩ := Component.exists_read_of_isComponent (areComponents .first)
  obtain ⟨second, secondRead⟩ := Component.exists_read_of_isComponent (areComponents .second)
  obtain ⟨third, thirdRead⟩ := Component.exists_read_of_isComponent (areComponents .third)
  have given : ∀ place, Component.read (texts.get place) =
      .ok ((⟨first, second, third⟩ : Triple Component).get place) := by
    intro place
    cases place with
    | first => exact firstRead
    | second => exact secondRead
    | third => exact thirdRead
  refine ⟨⟨first, second, third⟩, given, ?_⟩
  rw [readArguments_separated,
    Positionals.readThree_of_convert .none fun place => readComponent_of_read (given place)]
  rfl

/-- Components of which one does not fit its channel are out of range. -/
theorem outOfRange_of_not_fitsChannel (areComponents : ∀ place, IsComponent (texts.get place))
    {place : Place} (outside : ¬ FitsChannel (texts.get place)) :
    Ending.outOfRange.Of (separatedColour texts) specification time := by
  obtain ⟨components, given, arguments⟩ := readArguments_of_isComponent texts areComponents
  cases made : (Command.colour components).record with
  | ok record =>
      obtain ⟨colour, -, fits⟩ := (record_colour_eq_ok_iff components record).mp made
      exact absurd ⟨_, (Component.toChannel_eq_ok_iff (given place) _ _).mp (fits place)⟩ outside
  | error error =>
      refine ⟨⟨_, error, arguments, made⟩, ?_⟩
      simp [execute, arguments, carryOut, Arguments.run, made]

theorem made_of_denotes {colour : Colour}
    (denotes : ∀ place, Denotes (texts.get place).toList (colour.toTriple.get place).toNat) :
    (Ending.made colour).Of (separatedColour texts) specification time := by
  have areComponents : ∀ place, IsComponent (texts.get place) :=
    fun place => Or.inl ⟨_, denotes place⟩
  obtain ⟨components, given, arguments⟩ := readArguments_of_isComponent texts areComponents
  have made : (Command.colour components).record = .ok (.colour colour) := by
    refine (record_colour_eq_ok_iff components _).mpr ⟨colour, rfl, fun place => ?_⟩
    exact (Component.toChannel_eq_ok_iff (given place) _ _).mpr (denotes place)
  refine ⟨⟨_, arguments, made⟩, ?_, ?_⟩
  · simp [execute, arguments, carryOut, Arguments.run, made]
  · simp [execute, arguments, carryOut, Arguments.run, made, Record.describe, Record.display]

/-- The texts are no components, or out of range, or they denote a colour. -/
theorem exists_end :
    (∃ place, ¬ IsComponent (texts.get place)) ∨
      ((∀ place, IsComponent (texts.get place)) ∧ ∃ place, ¬ FitsChannel (texts.get place)) ∨
      ∃ colour : Colour, ∀ place,
        Denotes (texts.get place).toList (colour.toTriple.get place).toNat := by
  by_cases areComponents : ∀ place, IsComponent (texts.get place)
  · by_cases fit : ∀ place, FitsChannel (texts.get place)
    · obtain ⟨red, denotesRed⟩ := fit .first
      obtain ⟨green, denotesGreen⟩ := fit .second
      obtain ⟨blue, denotesBlue⟩ := fit .third
      refine Or.inr (Or.inr ⟨⟨red, green, blue⟩, fun place => ?_⟩)
      cases place with
      | first => exact denotesRed
      | second => exact denotesGreen
      | third => exact denotesBlue
    · exact Or.inr (Or.inl ⟨areComponents, not_forall.mp fit⟩)
  · exact Or.inl (not_forall.mp areComponents)

/-- The end of a command line with three components follows from their texts, and
so does what is read of each text.  One of the three conditions always holds, and a run
has one end only, so each end tells which condition held.  Where no text begins with an
integer that is too wide without being an integer, the texts that are no integers are the
mistakes of usage. -/
theorem separatedColour_end :
    (∀ text,
      (∀ number, Component.read text = .ok (.value number) ↔
        Denotes text.toList number ∧ FitsInt64 number) ∧
      (∀ kept, Component.read text = .ok (.overflow kept) ↔
        kept = text ∧ BeginsTooWide text.toList) ∧
      ((∃ fault, Component.read text = .error fault) ↔ ¬ IsComponent text)) ∧
    (Ending.misuse.Of (separatedColour texts) specification time ↔
      ∃ place, ¬ IsComponent (texts.get place)) ∧
    (Ending.outOfRange.Of (separatedColour texts) specification time ↔
      (∀ place, IsComponent (texts.get place)) ∧ ∃ place, ¬ FitsChannel (texts.get place)) ∧
    (∀ colour, (Ending.made colour).Of (separatedColour texts) specification time ↔
      ∀ place, Denotes (texts.get place).toList (colour.toTriple.get place).toNat) ∧
    ((∀ place, BeginsTooWide (texts.get place).toList → IsInteger (texts.get place).toList) →
      (Ending.misuse.Of (separatedColour texts) specification time ↔
        ∃ place, ¬ IsInteger (texts.get place).toList) ∧
      (Ending.outOfRange.Of (separatedColour texts) specification time ↔
        (∀ place, IsInteger (texts.get place).toList) ∧
          ∃ place, ¬ FitsChannel (texts.get place))) := by
  have misuse : ∀ place, ¬ IsComponent (texts.get place) →
      Ending.misuse.Of (separatedColour texts) specification time :=
    fun _ => misuse_of_not_isComponent texts specification time
  have outOfRange : (∀ place, IsComponent (texts.get place)) →
      ∀ place, ¬ FitsChannel (texts.get place) →
        Ending.outOfRange.Of (separatedColour texts) specification time :=
    fun areComponents _ => outOfRange_of_not_fitsChannel texts specification time areComponents
  have made : ∀ colour : Colour,
      (∀ place, Denotes (texts.get place).toList (colour.toTriple.get place).toNat) →
        (Ending.made colour).Of (separatedColour texts) specification time :=
    fun _ => made_of_denotes texts specification time
  have someEnd := exists_end texts
  have misuseIff : Ending.misuse.Of (separatedColour texts) specification time ↔
      ∃ place, ¬ IsComponent (texts.get place) := by
    refine ⟨fun ends => ?_, fun ⟨place, isNone⟩ => misuse place isNone⟩
    rcases someEnd with isNone | ⟨areComponents, place, outside⟩ | ⟨colour, denotes⟩
    · exact isNone
    · cases ends.unique (outOfRange areComponents place outside)
    · cases ends.unique (made colour denotes)
  have outOfRangeIff : Ending.outOfRange.Of (separatedColour texts) specification time ↔
      (∀ place, IsComponent (texts.get place)) ∧ ∃ place, ¬ FitsChannel (texts.get place) := by
    refine ⟨fun ends => ?_, fun ⟨areComponents, place, outside⟩ =>
      outOfRange areComponents place outside⟩
    rcases someEnd with ⟨place, isNone⟩ | isOutside | ⟨colour, denotes⟩
    · cases ends.unique (misuse place isNone)
    · exact isOutside
    · cases ends.unique (made colour denotes)
  refine ⟨Component.read_ends, misuseIff, outOfRangeIff, fun colour => ⟨fun ends => ?_, made colour⟩,
    fun wholeIntegers => ?_⟩
  · rcases someEnd with ⟨place, isNone⟩ | ⟨areComponents, place, outside⟩ | ⟨other, denotes⟩
    · cases ends.unique (misuse place isNone)
    · cases ends.unique (outOfRange areComponents place outside)
    · cases ends.unique (made other denotes)
      exact denotes
  · have isComponentIff : ∀ place, IsComponent (texts.get place) ↔
        IsInteger (texts.get place).toList :=
      fun place => or_iff_left_of_imp (wholeIntegers place)
    simp only [misuseIff, outOfRangeIff, isComponentIff, and_self]

end

/-- A text of digits that are too many, and a letter. -/
theorem separatedColour_too_wide_with_letter :
    ¬ IsInteger "99999999999999999999x".toList ∧
      Component.read "99999999999999999999x" = .ok (.overflow "99999999999999999999x") ∧
      Ending.outOfRange.Of ["rgb", "--", "99999999999999999999x", "0", "0"] none "" ∧
      ¬ Ending.misuse.Of ["rgb", "--", "99999999999999999999x", "0", "0"] none "" := by
  have isNone : ¬ IsInteger "99999999999999999999x".toList := by
    have parts : Parts "99999999999999999999x".toList [] false (List.replicate 20 9) ['x'] :=
      ⟨Or.inl ⟨rfl, rfl⟩, by decide, by simp [AreDigits], noDigit_cons.mpr rfl, by decide⟩
    rintro ⟨number, denotes⟩
    cases ((parts.denotes_iff number).mp denotes).2.1
  have outOfRange : Ending.outOfRange.Of
      ["rgb", "--", "99999999999999999999x", "0", "0"] none "" :=
    ⟨⟨⟨false, 0, .colour ⟨.overflow "99999999999999999999x", .value 0, .value 0⟩⟩,
      .overflow .red "99999999999999999999x", rfl, rfl⟩, rfl⟩
  refine ⟨isNone, rfl, outOfRange, fun misuse => ?_⟩
  cases misuse.unique outOfRange

end CommandLine

end PointRecords
