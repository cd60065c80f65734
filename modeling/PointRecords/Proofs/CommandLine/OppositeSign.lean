import PointRecords.Proofs.Binary.Faithful
import PointRecords.Proofs.CommandLine.Accepted

/-!
# Coordinates with the opposite sign

A minus sign in front of a coordinate turns it into its opposite, if the word is taken for
a value.  Behind a separator it always is.  Elsewhere it is taken for flags unless the
coordinate begins with a digit and has no sign in its exponent, so not every coordinate
that is accepted is accepted with a minus sign.
-/

namespace PointRecords

open Binary Decimal

/-! ## Places in a triple -/

def Place.index : Place → Nat
  | .first => 0
  | .second => 1
  | .third => 2

theorem Triple.exists_place {α : Type} {values : Triple α} {first last : List α} {value : α}
    (split : values.toList = first ++ value :: last) :
    ∃ place : Place, place.index = first.length ∧ values.get place = value ∧
      ∀ other, (values.set place other).toList = first ++ other :: last := by
  rcases first with _ | ⟨_, _ | ⟨_, _ | ⟨_, more⟩⟩⟩
  · cases split
    exact ⟨.first, rfl, rfl, fun _ => rfl⟩
  · cases split
    exact ⟨.second, rfl, rfl, fun _ => rfl⟩
  · cases split
    exact ⟨.third, rfl, rfl, fun _ => rfl⟩
  · have tooLong := congrArg List.length split
    simp [Triple.toList] at tooLong

theorem Triple.toList_injective {α : Type} {first second : Triple α}
    (same : first.toList = second.toList) : first = second := by
  cases first
  cases second
  cases same
  rfl

/-! ## Literals and minus signs -/

namespace Decimal

variable {format : Format} {negative : Bool} {text : List Char} {pattern : Pattern format}

/-- The text begins with no sign. -/
def IsUnsigned (text : List Char) : Prop := text.head? ≠ some '+' ∧ text.head? ≠ some '-'

instance (text : List Char) : Decidable (IsUnsigned text) :=
  inferInstanceAs (Decidable (text.head? ≠ some '+' ∧ text.head? ≠ some '-'))

theorem readLiteral_of_isUnsigned (unsigned : IsUnsigned text) :
    readLiteral format text = .ok pattern ↔ readUnsigned format false text = some pattern := by
  obtain ⟨noPlus, noMinus⟩ := unsigned
  rw [readLiteral]
  · cases readUnsigned format false text with
    | none => simp
    | some found => simp
  · rintro rest rfl
    exact noMinus rfl
  · rintro rest rfl
    exact noPlus rfl

theorem readLiteral_minus :
    readLiteral format ('-' :: text) = .ok pattern ↔
      readUnsigned format true text = some pattern := by
  rw [readLiteral]
  cases readUnsigned format true text with
  | none => simp
  | some found => simp

theorem readUnsigned_opposite (read : readUnsigned format false text = some pattern) :
    readUnsigned format true text = some pattern.opposite := by
  unfold readUnsigned at read ⊢
  split_ifs at read ⊢ with infinite notANumber
  · cases read
    rfl
  · cases read
    rfl
  · obtain ⟨_, literal, rfl⟩ := Option.map_eq_some_iff.mp read
    rw [literal]
    rfl

/-- A literal is one of three words or made of digits. -/
theorem exists_of_readUnsigned (read : readUnsigned format negative text = some pattern) :
    (lowercase text = "inf" ∨ lowercase text = "infinity" ∨ lowercase text = "nan") ∨
      ∃ literal, decimalLiteral text = some literal := by
  unfold readUnsigned at read
  split_ifs at read with infinite notANumber
  · exact Or.inl (infinite.imp_right Or.inl)
  · exact Or.inl (Or.inr (Or.inr notANumber))
  · obtain ⟨literal, found, -⟩ := Option.map_eq_some_iff.mp read
    exact Or.inr ⟨literal, found⟩

theorem ne_nil_of_readUnsigned (read : readUnsigned format negative text = some pattern) :
    text ≠ [] := by
  rintro rfl
  rcases exists_of_readUnsigned read with (inf | infinity | nan) | ⟨literal, found⟩
  · exact absurd inf (by decide)
  · exact absurd infinity (by decide)
  · exact absurd nan (by decide)
  · cases found

/-- What begins with a digit is none of the words. -/
theorem exists_decimalLiteral_of_digit (read : readUnsigned format negative text = some pattern)
    (goesOn : ¬ NoDigit text) : ∃ literal, decimalLiteral text = some literal := by
  refine (exists_of_readUnsigned read).resolve_left ?_
  cases text with
  | nil => exact absurd noDigit_nil goesOn
  | cons first rest =>
      rw [noDigit_cons, ← ne_eq, Option.ne_none_iff_exists'] at goesOn
      obtain ⟨digit, isDigit⟩ := goesOn
      obtain ⟨below, rfl⟩ := digitOf?_eq_some_iff.mp isDigit
      obtain ⟨notInf, notInfinity, notNan⟩ := lowercase_ne_of_digit below rest
      rintro (inf | infinity | nan)
      · exact notInf inf
      · exact notInfinity infinity
      · exact notNan nan

/-- No literal begins with the letter of the verbose flag. -/
theorem head?_ne_of_readUnsigned (read : readUnsigned format negative text = some pattern) :
    text.head? ≠ some 'v' := by
  intro verbose
  obtain ⟨rest, rfl⟩ := List.head?_eq_some_iff.mp verbose
  have first : (lowercase ('v' :: rest)).toList.head? = some 'v' := by
    rw [lowercase, String.toList_ofList]
    rfl
  rcases exists_of_readUnsigned read with (inf | infinity | nan) | ⟨literal, found⟩
  · exact absurd (inf ▸ first) (by decide)
  · exact absurd (infinity ▸ first) (by decide)
  · exact absurd (nan ▸ first) (by decide)
  · have stops : NoDigit ('v' :: rest) := noDigit_cons.mpr rfl
    simp [decimalLiteral, stops] at found

theorem digitRun_fst_eq_nil_iff : (digitRun text).1 = [] ↔ NoDigit text := by
  constructor
  · intro none
    have split := digitRun_split text
    rw [none, List.map_nil, List.nil_append] at split
    exact split ▸ noDigit_digitRun text
  · intro stops
    rw [digitRun_of_noDigit stops]

end Decimal

/-! ## The shape of a number -/

namespace CommandLine

variable {format : Format} {negative : Bool} {text : List Char} {pattern : Pattern format}

/-- There is no sign in the text. -/
def HasNoSign (text : List Char) : Prop := '+' ∉ text ∧ '-' ∉ text

instance (text : List Char) : Decidable (HasNoSign text) :=
  inferInstanceAs (Decidable ('+' ∉ text ∧ '-' ∉ text))

theorem hasNoSign_append {first second : List Char} :
    HasNoSign (first ++ second) ↔ HasNoSign first ∧ HasNoSign second := by
  simp only [HasNoSign, List.mem_append, not_or]
  exact and_and_and_comm

theorem hasNoSign_digits {digitList : List Nat} (areDigits : AreDigits digitList) :
    HasNoSign (digitList.map digitChar) := by
  constructor
  · intro plus
    obtain ⟨digit, isDigit, equal⟩ := List.mem_map.mp plus
    exact (digitChar_ne_sign (areDigits digit isDigit)).1 equal
  · intro minus
    obtain ⟨digit, isDigit, equal⟩ := List.mem_map.mp minus
    exact (digitChar_ne_sign (areDigits digit isDigit)).2 equal

/-- What stands behind the whole part and the fraction of a literal. -/
def afterFraction (text : List Char) : List Char :=
  match (digitRun text).2 with
  | '.' :: rest => (digitRun rest).2
  | rest => rest

/-- The exponent, or what stands in its place, suits a word of the shape of a number. -/
def suitsShape : List Char → Bool
  | [] => true
  | mark :: exponent =>
      (mark == 'e' || mark == 'E') && !exponent.isEmpty && (digitRun exponent).2.isEmpty

theorem isNumberShaped_eq (text : List Char) :
    isNumberShaped text = (!(digitRun text).1.isEmpty && suitsShape (afterFraction text)) :=
  rfl

theorem suitsShape_eq_true_iff : suitsShape text = true ↔
    text = [] ∨ ∃ mark digitList, (mark = 'e' ∨ mark = 'E') ∧ digitList ≠ [] ∧
      AreDigits digitList ∧ text = mark :: digitList.map digitChar := by
  cases text with
  | nil => simp [suitsShape]
  | cons mark exponent =>
      simp only [suitsShape, Bool.and_eq_true, Bool.or_eq_true, beq_iff_eq, Bool.not_eq_true',
        List.isEmpty_eq_false_iff, List.isEmpty_iff, List.cons.injEq, reduceCtorEq, false_or]
      constructor
      · rintro ⟨⟨isMark, nonempty⟩, whole⟩
        have split := digitRun_split exponent
        rw [whole, List.append_nil] at split
        refine ⟨mark, (digitRun exponent).1, isMark, ?_, areDigits_digitRun exponent, rfl,
          split.symm⟩
        intro none
        rw [none] at split
        exact nonempty split.symm
      · rintro ⟨_, digitList, isMark, nonempty, areDigits, rfl, rfl⟩
        have run := digitRun_append areDigits noDigit_nil
        rw [List.append_nil] at run
        rw [run]
        exact ⟨⟨isMark, by simpa using nonempty⟩, rfl⟩

theorem exists_of_exponentPart {exponent : Int} (read : exponentPart text = some exponent) :
    text = [] ∨ ∃ mark sign digitList, (mark = 'e' ∨ mark = 'E') ∧
      (sign = [] ∨ sign = ['-'] ∨ sign = ['+']) ∧ digitList ≠ [] ∧ AreDigits digitList ∧
      text = mark :: (sign ++ digitList.map digitChar) := by
  cases text with
  | nil => exact Or.inl rfl
  | cons mark rest =>
      by_cases isMark : mark = 'e' ∨ mark = 'E'
      · simp only [exponentPart, isMark, if_true] at read
        split at read
        case h_1 => cases read
        case h_3 => cases read
        case h_2 digitList nonempty run =>
          obtain ⟨digits, areDigits, -⟩ := digitRun_eq_iff.mp run
          rw [List.append_nil] at digits
          have signed : ∃ sign, (sign = [] ∨ sign = ['-'] ∨ sign = ['+']) ∧
              rest = sign ++ digitList.map digitChar := by
            split at digits
            · exact ⟨['-'], by simp, by simp [← digits]⟩
            · exact ⟨['+'], by simp, by simp [← digits]⟩
            · exact ⟨[], by simp, by simp [← digits]⟩
          obtain ⟨sign, isSign, rfl⟩ := signed
          exact Or.inr ⟨mark, sign, digitList, isMark, isSign, nonempty, areDigits, rfl⟩
      · simp [exponentPart, isMark] at read

theorem exponentPart_of_decimalLiteral {literal : Nat × Int}
    (read : decimalLiteral text = some literal) :
    ∃ exponent, exponentPart (afterFraction text) = some exponent := by
  unfold decimalLiteral at read
  dsimp only at read
  split at read
  case h_1 rest behind =>
      rw [afterFraction, behind]
      split at read
      · cases read
      · obtain ⟨exponent, found, -⟩ := Option.map_eq_some_iff.mp read
        exact ⟨exponent, found⟩
  case h_2 noPoint =>
      split at read
      · cases read
      · obtain ⟨exponent, found, -⟩ := Option.map_eq_some_iff.mp read
        rw [afterFraction]
        split
        · rename_i rest behind
          exact absurd behind (noPoint rest)
        · exact ⟨exponent, found⟩

theorem hasNoSign_digitRun_iff : HasNoSign (digitRun text).2 ↔ HasNoSign text := by
  have digits := hasNoSign_digits (areDigits_digitRun text)
  conv_rhs => rw [← digitRun_split text, hasNoSign_append]
  exact (and_iff_right digits).symm

/-- A sign in an unsigned literal stands in its exponent. -/
theorem hasNoSign_afterFraction_iff : HasNoSign (afterFraction text) ↔ HasNoSign text := by
  rw [← @hasNoSign_digitRun_iff text, afterFraction]
  split
  case h_1 rest behind =>
      have point : HasNoSign ['.'] := by decide
      rw [behind, hasNoSign_digitRun_iff, ← List.singleton_append, hasNoSign_append]
      exact (and_iff_right point).symm
  case h_2 => rfl

/-- The exponent of a literal suits the shape of a number exactly if it has no sign. -/
theorem suitsShape_iff_of_exponentPart {exponent : Int}
    (read : exponentPart text = some exponent) : suitsShape text = true ↔ HasNoSign text := by
  rw [suitsShape_eq_true_iff]
  constructor
  · rintro (rfl | ⟨mark, digitList, isMark, -, areDigits, rfl⟩)
    · decide
    · have markUnsigned : HasNoSign [mark] := by rcases isMark with rfl | rfl <;> decide
      rw [← List.singleton_append, hasNoSign_append]
      exact ⟨markUnsigned, hasNoSign_digits areDigits⟩
  · intro noSign
    rcases exists_of_exponentPart read with none | ⟨mark, sign, digitList, isMark, isSign,
      nonempty, areDigits, rfl⟩
    · exact Or.inl none
    · rcases isSign with rfl | rfl | rfl
      · exact Or.inr ⟨mark, digitList, isMark, nonempty, areDigits, rfl⟩
      · exact absurd (by simp) noSign.2
      · exact absurd (by simp) noSign.1

/-- A literal without a sign before it has the shape of a number if it begins with a digit
and has no sign in its exponent. -/
theorem isNumberShaped_iff (read : readUnsigned format negative text = some pattern) :
    isNumberShaped text = true ↔ ¬ NoDigit text ∧ HasNoSign text := by
  rw [isNumberShaped_eq, Bool.and_eq_true, Bool.not_eq_true', List.isEmpty_eq_false_iff, ne_eq,
    digitRun_fst_eq_nil_iff, ← hasNoSign_afterFraction_iff]
  refine and_congr_right fun goesOn => ?_
  obtain ⟨literal, found⟩ := exists_decimalLiteral_of_digit read goesOn
  obtain ⟨exponent, part⟩ := exponentPart_of_decimalLiteral found
  exact suitsShape_iff_of_exponentPart part

/-! ## Words with a minus sign -/

section

variable {text : String} {coordinate : Coordinate}

theorem toList_minus (text : String) : ("-" ++ text).toList = '-' :: text.toList := by
  rw [String.toList_append]
  rfl

/-- A minus sign makes a word of short flags, which may still be taken for a value. -/
theorem ofText_minus (nonempty : text.toList ≠ []) (unsigned : IsUnsigned text.toList) :
    Word.ofText ("-" ++ text) = .short text.toList := by
  have chars := toList_minus text
  rcases ofText_cases ("-" ++ text) with ⟨separator, -⟩ | ⟨rest, _, _, long, -⟩ |
    ⟨letters, -, -, short, isShort⟩ | ⟨dash | noDash, -⟩
  · rw [separator] at chars
    exact absurd (congrArg List.head? (List.cons.inj chars).2.symm) unsigned.2
  · rw [chars] at long
    exact absurd (congrArg List.head? (List.cons.inj long).2) unsigned.2
  · rw [chars] at short
    rw [isShort, (List.cons.inj short).2]
  · rw [chars] at dash
    exact absurd (List.cons.inj dash).2 nonempty
  · rw [chars] at noDash
    exact absurd rfl noDash

/-- A coordinate with a minus sign is no separator and no flag. -/
theorem minus_no_flag (unsigned : IsUnsigned text.toList)
    (read : readUnsigned .single false text.toList = some coordinate) :
    "-" ++ text ≠ "--" ∧ wordFlags ("-" ++ text) = [] := by
  have short := ofText_minus (ne_nil_of_readUnsigned read) unsigned
  constructor
  · intro separator
    rw [separator] at short
    cases short
  · rw [wordFlags_short (toList_minus text) unsigned.2, if_neg]
    intro verbose
    obtain ⟨letter, rest, chars⟩ := List.exists_cons_of_ne_nil (ne_nil_of_readUnsigned read)
    rw [chars, List.all_cons, Bool.and_eq_true, beq_iff_eq] at verbose
    exact head?_ne_of_readUnsigned read (by rw [chars, verbose.1]; rfl)

theorem isValue_minus_iff (unsigned : IsUnsigned text.toList)
    (read : readUnsigned .single false text.toList = some coordinate) :
    pointValues.IsValue ("-" ++ text) ↔ ¬ NoDigit text.toList ∧ HasNoSign text.toList := by
  have short := ofText_minus (ne_nil_of_readUnsigned read) unsigned
  rw [← isNumberShaped_iff read, Positionals.IsValue, short]
  constructor
  · rintro (plain | ⟨letters, same, -, shaped⟩)
    · cases plain
    · cases same
      exact shaped
  · intro shaped
    exact Or.inr ⟨text.toList, rfl, rfl, shaped⟩

theorem readCoordinate_eq_ok_iff :
    readCoordinate text = .ok coordinate ↔ readLiteral .single text.toList = .ok coordinate :=
  mapError_eq_ok_iff

theorem readCoordinate_minus (read : readUnsigned .single false text.toList = some coordinate) :
    readCoordinate ("-" ++ text) = .ok coordinate.opposite := by
  rw [readCoordinate_eq_ok_iff, toList_minus, readLiteral_minus]
  exact readUnsigned_opposite read

end

/-! ## Words in the place of a value -/

section

variable {α : Type} {positionals : Positionals α} {word : String} {left : List String}

theorem separator_mem_cons_iff {first : String} {rest : List String} (other : first ≠ "--") :
    "--" ∈ first :: rest ↔ "--" ∈ rest := by
  rw [List.mem_cons, or_iff_right (Ne.symm other)]

theorem valuesOf_append_cons (noFlag : word ≠ "--" ∧ wordFlags word = []) (right : List String) :
    valuesOf (left ++ word :: right) =
      valuesOf left ++ word :: (if "--" ∈ left then right else valuesOf right) := by
  induction left with
  | nil => exact valuesOf_value noFlag.1 noFlag.2 right
  | cons first rest ih =>
      rw [List.cons_append]
      by_cases separator : first = "--"
      · subst separator
        simp [valuesOf]
      · simp only [valuesOf, separator, if_false, ih, separator_mem_cons_iff separator]
        split <;> rfl

theorem flagsOf_append_cons (noFlag : word ≠ "--" ∧ wordFlags word = []) (right : List String) :
    flagsOf (left ++ word :: right) =
      flagsOf left ++ (if "--" ∈ left then [] else flagsOf right) := by
  induction left with
  | nil => simp [flagsOf, noFlag]
  | cons first rest ih =>
      rw [List.cons_append]
      by_cases separator : first = "--"
      · subst separator
        simp [flagsOf]
      · simp only [flagsOf, separator, if_false, ih, separator_mem_cons_iff separator,
          List.append_assoc]

theorem fits_append_cons (noFlag : word ≠ "--" ∧ wordFlags word = []) (right : List String) :
    positionals.Fits (left ++ word :: right) ↔
      positionals.Fits left ∧
        ("--" ∈ left ∨ positionals.IsValue word ∧ positionals.Fits right) := by
  induction left with
  | nil => simp [Positionals.Fits, noFlag]
  | cons first rest ih =>
      rw [List.cons_append]
      by_cases separator : first = "--"
      · subst separator
        simp [Positionals.Fits]
      · simp only [Positionals.Fits, separator, false_or, ih, separator_mem_cons_iff separator,
          and_assoc]

end

section

variable {before left right : List String} {text : String}

theorem no_flag_of_isUnsigned (unsigned : IsUnsigned text.toList) :
    text ≠ "--" ∧ wordFlags text = [] := by
  refine ⟨?_, wordFlags_plain (Or.inr unsigned.2)⟩
  rintro rfl
  exact unsigned.2 rfl

/-- What is read behind the subcommand if one of the coordinates gets a minus sign. -/
theorem reads_minus {coordinates : Triple Coordinate} (unsigned : IsUnsigned text.toList)
    (fits : pointValues.Fits (left ++ text :: right))
    (given : (valuesOf (left ++ text :: right)).mapM readCoordinate = .ok coordinates.toList) :
    ∃ place : Place, place.index = (valuesOf left).length ∧
      readUnsigned .single false text.toList = some (coordinates.get place) ∧
      ∀ command, pointValues.Reads (left ++ ("-" ++ text) :: right) command ↔
        ("--" ∈ left ∨ ¬ NoDigit text.toList ∧ HasNoSign text.toList) ∧
        command = .point (coordinates.set place (coordinates.get place).opposite) := by
  have noFlag := no_flag_of_isUnsigned unsigned
  rw [valuesOf_append_cons noFlag] at given
  obtain ⟨firstValues, coordinate, lastValues, firstGiven, read, lastGiven, split⟩ :=
    mapM_append_cons_eq_ok_iff.mp given
  obtain ⟨place, index, rfl, replaced⟩ := Triple.exists_place split
  rw [readCoordinate_eq_ok_iff, readLiteral_of_isUnsigned unsigned] at read
  have minusNoFlag := minus_no_flag unsigned read
  have fitsLeft := (fits_append_cons noFlag right).mp fits
  have minusGiven : (valuesOf (left ++ ("-" ++ text) :: right)).mapM readCoordinate =
      .ok (coordinates.set place (coordinates.get place).opposite).toList := by
    rw [valuesOf_append_cons minusNoFlag, replaced]
    exact mapM_append_cons_eq_ok_iff.mpr
      ⟨firstValues, _, lastValues, firstGiven, readCoordinate_minus read, lastGiven, rfl⟩
  refine ⟨place, index.trans (length_of_mapM firstGiven), read, fun command => ?_⟩
  rw [Positionals.Reads, fits_append_cons minusNoFlag, isValue_minus_iff unsigned read]
  constructor
  · rintro ⟨⟨-, shaped⟩, values, valuesGiven, rfl⟩
    refine ⟨shaped.imp_right And.left, ?_⟩
    have same : values.toList = _ := Except.ok.inj (valuesGiven.symm.trans minusGiven)
    rw [Triple.toList_injective same]
    rfl
  · rintro ⟨shaped, rfl⟩
    refine ⟨⟨fitsLeft.1, ?_⟩, _, minusGiven, rfl⟩
    rcases fitsLeft.2 with separator | ⟨-, fitsRight⟩
    · exact Or.inl separator
    · exact shaped.imp_right fun shape => ⟨shape, fitsRight⟩

/-- A coordinate that is accepted without a sign is accepted with a minus sign exactly if
it stands behind a separator, or begins with a digit and has no sign in its exponent; it
then becomes its opposite, and nothing else changes. -/
theorem opposite_of_accepted {arguments : Arguments} (unsigned : IsUnsigned text.toList)
    (accepted : readArguments (before ++ "xyz" :: (left ++ text :: right)) = .ok arguments) :
    ∃ (coordinates : Triple Coordinate) (place : Place),
      arguments.command = .point coordinates ∧
      arguments.command.record = .ok (.point (Point.ofTriple coordinates)) ∧
      place.index = (valuesOf left).length ∧
      readCoordinate text = .ok (coordinates.get place) ∧
      ∀ other, readArguments (before ++ "xyz" :: (left ++ ("-" ++ text) :: right)) = .ok other ↔
        ("--" ∈ left ∨ ¬ NoDigit text.toList ∧ HasNoSign text.toList) ∧
        other = { arguments with
          command := .point (coordinates.set place (coordinates.get place).opposite) } := by
  have named : ∀ after, before ++ "xyz" :: after = before ++ Subcommand.xyz.name :: after :=
    fun _ => rfl
  rw [named] at accepted ⊢
  obtain ⟨areFlags, onceBefore, onceAfter, _, ⟨fits, coordinates, given, rfl⟩, rfl⟩ :=
    readArguments_eq_ok_iff.mp accepted
  obtain ⟨place, index, read, reads⟩ := reads_minus unsigned fits given
  have sameFlags : flagsOf (left ++ ("-" ++ text) :: right) = flagsOf (left ++ text :: right) := by
    rw [flagsOf_append_cons (minus_no_flag unsigned read),
      flagsOf_append_cons (no_flag_of_isUnsigned unsigned)]
  have sameSwitches : switchesOf (left ++ ("-" ++ text) :: right) =
      switchesOf (left ++ text :: right) := by
    rw [switchesOf, sameFlags]
    rfl
  refine ⟨coordinates, place, rfl, rfl, index, ?_, fun other => ?_⟩
  · rwa [readCoordinate_eq_ok_iff, readLiteral_of_isUnsigned unsigned]
  · rw [readArguments_eq_ok_iff, sameFlags, sameSwitches]
    constructor
    · rintro ⟨-, -, -, command, readsCommand, rfl⟩
      obtain ⟨shaped, rfl⟩ := (reads command).mp readsCommand
      exact ⟨shaped, rfl⟩
    · rintro ⟨shaped, rfl⟩
      exact ⟨areFlags, onceBefore, onceAfter, _, (reads _).mpr ⟨shaped, rfl⟩, rfl⟩

end

def fifteenHundred : Coordinate := ⟨false, 0x44BB8000, by decide⟩

theorem opposite_of_accepted_exponent :
    IsUnsigned "1.5e3".toList ∧
      readArguments ["-v", "xyz", "0", "1.5e3", "2"] =
        .ok ⟨false, 1, .point ⟨.zero, fifteenHundred, .ofInt 2⟩⟩ ∧
      readArguments ["-v", "xyz", "0", "-1.5e3", "2"] =
        .ok ⟨false, 1, .point ⟨.zero, fifteenHundred.opposite, .ofInt 2⟩⟩ := by
  have unsigned : IsUnsigned "1.5e3".toList := by decide
  have accepted : readArguments (["-v"] ++ "xyz" :: (["0"] ++ "1.5e3" :: ["2"])) =
      .ok ⟨false, 1, .point ⟨.zero, fifteenHundred, .ofInt 2⟩⟩ := by decide +kernel
  have shaped : ¬ NoDigit "1.5e3".toList ∧ HasNoSign "1.5e3".toList :=
    ⟨fun stops => absurd (stops '1' (by decide)) (by decide), by decide⟩
  obtain ⟨coordinates, place, command, -, index, -, withMinus⟩ :=
    opposite_of_accepted unsigned accepted
  cases command
  obtain rfl : place = .second := by
    cases place with
    | first => cases index
    | second => rfl
    | third => cases index
  exact ⟨unsigned, accepted, (withMinus _).mpr ⟨Or.inr shaped, rfl⟩⟩

/-- A half can do without its zero, but a half below zero cannot, unless a separator
stands before it. -/
theorem minus_point_refused :
    let half : Coordinate := ⟨false, 0x3F000000, by decide⟩
    IsUnsigned ".5".toList ∧ readCoordinate ".5" = .ok half ∧ half.isNaN = false ∧
      readArguments ["xyz", ".5", "0", "0"] = .ok ⟨false, 0, .point ⟨half, .zero, .zero⟩⟩ ∧
      readArguments ["xyz", "-.5", "0", "0"] = .error (.unknownArgument "-.") ∧
      readArguments ["xyz", "--", "-.5", "0", "0"] =
        .ok ⟨false, 0, .point ⟨half.opposite, .zero, .zero⟩⟩ := by
  refine ⟨by decide, ?_, by decide, ?_, ?_, ?_⟩
  · decide +kernel
  · decide +kernel
  · decide +kernel
  · decide +kernel

end CommandLine

end PointRecords
