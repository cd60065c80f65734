import PointRecords.Binary.Rounding

/-!
# Signed patterns

A pattern is a sign and a magnitude.  Patterns are compared bit by bit with `=`,
which keeps both zeros and every payload apart, and as numbers with `equals`,
for which the zeros are equal and nothing that is not a number equals anything.
-/

namespace PointRecords.Binary

/-- A sign bit and a magnitude of the format. -/
structure Pattern (format : Format) where
  negative : Bool
  magnitude : Nat
  magnitude_lt : magnitude < format.magnitudes
  deriving DecidableEq

namespace Pattern

variable {format : Format}

/-- The pattern of a word: the sign bit stands above the magnitude, and what
stands above the sign bit is ignored. -/
def ofBits (word : Nat) : Pattern format where
  negative := word / format.magnitudes % 2 = 1
  magnitude := word % format.magnitudes
  magnitude_lt := Nat.mod_lt _ format.magnitudes_pos

def bits (pattern : Pattern format) : Nat :=
  (if pattern.negative then format.magnitudes else 0) + pattern.magnitude

theorem bits_lt (pattern : Pattern format) :
    pattern.bits < 2 * format.magnitudes := by
  have bound := pattern.magnitude_lt
  unfold bits
  split <;> omega

/-- Writing a pattern as a word loses nothing. -/
theorem ofBits_bits (pattern : Pattern format) :
    ofBits pattern.bits = pattern := by
  obtain ⟨negative, magnitude, bound⟩ := pattern
  have magnitudes_pos := format.magnitudes_pos
  cases negative with
  | false =>
      simp [ofBits, bits, Nat.mod_eq_of_lt bound, Nat.div_eq_of_lt bound]
  | true =>
      simp [ofBits, bits, Nat.add_div_left _ magnitudes_pos,
        Nat.mod_eq_of_lt bound, Nat.div_eq_of_lt bound]

def zero : Pattern format := ⟨false, 0, format.magnitudes_pos⟩

/-- The quotient rounded to the nearest magnitude, with the given sign. -/
def round (negative : Bool) (numerator denominator : Nat) : Pattern format :=
  ⟨negative, format.nearest numerator denominator,
    format.nearest_lt_magnitudes numerator denominator⟩

def infinite (negative : Bool) : Pattern format :=
  ⟨negative, format.infinity, format.infinity_lt_magnitudes⟩

/-- The result that stands for no number, with the given sign. -/
def notANumber (negative : Bool) : Pattern format :=
  ⟨negative, format.notANumber, format.notANumber_lt_magnitudes⟩

/-- A coefficient times a power of ten, rounded to the nearest magnitude,
with the given sign. -/
def ofDecimal (negative : Bool) (coefficient : Nat) (exponent : Int) :
    Pattern format :=
  ⟨negative, format.ofDecimal coefficient exponent,
    format.ofDecimal_lt_magnitudes coefficient exponent⟩

/-- The integer rounded to the nearest magnitude; zero is positive. -/
def ofInt (number : Int) : Pattern format :=
  round (number < 0) number.natAbs 1

def product (first second : Pattern format) : Pattern format :=
  ⟨first.negative != second.negative, format.product first.magnitude second.magnitude,
    format.nearest_lt_magnitudes _ _⟩

def quotient (first second : Pattern format) : Pattern format :=
  ⟨first.negative != second.negative, format.quotient first.magnitude second.magnitude,
    format.nearest_lt_magnitudes _ _⟩

/-- The pattern in another format, rounded once if it is finite. -/
def convert {source : Format} (target : Format) (pattern : Pattern source) :
    Pattern target :=
  ⟨pattern.negative, source.convert target pattern.magnitude,
    source.convert_lt_magnitudes target pattern.magnitude⟩

def isFinite (pattern : Pattern format) : Bool :=
  pattern.magnitude < format.infinity

def isNaN (pattern : Pattern format) : Bool :=
  format.infinity < pattern.magnitude

def equals (first second : Pattern format) : Bool :=
  !first.isNaN && !second.isNaN &&
    first.magnitude == second.magnitude &&
    (first.magnitude == 0 || first.negative == second.negative)

end Pattern

end PointRecords.Binary
