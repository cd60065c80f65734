/-!
# Binary floating-point formats

A format is given by two widths.  A *magnitude* is a pattern without its sign
bit, so a natural number below `magnitudes`; larger magnitudes stand for larger
reals, infinity follows the largest finite one, and whatever lies above infinity
is not a number.

Every finite magnitude is a whole multiple of the smallest positive real of its
format.  That multiple, `units`, is the value used throughout: arithmetic on
reals of the format is arithmetic on natural numbers.
-/

namespace PointRecords.Binary

/-- Widths of the fraction field and of the exponent field. -/
structure Format where
  fractionBits : Nat
  exponentBits : Nat
  deriving DecidableEq

namespace Format

/-- The 32-bit format of a coordinate. -/
def single : Format := ⟨23, 8⟩

/-- The 64-bit format in which intermediate results are kept. -/
def double : Format := ⟨52, 11⟩

variable (format : Format)

def fractions : Nat := Nat.pow 2 format.fractionBits

def exponents : Nat := Nat.pow 2 format.exponentBits

/-- Number of patterns that share one sign bit. -/
def magnitudes : Nat := format.exponents * format.fractions

/-- The magnitude of infinity: the exponent field is full and the fraction
empty. -/
def infinity : Nat := (format.exponents - 1) * format.fractions

/-- One is two to this power in units. -/
def scale : Nat := Nat.pow 2 (format.exponentBits - 1) - 2 + format.fractionBits

def unitsInOne : Nat := Nat.pow 2 format.scale

/-- A finite magnitude in units.  An empty exponent field leaves the fraction as
it stands; any other puts a leading one before it and shifts. -/
def units (magnitude : Nat) : Nat :=
  let exponent := magnitude / format.fractions
  let fraction := magnitude % format.fractions
  if exponent = 0 then fraction
  else (format.fractions + fraction) * Nat.pow 2 (exponent - 1)

/-- The magnitude of the result that stands for no number. -/
def notANumber : Nat := format.infinity + format.fractions / 2

theorem fractions_pos : 0 < format.fractions :=
  Nat.pow_pos (by decide)

theorem exponents_pos : 0 < format.exponents :=
  Nat.pow_pos (by decide)

theorem magnitudes_pos : 0 < format.magnitudes :=
  Nat.mul_pos format.exponents_pos format.fractions_pos

theorem infinity_add_fractions :
    format.infinity + format.fractions = format.magnitudes := by
  have exponents_pos := format.exponents_pos
  unfold infinity magnitudes
  rw [← Nat.succ_mul]
  congr 1
  omega

theorem infinity_lt_magnitudes : format.infinity < format.magnitudes := by
  have whole := format.infinity_add_fractions
  have fractions_pos := format.fractions_pos
  omega

theorem notANumber_lt_magnitudes : format.notANumber < format.magnitudes := by
  have whole := format.infinity_add_fractions
  have fractions_pos := format.fractions_pos
  unfold notANumber
  omega

end Format

end PointRecords.Binary
