import PointRecords.Binary.Format

/-!
# Rounding to the nearest magnitude

Every operation on reals of a format is taken exactly and then rounded once, to
the nearest magnitude and on a tie to the even one.  The exact result is a
quotient of natural numbers.
-/

namespace PointRecords.Binary

/-- The integer nearest to a quotient; half-way cases go to the even
neighbour. -/
def roundHalfEven (numerator denominator : Nat) : Nat :=
  let quotient := numerator / denominator
  let remainder := numerator % denominator
  if 2 * remainder < denominator then quotient
  else if denominator < 2 * remainder then quotient + 1
  else if quotient % 2 = 0 then quotient
  else quotient + 1

namespace Format

variable (format : Format)

/-- The magnitude nearest to `numerator / denominator`.  The shift keeps one
digit more than the fraction holds; adding the rounded significand to the
shifted exponent field lets its leading one, or a carry out of it, count the
exponent up.  What would pass the largest finite magnitude is infinity. -/
def nearest (numerator denominator : Nat) : Nat :=
  let scaled := numerator * format.unitsInOne
  let shift := (scaled / denominator).log2 - format.fractionBits
  let significand := roundHalfEven scaled (denominator * Nat.pow 2 shift)
  min format.infinity (shift * format.fractions + significand)

theorem nearest_lt_magnitudes (numerator denominator : Nat) :
    format.nearest numerator denominator < format.magnitudes :=
  Nat.lt_of_le_of_lt (Nat.min_le_left _ _) format.infinity_lt_magnitudes

def ofNat (number : Nat) : Nat := format.nearest number 1

def product (first second : Nat) : Nat :=
  format.nearest (format.units first * format.units second)
    (format.unitsInOne * format.unitsInOne)

def quotient (first second : Nat) : Nat :=
  format.nearest (format.units first) (format.units second)

def truncate (magnitude : Nat) : Nat :=
  format.units magnitude / format.unitsInOne

/-- The magnitude nearest to a coefficient times a power of ten.  A value whose
digits lie wholly beyond the format's range is settled without the power. -/
def ofDecimal (coefficient : Nat) (exponent : Int) : Nat :=
  if coefficient = 0 then 0
  else
    let reach : Int := format.exponents
    if reach < exponent then format.infinity
    else if exponent + coefficient.log2 + 1 < -reach then 0
    else if exponent < 0 then
      format.nearest coefficient (Nat.pow 10 (-exponent).toNat)
    else
      format.nearest (coefficient * Nat.pow 10 exponent.toNat) 1

theorem ofDecimal_lt_magnitudes (coefficient : Nat) (exponent : Int) :
    format.ofDecimal coefficient exponent < format.magnitudes := by
  have zero_lt := format.magnitudes_pos
  unfold ofDecimal
  split
  · exact zero_lt
  · simp only
    split
    · exact format.infinity_lt_magnitudes
    · split
      · exact zero_lt
      · split <;> exact format.nearest_lt_magnitudes _ _

/-- A magnitude of one format in another, rounded once if it is finite. -/
def convert (source target : Format) (magnitude : Nat) : Nat :=
  if magnitude < source.infinity then
    target.nearest (source.units magnitude) source.unitsInOne
  else if magnitude = source.infinity then target.infinity
  else target.notANumber

theorem convert_lt_magnitudes (source target : Format) (magnitude : Nat) :
    source.convert target magnitude < target.magnitudes := by
  unfold convert
  split
  · exact target.nearest_lt_magnitudes _ _
  · split
    · exact target.infinity_lt_magnitudes
    · exact target.notANumber_lt_magnitudes

end Format

end PointRecords.Binary
