import Mathlib.Tactic
import PointRecords.Colour

/-!
# Colours in one number

The channels of a colour are the three digits of its packed number in base 256.  So
colours and the numbers below `2 ^ 24` stand for one another, and of a greater number
only the lowest three digits count.
-/

namespace PointRecords.Colour

theorem toNat_shifted (level : UInt8) {places : UInt32} (fits : places.toNat ≤ 24) :
    (level.toUInt32 <<< places).toNat = level.toNat <<< places.toNat := by
  have inWord : level.toNat <<< places.toNat < 2 ^ 32 := by
    calc
      level.toNat <<< places.toNat = level.toNat * 2 ^ places.toNat := Nat.shiftLeft_eq _ _
      _ < 2 ^ 8 * 2 ^ places.toNat := Nat.mul_lt_mul_of_pos_right level.toNat_lt (by positivity)
      _ ≤ 2 ^ 8 * 2 ^ 24 := Nat.mul_le_mul_left _ (Nat.pow_le_pow_right (by decide) fits)
      _ = 2 ^ 32 := by decide
  rw [UInt32.toNat_shiftLeft, UInt8.toNat_toUInt32, Nat.mod_eq_of_lt (by omega : places.toNat < 32)]
  exact Nat.mod_eq_of_lt inWord

/-- Each channel is shifted past those below it, so that joining bits adds numbers. -/
theorem toNat_toPacked (colour : Colour) :
    colour.toPacked.toNat =
      colour.red.toNat * 256 ^ 2 + colour.green.toNat * 256 + colour.blue.toNat := by
  have greenLt := colour.green.toNat_lt
  have blueLt := colour.blue.toNat_lt
  have lowerLt : colour.green.toNat <<< 8 + colour.blue.toNat < 2 ^ 16 := by
    rw [Nat.shiftLeft_eq]
    omega
  calc
    colour.toPacked.toNat =
        colour.red.toNat <<< 16 ||| colour.green.toNat <<< 8 ||| colour.blue.toNat := by
      rw [toPacked, UInt32.toNat_or, UInt32.toNat_or, toNat_shifted _ (by decide),
        toNat_shifted _ (by decide), UInt8.toNat_toUInt32]
      rfl
    _ = colour.red.toNat <<< 16 + (colour.green.toNat <<< 8 + colour.blue.toNat) := by
      rw [Nat.or_assoc, ← Nat.shiftLeft_add_eq_or_of_lt blueLt,
        ← Nat.shiftLeft_add_eq_or_of_lt lowerLt]
    _ = colour.red.toNat * 256 ^ 2 + colour.green.toNat * 256 + colour.blue.toNat := by
      rw [Nat.shiftLeft_eq, Nat.shiftLeft_eq]
      omega

/-- The channels are found again as the digits of the packed number. -/
theorem digits_toPacked (colour : Colour) :
    colour.toPacked.toNat / 256 ^ 2 = colour.red.toNat ∧
      colour.toPacked.toNat / 256 % 256 = colour.green.toNat ∧
      colour.toPacked.toNat % 256 = colour.blue.toNat := by
  have greenLt := colour.green.toNat_lt
  have blueLt := colour.blue.toNat_lt
  rw [toNat_toPacked]
  omega

theorem toNat_ofPacked (packed : UInt32) :
    (ofPacked packed).red.toNat = packed.toNat / 256 ^ 2 % 256 ∧
      (ofPacked packed).green.toNat = packed.toNat / 256 % 256 ∧
      (ofPacked packed).blue.toNat = packed.toNat % 256 := by
  refine ⟨?_, ?_, UInt32.toNat_toUInt8 packed⟩
  · rw [ofPacked, UInt32.toNat_toUInt8, UInt32.toNat_shiftRight, Nat.shiftRight_eq_div_pow]
    rfl
  · rw [ofPacked, UInt32.toNat_toUInt8, UInt32.toNat_shiftRight, Nat.shiftRight_eq_div_pow]
    rfl

theorem toPacked_lt (colour : Colour) : colour.toPacked.toNat < 2 ^ 24 := by
  have redLt := colour.red.toNat_lt
  obtain ⟨red, -, -⟩ := digits_toPacked colour
  omega

theorem ofPacked_toPacked (colour : Colour) : ofPacked colour.toPacked = colour := by
  obtain ⟨red, green, blue⟩ := toNat_ofPacked colour.toPacked
  obtain ⟨redDigit, greenDigit, blueDigit⟩ := digits_toPacked colour
  rw [redDigit, Nat.mod_eq_of_lt colour.red.toNat_lt, UInt8.toNat_inj] at red
  rw [greenDigit, UInt8.toNat_inj] at green
  rw [blueDigit, UInt8.toNat_inj] at blue
  calc
    ofPacked colour.toPacked =
        ⟨(ofPacked colour.toPacked).red, (ofPacked colour.toPacked).green,
          (ofPacked colour.toPacked).blue⟩ := rfl
    _ = colour := by rw [red, green, blue]

/-- Three digits of a number are what it leaves over in base `2 ^ 24`. -/
theorem toNat_toPacked_ofPacked (packed : UInt32) :
    (ofPacked packed).toPacked.toNat = packed.toNat % 2 ^ 24 := by
  obtain ⟨red, green, blue⟩ := toNat_ofPacked packed
  rw [toNat_toPacked, red, green, blue]
  omega

theorem toPacked_inj {first second : Colour} :
    first.toPacked = second.toPacked ↔ first = second := by
  constructor
  · intro equal
    rw [← ofPacked_toPacked first, equal, ofPacked_toPacked]
  · exact congrArg toPacked

/-- Two numbers stand for the same colour exactly if they agree but for the top byte. -/
theorem ofPacked_eq_ofPacked_iff {first second : UInt32} :
    ofPacked first = ofPacked second ↔ first.toNat % 2 ^ 24 = second.toNat % 2 ^ 24 := by
  rw [← toPacked_inj, ← UInt32.toNat_inj, toNat_toPacked_ofPacked, toNat_toPacked_ofPacked]

/-- The numbers of 24 bits code the colours faithfully, red uppermost: a colour is found
again in its number, and a number of 32 bits in its colour but for the top byte. -/
theorem packed_faithful :
    (∀ colour, ofPacked colour.toPacked = colour ∧ colour.toPacked.toNat < 2 ^ 24) ∧
    (∀ packed, (ofPacked packed).toPacked.toNat = packed.toNat % 2 ^ 24) ∧
    (∀ first second, ofPacked first = ofPacked second ↔
      first.toNat % 2 ^ 24 = second.toNat % 2 ^ 24) ∧
    (∀ first second : Colour, first.toPacked = second.toPacked ↔ first = second) ∧
    ∀ colour : Colour, colour.toPacked.toNat =
      colour.red.toNat * 256 ^ 2 + colour.green.toNat * 256 + colour.blue.toNat :=
  ⟨fun colour => ⟨ofPacked_toPacked colour, toPacked_lt colour⟩, toNat_toPacked_ofPacked,
    fun _ _ => ofPacked_eq_ofPacked_iff, fun _ _ => toPacked_inj, toNat_toPacked⟩

end PointRecords.Colour
