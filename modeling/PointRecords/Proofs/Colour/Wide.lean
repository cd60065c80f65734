import PointRecords.Colour
import PointRecords.Proofs.Binary.NearestEven
import PointRecords.Proofs.Json.Scaling

/-!
# Channels of sixteen bits

A channel of sixteen bits is divided by 65535 and multiplied by 255, both in double
precision, and cut off.  Each of these steps is monotone.  The two roundings together are
too small to reach the next level from below, and no multiple of 257 falls below its own
level.  So what comes out is the quotient by 257.
-/

namespace PointRecords.Colour

open Binary Format Json.Numeral

/-! ## The two roundings -/

/-- A level as a part of the highest one. -/
def share (level : Nat) : Nat := double.nearest level 65535

/-- The share of a level multiplied by 255. -/
def scaledShare (level : Nat) : Nat :=
  double.nearest (double.units (share level) * 255) double.unitsInOne

theorem units_ofNat {number : Nat} (fits : number < 2 ^ 53) :
    double.units (double.ofNat number) = number * double.unitsInOne := by
  have onePos := double.cast_unitsInOne_pos
  have real := real_ofNat fits
  rw [Format.real, div_eq_iff onePos.ne'] at real
  exact_mod_cast real

theorem scaleDown_eq (level : UInt16) :
    scaleDown level = UInt8.ofNat (double.truncate (scaledShare level.toNat)) := by
  have onePos := double.unitsInOne_pos
  have fits := level.toNat_lt
  have shareEq : double.quotient (double.ofNat level.toNat) (double.ofNat 65535) =
      share level.toNat := by
    rw [Format.quotient, units_ofNat (by omega), units_ofNat (by decide)]
    exact nearest_congr (by decide) (Nat.mul_pos (by decide) onePos) (by decide) (by ring)
  have productEq : double.product (share level.toNat) (double.ofNat 255) =
      scaledShare level.toNat := by
    rw [Format.product, units_ofNat (by decide)]
    exact nearest_congr (by decide) (Nat.mul_pos onePos onePos) onePos (by ring)
  simp only [scaleDown, shareEq, productEq]

theorem truncate_scaledShare_mono :
    Monotone fun level => double.truncate (scaledShare level) := by
  intro lower upper le
  have shares : share lower ≤ share upper := nearest_le_nearest (by decide) (by decide) le
  have unitsLe := Nat.mul_le_mul_right 255 (double.units_strictMono.monotone shares)
  have scaled : scaledShare lower ≤ scaledShare upper :=
    nearest_le_nearest (by decide) double.unitsInOne_pos unitsLe
  exact Nat.div_le_div_right (double.units_strictMono.monotone scaled)

/-! ## No level is gained -/

/-- The first rounding moves a share by at most one part in two to the fifty-third. -/
theorem share_bounds {level : Nat} (positive : 0 < level) (fits : level ≤ 65535) :
    share level < double.infinity ∧
      |double.real (share level) - (level : ℚ) / 65535| ≤ (level : ℚ) / 65535 / 2 ^ 53 := by
  have positiveRat : (1 : ℚ) ≤ level := by exact_mod_cast positive
  have fitsRat : (level : ℚ) ≤ 65535 := by exact_mod_cast fits
  apply abs_real_nearest_double_sub_le (by decide)
  · rw [div_mul_eq_mul_div, one_le_div (by norm_num)]
    push_cast
    linarith
  · rw [div_le_iff₀ (by norm_num)]
    push_cast
    linarith

/-- Both roundings together leave a level below the next one. -/
theorem scaledShare_bounds {level : Nat} (positive : 0 < level) (fits : level ≤ 65535) :
    scaledShare level < double.infinity ∧
      double.real (scaledShare level) < ((level + 1 : Nat) : ℚ) / 257 := by
  have positiveRat : (1 : ℚ) ≤ level := by exact_mod_cast positive
  have fitsRat : (level : ℚ) ≤ 65535 := by exact_mod_cast fits
  obtain ⟨shareGe, shareLe⟩ := abs_le.mp (share_bounds positive fits).2
  have number : ((double.units (share level) * 255 : Nat) : ℚ) / double.unitsInOne =
      double.real (share level) * 255 := by
    rw [Format.real]
    push_cast
    ring
  have large : 1 ≤ ((double.units (share level) * 255 : Nat) : ℚ) / double.unitsInOne * 2 ^ 250 := by
    rw [number]
    linarith
  have small : ((double.units (share level) * 255 : Nat) : ℚ) / double.unitsInOne ≤ 2 ^ 250 := by
    rw [number]
    linarith
  obtain ⟨finite, moved⟩ := abs_real_nearest_double_sub_le double.unitsInOne_pos large small
  rw [number] at moved
  have scaledLe := (abs_le.mp moved).2
  change double.real (scaledShare level) - _ ≤ _ at scaledLe
  refine ⟨finite, ?_⟩
  push_cast
  linarith

theorem truncate_scaledShare_le {level : Nat} (fits : level ≤ 65535) :
    double.truncate (scaledShare level) ≤ level / 257 := by
  rcases Nat.eq_zero_or_pos level with rfl | positive
  · decide +kernel
  · have onePos := double.cast_unitsInOne_pos
    have below := (scaledShare_bounds positive fits).2
    rw [Format.real, div_lt_div_iff₀ onePos (by norm_num)] at below
    have whole := Nat.div_mul_le_self (double.units (scaledShare level)) double.unitsInOne
    rw [Nat.le_div_iff_mul_le (by decide), ← Nat.lt_succ_iff]
    apply Nat.lt_of_mul_lt_mul_right (a := double.unitsInOne)
    calc double.truncate (scaledShare level) * 257 * double.unitsInOne
        = double.truncate (scaledShare level) * double.unitsInOne * 257 := by ring
      _ ≤ double.units (scaledShare level) * 257 := Nat.mul_le_mul_right 257 whole
      _ < (level + 1) * double.unitsInOne := by exact_mod_cast below

/-! ## No level is lost -/

/-- Eight bits as a part of 255, in units of which two to the sixty-fourth make one. -/
def shareUnits (level : Nat) : Nat :=
  double.units (double.unboundedNearest (level * 2 ^ 64) 255)

theorem le_shareUnits : ∀ level < 256, 0 < level →
    double.fractions ≤ shareUnits level * 255 ∧
      level * 2 ^ 64 ≤
        double.units (double.unboundedNearest (shareUnits level * 255 * 2 ^ 64) (2 ^ 64)) := by
  decide +kernel

/-- No level is lost.  The check of all levels counts in fewer binary places than the
format; the others are a power of two, which rounding leaves alone. -/
theorem le_truncate_multiple {level : Nat} (fits : level < 256) :
    level ≤ double.truncate (scaledShare (level * 257)) := by
  rcases Nat.eq_zero_or_pos level with rfl | positive
  · exact Nat.zero_le _
  · have shareFinite := (share_bounds (show 0 < level * 257 by omega) (by omega)).1
    have scaledFinite := (scaledShare_bounds (show 0 < level * 257 by omega) (by omega)).1
    have normal : double.fractions ≤ level * 2 ^ 64 / 255 := by
      rw [fractions_double, Nat.le_div_iff_mul_le (by decide)]
      omega
    obtain ⟨places, one⟩ : ∃ places, double.unitsInOne = 2 ^ 64 * 2 ^ places :=
      ⟨1010, by rw [unitsInOne_double, ← pow_add]⟩
    obtain ⟨large, checked⟩ := le_shareUnits level fits positive
    have shareEq : share (level * 257) = double.nearest level 255 :=
      nearest_congr (by decide) (by decide) (by decide) (by ring)
    have shareUnitsEq : double.units (share (level * 257)) = shareUnits level * 2 ^ places := by
      rw [shareEq] at shareFinite ⊢
      rw [units_nearest shareFinite, one, ← Nat.mul_assoc,
        units_unboundedNearest_mul_two_pow double (by decide) normal, shareUnits]
    have scaledEq : scaledShare (level * 257) =
        double.nearest (shareUnits level * 255) (2 ^ 64) := by
      rw [scaledShare, shareUnitsEq]
      apply nearest_congr (by decide) double.unitsInOne_pos (by decide)
      rw [one]
      ring
    have scaledNormal : double.fractions ≤ shareUnits level * 255 * 2 ^ 64 / 2 ^ 64 := by
      rwa [Nat.mul_div_cancel _ (by decide)]
    rw [scaledEq] at scaledFinite ⊢
    rw [truncate, Nat.le_div_iff_mul_le double.unitsInOne_pos, units_nearest scaledFinite,
      one, ← Nat.mul_assoc, ← Nat.mul_assoc,
      units_unboundedNearest_mul_two_pow double (by decide) scaledNormal]
    exact Nat.mul_le_mul_right _ checked

/-- A scaled level is the quotient by 257. -/
theorem toNat_scaleDown (level : UInt16) : (scaleDown level).toNat = level.toNat / 257 := by
  have bound := level.toNat_lt
  have upper := truncate_scaledShare_le (show level.toNat ≤ 65535 by omega)
  have lower := le_truncate_multiple (show level.toNat / 257 < 256 by omega)
  have mono := truncate_scaledShare_mono (Nat.div_mul_le_self level.toNat 257)
  have quotient := le_antisymm upper (lower.trans mono)
  rw [scaleDown_eq, quotient, UInt8.toNat_ofNat_of_lt' (show level.toNat / 257 < 256 by omega)]

/-! ## Colours -/

theorem toNat_scaleUp (level : UInt8) : (scaleUp level).toNat = level.toNat * 257 := by
  have bound := level.toNat_lt
  have wide : level.toUInt16.toNat = level.toNat := UInt8.toNat_toUInt16 level
  rw [scaleUp, UInt16.toNat_mul, wide]
  exact Nat.mod_eq_of_lt (show level.toNat * 257 < 65536 by omega)

theorem toNat_ofWide_get (levels : Triple UInt16) (place : Place) :
    ((ofWide levels).toTriple.get place).toNat = (levels.get place).toNat / 257 := by
  cases place <;> exact toNat_scaleDown _

theorem toNat_toWide_get (colour : Colour) (place : Place) :
    (colour.toWide.get place).toNat = (colour.toTriple.get place).toNat * 257 := by
  cases place <;> exact toNat_scaleUp _

theorem ofWide_toWide (colour : Colour) : ofWide colour.toWide = colour := by
  have back : ∀ level, scaleDown (scaleUp level) = level := by
    intro level
    apply UInt8.toNat.inj
    rw [toNat_scaleDown, toNat_scaleUp, Nat.mul_div_cancel _ (by decide)]
  obtain ⟨red, green, blue⟩ := colour
  simp [ofWide, ofTriple, toWide, toTriple, Triple.map, back]

/-- Scaling down is division by 257 in every channel: it undoes the scaling up of all
colours, leads to the largest multiple of 257 when it is scaled up again, and keeps the
order of levels. -/
theorem ofWide_exact :
    (∀ levels place,
      ((ofWide levels).toTriple.get place).toNat = (levels.get place).toNat / 257) ∧
    (∀ colour, ofWide (toWide colour) = colour) ∧
    (∀ levels place,
      IsGreatest {multiple | 257 ∣ multiple ∧ multiple ≤ (levels.get place).toNat}
        ((toWide (ofWide levels)).get place).toNat) ∧
    ∀ lower upper place, lower.get place ≤ upper.get place →
      (ofWide lower).toTriple.get place ≤ (ofWide upper).toTriple.get place := by
  refine ⟨toNat_ofWide_get, ofWide_toWide, fun levels place => ?_, fun lower upper place le => ?_⟩
  · rw [toNat_toWide_get, toNat_ofWide_get]
    refine ⟨⟨Dvd.intro_left _ rfl, Nat.div_mul_le_self _ _⟩, ?_⟩
    rintro multiple ⟨⟨level, rfl⟩, le⟩
    rw [Nat.mul_comm 257 level] at le ⊢
    exact Nat.mul_le_mul_right 257 ((Nat.le_div_iff_mul_le (by decide)).mpr le)
  · rw [UInt8.le_iff_toNat_le, toNat_ofWide_get, toNat_ofWide_get]
    exact Nat.div_le_div_right (UInt16.le_iff_toNat_le.mp le)

end PointRecords.Colour
