import Mathlib.Tactic
import PointRecords.Packed.Bytes

/-!
# Digits and bytes taken off the front

Digits below a base are found again in their number, also with zeros behind them.
Bytes are taken off the front of a list exactly when they stand there.
-/

namespace PointRecords.Packed

/-- All digits lie below the base. -/
def DigitsBelow (base : Nat) (digits : Bytes) : Prop := ∀ digit ∈ digits, digit.toNat < base

theorem DigitsBelow.take {base : Nat} {digits : Bytes} (below : DigitsBelow base digits)
    (count : Nat) : DigitsBelow base (digits.take count) :=
  fun digit member => below digit (List.mem_of_mem_take member)

theorem DigitsBelow.drop {base : Nat} {digits : Bytes} (below : DigitsBelow base digits)
    (count : Nat) : DigitsBelow base (digits.drop count) :=
  fun digit member => below digit (List.mem_of_mem_drop member)

theorem ofDigits_lt {base : Nat} {digits : Bytes} (below : DigitsBelow base digits) :
    ofDigits base digits < base ^ digits.length := by
  induction digits with
  | nil => simp [ofDigits]
  | cons digit rest ih =>
      have digitBelow := below digit List.mem_cons_self
      have restBelow := ih fun other member => below other (List.mem_cons_of_mem _ member)
      calc
        ofDigits base (digit :: rest) = digit.toNat + base * ofDigits base rest := rfl
        _ < base + base * ofDigits base rest := Nat.add_lt_add_right digitBelow _
        _ = base * (ofDigits base rest + 1) := by ring
        _ ≤ base * base ^ rest.length := Nat.mul_le_mul_left _ restBelow
        _ = base ^ (digit :: rest).length := by rw [List.length_cons, pow_succ']

theorem toDigits_zero (base count : Nat) : toDigits base count 0 = List.replicate count 0 := by
  induction count with
  | zero => rfl
  | succ count ih =>
      rw [toDigits, Nat.zero_mod, Nat.zero_div, ih, List.replicate_succ]
      rfl

/-- More digits than were put into a number are found as zeros behind them. -/
theorem toDigits_ofDigits_add {base : Nat} {digits : Bytes} (below : DigitsBelow base digits)
    (more : Nat) :
    toDigits base (digits.length + more) (ofDigits base digits) =
      digits ++ List.replicate more 0 := by
  induction digits with
  | nil => simp [ofDigits, toDigits_zero]
  | cons digit rest ih =>
      have digitBelow := below digit List.mem_cons_self
      have restBelow : DigitsBelow base rest :=
        fun other member => below other (List.mem_cons_of_mem _ member)
      have basePositive : 0 < base := by omega
      have count : (digit :: rest).length + more = rest.length + more + 1 := by
        rw [List.length_cons]
        omega
      rw [count, toDigits, ofDigits, Nat.add_mul_mod_self_left, Nat.mod_eq_of_lt digitBelow,
        Nat.add_mul_div_left _ _ basePositive, Nat.div_eq_of_lt digitBelow, Nat.zero_add,
        ih restBelow, UInt8.ofNat_toNat, List.cons_append]

/-- Bytes are taken exactly if they are so many and stand in front of the rest. -/
theorem takeBytes_eq_ok_iff {count : Nat} {bytes front rest : Bytes} :
    takeBytes count bytes = .ok (front, rest) ↔ front.length = count ∧ bytes = front ++ rest := by
  unfold takeBytes
  split
  · rename_i tooShort
    simp only [reduceCtorEq, false_iff, not_and]
    rintro rfl rfl
    simp at tooShort
  · rename_i enough
    simp only [Except.ok.injEq, Prod.mk.injEq]
    constructor
    · rintro ⟨rfl, rfl⟩
      exact ⟨List.length_take_of_le (Nat.le_of_not_lt enough), (List.take_append_drop _ _).symm⟩
    · rintro ⟨rfl, rfl⟩
      exact ⟨List.take_left, List.drop_left⟩

theorem takeBytes_append (front rest : Bytes) :
    takeBytes front.length (front ++ rest) = .ok (front, rest) :=
  takeBytes_eq_ok_iff.mpr ⟨rfl, rfl⟩

end PointRecords.Packed
