/-
Binary floating-point numbers of 64 bits.

A number has a sign and a distance from zero, which is a whole number of units of `2 ^ -1074`.
Distances below `2 ^ 53` units are all there.  Above them the distance between neighbours doubles
with every power of two, so that each has 53 significant bits.  From `2 ^ 1024` on a distance is
infinite.

* `Binary64.round_near` : rounding moves a quotient by half the distance between neighbours at most;
* `Binary64.round_units` : rounding keeps a distance that is a whole number of gaps.
-/
import Chip8.Text.Decimal

namespace Chip8

structure Binary64 where
  negative : Bool
  /-- The distance from zero in units of `2 ^ -1074`, unless it is infinite. -/
  units? : Option Nat
  deriving DecidableEq, Repr

namespace Binary64

/-- The number of units in one. -/
def one : Nat := 1 <<< 1074

/-- The distance of neighbours around a distance from zero, both in units. -/
def gap (units : Nat) : Nat := 1 <<< (units.log2 - 52)

/-- The number of units nearest to `n / d` with at most 53 significant bits, the even one of two. -/
def round (n d : Nat) : Nat :=
  let step := gap (n * one / d)
  step * Decimal.roundHalfEven (n * one) (d * step)

/-- The number of a sign that is nearest to `n / d`. -/
def nearest (negative : Bool) (n d : Nat) : Binary64 :=
  let units := round n d
  ⟨negative, if 1 <<< 2098 ≤ units then none else some units⟩

/-- The number with six decimal places. -/
def text (x : Binary64) : String :=
  (if x.negative then "-" else "") ++ match x.units? with
    | some units => Decimal.sixPlaces units one
    | none => "inf"

theorem one_pos : 0 < one := by
  rw [one, Nat.one_shiftLeft]
  exact Nat.two_pow_pos 1074

theorem gap_pos (units : Nat) : 0 < gap units := by
  rw [gap, Nat.one_shiftLeft]
  exact Nat.two_pow_pos _

theorem round_near (n : Nat) {d : Nat} (hd : 0 < d) :
    2 * (n * one) ≤ 2 * (d * round n d) + d * gap (n * one / d) ∧
      2 * (d * round n d) ≤ 2 * (n * one) + d * gap (n * one / d) := by
  have h := Decimal.roundHalfEven_near (n * one) (Nat.mul_pos hd (gap_pos (n * one / d)))
  simpa only [round, Nat.mul_assoc] using h

theorem round_units {units : Nat} (h : gap units ∣ units) : round units one = units := by
  obtain ⟨k, hk⟩ := h
  have hgap := Nat.mul_pos one_pos (gap_pos units)
  rw [round, Nat.mul_div_cancel units one_pos]
  have hrow : units * one = one * gap units * k := by
    rw [Nat.mul_assoc, ← hk, Nat.mul_comm]
  rw [hrow, Decimal.roundHalfEven_mul k hgap, ← hk]

end Binary64
end Chip8
