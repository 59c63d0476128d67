/-
Decimal numerals with a fixed number of places.

A number is rounded to the nearest multiple of the last place; of two that are equally near the
even one is taken.

* `Decimal.length_fixed` : a row of digits is as long as asked for;
* `Decimal.roundHalfEven_near` : rounding moves a quotient by half a unit at most;
* `Decimal.roundHalfEven_mul` : rounding keeps a quotient that is whole.
-/
namespace Chip8.Decimal

/-- The last `width` decimal digits of `n`, leading zeros included. -/
def fixed : (width : Nat) → (n : Nat) → List Char
  | 0, _ => []
  | width + 1, n => fixed width (n / 10) ++ [Char.ofNat (48 + n % 10)]

/-- The whole number nearest to `n / d`, the even one of two. -/
def roundHalfEven (n d : Nat) : Nat :=
  let q := n / d
  let r := n % d
  if 2 * r < d ∨ (2 * r = d ∧ q % 2 = 0) then q else q + 1

/-- The number `n / d` with six decimal places. -/
def sixPlaces (n d : Nat) : String :=
  let units := roundHalfEven (n * 1000000) d
  (units / 1000000).repr ++ "." ++ String.ofList (fixed 6 (units % 1000000))

theorem length_fixed (width n : Nat) : (fixed width n).length = width := by
  induction width generalizing n with
  | zero => rfl
  | succ width ih => simp [fixed, ih]

theorem roundHalfEven_near (n : Nat) {d : Nat} (hd : 0 < d) :
    2 * n ≤ 2 * (d * roundHalfEven n d) + d ∧ 2 * (d * roundHalfEven n d) ≤ 2 * n + d := by
  have hsum := Nat.div_add_mod n d
  have hlt := Nat.mod_lt n hd
  unfold roundHalfEven
  dsimp only
  split
  · omega
  · rw [Nat.mul_add]
    omega

theorem roundHalfEven_mul (k : Nat) {d : Nat} (hd : 0 < d) : roundHalfEven (d * k) d = k := by
  simp [roundHalfEven, Nat.mul_div_cancel_left k hd, hd]

end Chip8.Decimal
