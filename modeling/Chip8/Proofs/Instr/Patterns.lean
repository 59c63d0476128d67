/-
Words by their digits.

The first of its four hexadecimal digits is the family of a word.  In the families 8, E and F the
last digit, or the last two, tell what the word does, and the digits between name registers.

* `Word.toNat_eq_ret_iff` : returning is one word and no family;
* `Instr.decode_of_family_eight`, `Instr.decode_of_family_fifteen` : where the last digits decide;
* `Instr.decode_eq_random_iff` : only the family C draws random bytes.
-/
import Chip8.Instr.Basic

namespace Chip8

namespace Word

/-- The word is `fxyn`, for a family `f` and a last digit `n`. -/
def HasDigit (f n : Nat) (w : Word) : Prop := w.family = f ∧ w.n.val = n

/-- The word is `fxkk`, for a family `f` and a last byte `kk`. -/
def HasByte (f kk : Nat) (w : Word) : Prop := w.family = f ∧ w.kk.toNat = kk

instance (f n : Nat) (w : Word) : Decidable (w.HasDigit f n) := inferInstanceAs (Decidable (_ ∧ _))

instance (f kk : Nat) (w : Word) : Decidable (w.HasByte f kk) := inferInstanceAs (Decidable (_ ∧ _))

/-- A return is the word `00EE`. -/
theorem toNat_eq_ret_iff {w : Word} : w.toNat = 0x00EE ↔ w.family = 0x0 ∧ w.addr.val = 0x0EE := by
  simp only [family, addr]
  omega

end Word

namespace Instr

variable {w : Word}

theorem decode_of_family_eight (hw : w.family = 0x8) : decode w = decodeArithmetic w := by
  simp [decode, hw]

theorem decode_of_family_fifteen (hw : w.family = 0xF) : decode w = decodeTransfer w := by
  simp [decode, hw]

theorem decode_of_family_twelve (hw : w.family = 0xC) : decode w = .random w.x w.kk := by
  simp [decode, hw]

theorem decode_eq_random_iff {x : Reg} {kk : UInt8} :
    decode w = .random x kk ↔ w.family = 0xC ∧ w.x = x ∧ w.kk = kk := by
  constructor
  · intro h
    have hw : w.family = 0xC := by
      unfold decode decodeArithmetic decodeTransfer at h
      repeat' split at h
      all_goals simp_all
    rw [decode_of_family_twelve hw] at h
    exact ⟨hw, Instr.random.inj h⟩
  · rintro ⟨hw, rfl, rfl⟩
    exact decode_of_family_twelve hw

end Instr
end Chip8
