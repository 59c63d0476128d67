/-
Drawing.

Only two instructions change the display, clearing it and drawing a sprite, and both leave a mark
that they did.  A sprite of no rows leaves the mark too, although it changes nothing.

* `execute_sameScreen` : all others touch neither the display nor the mark;
* `execute_drawn_of_clear` : the mark says whether there was drawing before, or is now;
* `execute_shown` : without a mark the display is as it was.
-/
import Chip8.Proofs.Core.Obstacle

namespace Chip8

/-- Whether an instruction changes the display. -/
def Instr.draws : Instr → Bool
  | .clear | .draw _ _ _ => true
  | _ => false

namespace Core

variable {c : Core}

/-- Two machines have the same display, and the same mark that it was drawn on. -/
structure SameScreen (c d : Core) : Prop where
  display : d.memory.display = c.memory.display
  drawn : d.drawn = c.drawn

theorem SameScreen.refl : c.SameScreen c := ⟨rfl, rfl⟩

theorem withRegisters_sameScreen (r : Registers) : c.SameScreen (c.withRegisters r) := ⟨rfl, rfl⟩

theorem awaitKey_sameScreen (x : Reg) : c.SameScreen (c.awaitKey x) := by
  rcases c.awaitKey_cases x with ⟨key, -, h⟩ | ⟨-, -, h⟩ | ⟨-, -, h⟩
  · rw [h]
    exact ⟨rfl, rfl⟩
  · rw [h]
    exact ⟨rfl, rfl⟩
  · rw [h]
    exact .refl

theorem execute_sameScreen (h : c.WellFormed) {i : Instr} (hi : i.draws = false) :
    c.SameScreen (c.execute i).state := by
  cases i with
  | clear => cases hi
  | draw x y n => cases hi
  | ret =>
    rcases ret_cases h with ⟨-, hret⟩ | ⟨-, address, -, hret⟩
    · rw [execute, hret]
      exact .refl
    · rw [execute, hret]
      exact ⟨rfl, rfl⟩
  | call a =>
    rcases call_cases h a with ⟨-, hcall⟩ | ⟨-, stack, -, hcall⟩
    · rw [execute, hcall]
      exact .refl
    · rw [execute, hcall]
      exact ⟨rfl, rfl⟩
  | awaitKey x => exact awaitKey_sameScreen x
  | storeDecimal x | storeRegs x => exact Outcome.guarded_of .refl ⟨rfl, rfl⟩ _
  | loadRegs x => exact Outcome.guarded_of .refl (withRegisters_sameScreen _) _
  | _ => exact ⟨rfl, rfl⟩

/-- What runs through and draws leaves the mark. -/
theorem execute_drawn_of_draws (h : c.WellFormed) {i : Instr} (hi : i.draws = true)
    (hclear : c.obstacle? i = none) : (c.execute i).state.drawn = true := by
  cases i with
  | clear => rfl
  | draw x y n =>
    by_cases hn : n.val = 0
    · rw [execute, if_pos hn]
      rfl
    · rw [obstacle?, if_pos (by omega)] at hclear
      rw [execute, if_neg hn, reach_of_present h hclear]
      rfl
  | _ => cases hi

theorem execute_drawn_of_clear (h : c.WellFormed) {i : Instr} (hclear : c.obstacle? i = none) :
    (c.execute i).state.drawn = (c.drawn || i.draws) := by
  cases hi : i.draws with
  | true => rw [execute_drawn_of_draws h hi hclear, Bool.or_true]
  | false => rw [(execute_sameScreen h hi).drawn, Bool.or_false]

/-- An instruction that leaves no mark leaves the display alone. -/
theorem execute_shown (h : c.WellFormed) (i : Instr) (hmark : (c.execute i).state.drawn = false) :
    c.SameScreen (c.execute i).state := by
  cases hobstacle : c.obstacle? i with
  | some cause =>
    rw [execute_of_obstacle h hobstacle]
    exact .refl
  | none =>
    rw [execute_drawn_of_clear h hobstacle, Bool.or_eq_false_iff] at hmark
    exact execute_sameScreen h hmark.2

end Core
end Chip8
