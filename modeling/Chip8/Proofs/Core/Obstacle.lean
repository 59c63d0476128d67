/-
What stops an instruction.

`Core.obstacle?` says it without running anything: a return needs something to return to, a call a
free slot, and the instructions that work on memory need all bytes that they touch.  Nothing else
stops an instruction of a well-formed machine.

* `execute_of_obstacle` : an instruction that is stopped changes nothing;
* `execute_of_clear` : one that is not runs through.
-/
import Chip8.Proofs.Core.Effect

namespace Chip8.Core

variable {c : Core}

/-- What is in the way of reaching the `n` bytes from I on, if they are not all there. -/
def missing? (c : Core) (n : Nat) : Option Cause :=
  if 4096 < c.registers.i + n then some (.outOfBounds (max c.registers.i 4096)) else none

/-- What is in the way of an instruction, if anything is. -/
def obstacle? (c : Core) : Instr → Option Cause
  | .ret => if c.registers.sp = 0 then some (.stackUnderflow c.registers.sp) else none
  | .call _ => if c.registers.sp = 15 then some (.stackOverflow c.registers.sp) else none
  | .draw _ _ n => if 1 ≤ n.val then c.missing? n.val else none
  | .storeDecimal _ => c.missing? 3
  | .storeRegs x => c.missing? (x.val + 1)
  | .loadRegs x => c.missing? (x.val + 1)
  | _ => none

theorem reach_of_missing (h : c.WellFormed) {n : Nat} {cause : Cause}
    (hn : c.missing? n = some cause) : c.reach n = .error cause.raise := by
  rw [missing?] at hn
  split at hn
  · obtain rfl := Option.some_inj.mp hn
    rw [reach, Ram.check, if_neg (Int.not_lt.mpr h.i.1), if_pos (by omega)]
  · exact absurd hn (by simp)

theorem reach_of_present (h : c.WellFormed) {n : Nat} (hn : c.missing? n = none) :
    c.reach n = .ok () := by
  rw [missing?] at hn
  split at hn
  · exact absurd hn (by simp)
  · exact Ram.check_eq_ok_iff.mpr ⟨h.i.1, by omega⟩

/-! ### Rows of bytes -/

theorem checkBytes_ok {row : List Int} (hrow : ∀ z ∈ row, IsByte z) (e : Error) :
    checkBytes row e = .ok () := by
  rw [checkBytes, if_pos]
  rw [List.all_eq_true]
  intro z hz
  simpa [IsByte] using hrow z hz

theorem isByte_of_mem_decimalDigits {z w : Int} (hz : IsByte z) (hw : w ∈ decimalDigits z) :
    IsByte w := by
  simp only [decimalDigits, List.mem_cons, List.not_mem_nil, or_false] at hw
  omega

theorem length_decimalDigits (z : Int) : (decimalDigits z).length = 3 := rfl

theorem isByte_of_mem_upTo (h : c.WellFormed) {x : Reg} {z : Int} (hz : z ∈ c.upTo x) :
    IsByte z := by
  obtain ⟨k, hk, rfl⟩ := List.mem_iff_getElem.mp (List.mem_of_mem_take hz)
  have hlt : k < 16 := by simpa using hk
  simpa [Registers.get] using h.v ⟨k, hlt⟩

theorem length_upTo (c : Core) (x : Reg) : (c.upTo x).length = x.val + 1 := by
  have hx : x.val + 1 ≤ 16 := x.isLt
  rw [upTo, List.length_take, Vector.length_toList, Nat.min_eq_left hx]

theorem storeAll_of_missing (h : c.WellFormed) {row : List Int} {cause : Cause}
    (hn : c.missing? row.length = some cause) (e : Error) :
    c.storeAll row e = .failed c cause.raise := by
  rw [storeAll, reach_of_missing h hn]
  rfl

theorem storeAll_of_present (h : c.WellFormed) {row : List Int} (hrow : ∀ z ∈ row, IsByte z)
    (hn : c.missing? row.length = none) (e : Error) :
    c.storeAll row e = .done (c.store (bytes row)) () := by
  rw [storeAll, reach_of_present h hn, checkBytes_ok hrow]
  rfl

/-! ### Instructions -/

/-- An instruction that is stopped fails with what stopped it, and changes nothing. -/
theorem execute_of_obstacle (h : c.WellFormed) {i : Instr} {cause : Cause}
    (hi : c.obstacle? i = some cause) : c.execute i = .failed c cause.raise := by
  cases i with
  | ret =>
    simp only [obstacle?, Option.ite_none_right_eq_some, Option.some_inj] at hi
    obtain ⟨hsp, rfl⟩ := hi
    rw [execute, ret, if_pos hsp]
  | call a =>
    simp only [obstacle?, Option.ite_none_right_eq_some, Option.some_inj] at hi
    obtain ⟨hsp, rfl⟩ := hi
    rw [execute, call, if_pos (by omega)]
  | draw x y n =>
    simp only [obstacle?, Option.ite_none_right_eq_some] at hi
    obtain ⟨hn, hi⟩ := hi
    rw [execute, if_neg (by omega), reach_of_missing h hi]
    rfl
  | storeDecimal x =>
    refine storeAll_of_missing h ?_ _
    rw [length_decimalDigits]
    exact hi
  | storeRegs x =>
    refine storeAll_of_missing h ?_ _
    rw [length_upTo]
    exact hi
  | loadRegs x =>
    rw [execute, reach_of_missing h hi]
    rfl
  | _ => exact absurd hi (by simp [obstacle?])

/-- An instruction with nothing in its way runs through. -/
theorem execute_of_clear (h : c.WellFormed) {i : Instr} (hi : c.obstacle? i = none) :
    (c.execute i).result = .ok () := by
  cases i with
  | ret =>
    have hsp : c.registers.sp ≠ 0 := by simpa [obstacle?] using hi
    rcases ret_cases h with ⟨h0, -⟩ | ⟨-, address, -, hret⟩
    · exact absurd h0 hsp
    · rw [execute, hret]
      rfl
  | call a =>
    have hsp : c.registers.sp ≠ 15 := by simpa [obstacle?] using hi
    rcases call_cases h a with ⟨h15, -⟩ | ⟨-, stack, -, hcall⟩
    · exact absurd h15 hsp
    · rw [execute, hcall]
      rfl
  | draw x y n =>
    by_cases hn : n.val = 0
    · rw [execute, if_pos hn]
      rfl
    · rw [obstacle?, if_pos (by omega)] at hi
      rw [execute, if_neg hn, reach_of_present h hi]
      rfl
  | storeDecimal x =>
    -- Digits of a byte are bytes, so that the check for bytes does not fail.
    have hrow : ∀ z ∈ decimalDigits (c.v x), IsByte z :=
      fun _ => isByte_of_mem_decimalDigits (h.v x)
    rw [execute, storeAll_of_present h hrow hi]
    rfl
  | storeRegs x =>
    rw [execute, storeAll_of_present h (fun _ => isByte_of_mem_upTo h) (by rwa [length_upTo])]
    rfl
  | loadRegs x =>
    rw [execute, reach_of_present h hi]
    rfl
  | _ => rfl

end Chip8.Core
