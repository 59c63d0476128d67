/-
The calls in progress as a list.

The addresses that calls in progress go back to are in the slots from 1 to the stack pointer.  Slot
0 and the slots above the stack pointer hold whatever was left there, and only calls and returns
look at the stack at all: every other instruction does the same whatever stack and pointer are.

* `CallStack.live_push`, `CallStack.live_pop` : a call adds an address at the end of the list, and
  a return takes the last one away;
* `execute_withCalls` : other instructions do not depend on the call stack, nor on its pointer.
-/
import Chip8.Core.Trace
import Chip8.Proofs.Core.Effect

namespace Chip8

namespace CallStack

/-- The addresses in the slots from 1 to `sp`. -/
def live (s : CallStack) (sp : Int) : List Word := (s.slots.toList.drop 1).take sp.toNat

variable {s s' : CallStack} {sp : Int}

theorem getElem?_live (s : CallStack) (sp : Int) (k : Nat) :
    (s.live sp)[k]? = if k < sp.toNat then s.slot? (k + 1) else none := by
  rw [live, List.getElem?_take, List.getElem?_drop]
  congr 1
  by_cases hk : k + 1 < 16
  · rw [slot?, position?_of_lt (by omega) (by omega)]
    simp [Nat.add_comm 1 k]
  · have hnone : position? (k + 1) = none := by
      rw [position?, if_neg (by omega)]
    rw [slot?, hnone, List.getElem?_eq_none (by simp; omega)]
    rfl

theorem length_live_le (s : CallStack) (sp : Int) : (s.live sp).length ≤ 15 := by
  simp only [live, List.length_take, List.length_drop, Vector.length_toList]
  omega

theorem length_live (s : CallStack) (hsp : IsSlot sp) : (s.live sp).length = sp.toNat := by
  simp [live]
  omega

theorem live_eq_iff : s.live sp = s'.live sp ↔
    ∀ k, 1 ≤ k → k ≤ sp → s'.slot? k = s.slot? k := by
  constructor
  · intro h k h1 hk
    have hget := congrArg (fun row => row[k.toNat - 1]?) h
    simp only [getElem?_live] at hget
    rw [if_pos (by omega), if_pos (by omega)] at hget
    rw [show ((k.toNat - 1 : Nat) : Int) + 1 = k by omega] at hget
    exact hget.symm
  · intro h
    apply List.ext_getElem?
    intro k
    rw [getElem?_live, getElem?_live]
    split
    · exact (h (k + 1) (by omega) (by omega)).symm
    · rfl

/-- The last address of the list is the one on top of the stack. -/
theorem getLast?_live (s : CallStack) (h1 : 1 ≤ sp) (hsp : sp < 16) :
    (s.live sp).getLast? = s.slot? sp := by
  rw [List.getLast?_eq_getElem?, length_live s (by omega), getElem?_live, if_pos (by omega)]
  congr 1
  omega

theorem live_pop (s : CallStack) (h1 : 1 ≤ sp) (hsp : sp < 16) :
    s.live (sp - 1) = (s.live sp).dropLast := by
  have hlen : (s.live sp).length = sp.toNat := length_live s (by omega)
  rw [List.dropLast_eq_take, hlen]
  simp only [live, List.take_take]
  congr 1
  omega

theorem live_push {address : Word} (h0 : 0 ≤ sp) (hslot : IsSlot (sp + 1))
    (hput : s.put? (sp + 1) address = some s') : s'.live (sp + 1) = s.live sp ++ [address] := by
  have hlen : (s.live sp).length = sp.toNat := length_live s (by omega)
  apply List.ext_getElem?
  intro k
  rw [getElem?_live]
  rcases Nat.lt_trichotomy k sp.toNat with hk | hk | hk
  · rw [if_pos (by omega), List.getElem?_append_left (by omega), getElem?_live, if_pos hk]
    exact slot?_put_of_ne hput hslot (by omega) (by omega)
  · rw [if_pos (by omega), List.getElem?_append_right (by omega), hlen, hk]
    rw [show ((sp.toNat : Nat) : Int) + 1 = sp + 1 by omega, slot?_put_self hput]
    simp
  · rw [if_neg (by omega), List.getElem?_eq_none]
    simp only [List.length_append, List.length_singleton]
    omega

end CallStack

namespace Core

/-- The machine with another call stack and stack pointer. -/
def withCalls (c : Core) (stack : CallStack) (sp : Int) : Core :=
  { c with
    registers := { c.registers with sp := sp }
    memory := { c.memory with stack := stack } }

variable (c : Core) (stack : CallStack) (sp : Int)

theorem fetch_withCalls : (c.withCalls stack sp).fetch =
    c.fetch.map fun found => (found.1, found.2.withCalls stack sp) := by
  show (c.memory.ram.readWord c.registers.pc).map _ =
    ((c.memory.ram.readWord c.registers.pc).map _).map _
  cases c.memory.ram.readWord c.registers.pc <;> rfl

theorem skipIf_withCalls (condition : Bool) :
    (c.withCalls stack sp).skipIf condition = (c.skipIf condition).withCalls stack sp := by
  cases condition <;> rfl

theorem awaitKey_withCalls (x : Reg) :
    (c.withCalls stack sp).awaitKey x = (c.awaitKey x).withCalls stack sp := by
  rcases c.awaitKey_cases x with ⟨key, hkey, h⟩ | ⟨hkey, hwait, h⟩ | ⟨hkey, hwait, h⟩
  · rw [h, awaitKey, show (c.withCalls stack sp).keys.first? = some key from hkey]
    rfl
  · rw [h, awaitKey_of_none (c := c.withCalls stack sp) x hkey hwait]
    rfl
  · rw [h, awaitKey, show (c.withCalls stack sp).keys.first? = none from hkey]
    exact if_neg (by simp [withCalls, hwait])

/-- An instruction that neither calls nor returns does the same whatever the call stack and its
pointer are, and leaves both alone. -/
theorem execute_withCalls {i : Instr} (hcall : ∀ addr, i ≠ .call addr) (hret : i ≠ .ret) :
    (c.withCalls stack sp).execute i = (c.execute i).within fun c => c.withCalls stack sp := by
  cases i with
  | call addr => exact absurd rfl (hcall addr)
  | ret => exact absurd rfl hret
  | skipEqByte x kk | skipNeByte x kk =>
    exact congrArg (Outcome.done · ()) (skipIf_withCalls c stack sp _)
  | skipEq x y | skipNe x y => exact congrArg (Outcome.done · ()) (skipIf_withCalls c stack sp _)
  | skipKey x | skipNoKey x => exact congrArg (Outcome.done · ()) (skipIf_withCalls c stack sp _)
  | awaitKey x => exact congrArg (Outcome.done · ()) (awaitKey_withCalls c stack sp x)
  | draw x y n =>
    simp only [execute]
    split
    · rfl
    · rw [Outcome.guarded_within]
      rfl
  | storeDecimal x | storeRegs x =>
    simp only [execute, storeAll]
    rw [Outcome.guarded_within]
    rfl
  | loadRegs x =>
    simp only [execute]
    rw [Outcome.guarded_within]
    rfl
  | _ => rfl

/-- The line that is logged does not tell of the call stack either. -/
theorem trace_withCalls (after : Core) (i : Instr) :
    i.trace (c.withCalls stack sp) (after.withCalls stack sp) = i.trace c after := by
  cases i <;> rfl

end Core
end Chip8
