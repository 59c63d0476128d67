/-
Where programs can get to.

A program moves by words, skips and jumps from a word that is in memory, so its counter never gets
far behind the end of memory, and neither do the addresses that it leaves on the call stack, which
it comes back to.  The two bounds need each other: a return takes the counter from the stack, and a
call puts it there.

* `CallStack.Orderly.push` : what a call leaves on an orderly stack;
* `execute_orderly` : every instruction keeps the order, if it runs behind its fetch.
-/
import Chip8.Proofs.Core.Fetch

namespace Chip8

/-- The call stack as programs leave it with `sp` calls in progress: its lowest slot is not used, no
slot holds an address behind the end of memory, and a call in progress was made from some word. -/
structure CallStack.Orderly (s : CallStack) (sp : Int) : Prop where
  bottom : s.slot? 0 = some 0
  le : ∀ k address, s.slot? k = some address → address.toNat ≤ 0x1000
  live : ∀ k address, 1 ≤ k → k ≤ sp → s.slot? k = some address → 2 ≤ address.toNat

/-- The machine as programs leave it. -/
structure Core.Orderly (c : Core) : Prop where
  wellFormed : c.WellFormed
  pc_le : c.registers.pc ≤ 0x10FE
  stack : c.memory.stack.Orderly c.registers.sp

namespace CallStack

theorem slot?_empty {k : Int} {address : Word} (h : empty.slot? k = some address) :
    address = 0 := by
  obtain ⟨j, hj, hget⟩ := Option.bind_eq_some_iff.mp h
  have hlt := position?_lt hj
  simpa [empty, hlt, eq_comm] using hget

theorem orderly_empty : empty.Orderly 0 where
  bottom := rfl
  le k address h := by
    rw [slot?_empty h]
    decide
  live k address h1 h0 _ := by omega

namespace Orderly

variable {s s' : CallStack} {sp : Int}

/-- Fewer calls in progress ask for less. -/
theorem mono (h : s.Orderly sp) {sp' : Int} (hle : sp' ≤ sp) : s.Orderly sp' :=
  ⟨h.bottom, h.le, fun k address h1 hk => h.live k address h1 (Int.le_trans hk hle)⟩

theorem push (h : s.Orderly sp) (hsp : 0 ≤ sp) (hslot : IsSlot (sp + 1)) {address : Word}
    (hput : s.put? (sp + 1) address = some s') (hlow : 2 ≤ address.toNat)
    (hhigh : address.toNat ≤ 0x1000) : s'.Orderly (sp + 1) := by
  -- Every slot holds the new address or what it held before.
  have hcases : ∀ k address', s'.slot? k = some address' →
      address' = address ∨ s.slot? k = some address' := by
    intro k address' hk
    rw [slot?_of_put? hput] at hk
    split at hk
    · exact .inl (Option.some_inj.mp hk).symm
    · exact .inr hk
  refine ⟨?_, ?_, ?_⟩
  · rw [slot?_put_of_ne hput hslot (by omega) (by omega)]
    exact h.bottom
  · intro k address' hk
    rcases hcases k address' hk with rfl | hold
    · exact hhigh
    · exact h.le k address' hold
  · intro k address' h1 hle hk
    rcases hcases k address' hk with rfl | hold
    · exact hlow
    · by_cases hk1 : k = sp + 1
      · subst hk1
        rw [slot?_put_self hput] at hk
        rwa [← Option.some_inj.mp hk]
      · exact h.live k address' h1 (by omega) hold

end Orderly
end CallStack

namespace Core

variable {c : Core}

/-! ### Instructions -/

theorem skipIf_pc_le (h : c.WellFormed) (hhigh : c.registers.pc ≤ 0x1000) (condition : Bool) :
    (c.skipIf condition).registers.pc ≤ 0x10FE := by
  have hpc := h.pc
  cases condition with
  | false => exact Int.le_trans hhigh (by decide)
  | true =>
    show (c.registers.pc + 2) % 65536 ≤ 0x10FE
    omega

theorem execute_pc_le (h : c.Orderly) (hlow : 2 ≤ c.registers.pc)
    (hhigh : c.registers.pc ≤ 0x1000) (i : Instr) :
    (c.execute i).state.registers.pc ≤ 0x10FE := by
  have hstay : c.registers.pc ≤ 0x10FE := Int.le_trans hhigh (by decide)
  by_cases hi : i.steers = false
  · rw [execute_pc c hi]
    exact hstay
  -- What is left are the instructions that may go elsewhere.
  cases i with
  | ret =>
    rcases ret_cases h.wellFormed with ⟨-, hret⟩ | ⟨-, address, htop, hret⟩
    · rw [execute, hret]
      exact hstay
    · rw [execute, hret]
      have hle := h.stack.le _ _ htop
      show (address.toNat : Int) ≤ 0x10FE
      omega
  | call a =>
    rcases call_cases h.wellFormed a with ⟨-, hcall⟩ | ⟨-, stack, -, hcall⟩
    · rw [execute, hcall]
      exact hstay
    · rw [execute, hcall]
      have ha := a.isLt
      show (a.val : Int) ≤ 0x10FE
      omega
  | jump a =>
    have ha := a.isLt
    show (a.val : Int) ≤ 0x10FE
    omega
  | jumpOffset a =>
    -- The furthest of all: `0xFFF + 0xFF`.
    have ha := a.isLt
    have hv : IsByte (c.v .zero) := h.wellFormed.v .zero
    show a.val + c.v .zero ≤ 0x10FE
    omega
  | skipEqByte x kk | skipNeByte x kk => exact skipIf_pc_le h.wellFormed hhigh _
  | skipEq x y | skipNe x y => exact skipIf_pc_le h.wellFormed hhigh _
  | skipKey x | skipNoKey x => exact skipIf_pc_le h.wellFormed hhigh _
  | awaitKey x =>
    show (c.awaitKey x).registers.pc ≤ 0x10FE
    rcases c.awaitKey_cases x with ⟨key, -, hc⟩ | ⟨-, -, hc⟩ | ⟨-, -, hc⟩
    · rw [hc]
      exact hstay
    · rw [hc]
      show (c.registers.pc - 2) % 65536 ≤ 0x10FE
      omega
    · rw [hc]
      exact hstay
  | _ => exact absurd rfl hi

theorem execute_stack_orderly (h : c.Orderly) (hlow : 2 ≤ c.registers.pc)
    (hhigh : c.registers.pc ≤ 0x1000) (i : Instr) :
    (c.execute i).state.memory.stack.Orderly (c.execute i).state.registers.sp := by
  rcases execute_calls_cases h.wellFormed i with hsame | ⟨-, -, address, -, hc⟩ |
    ⟨addr, stack, -, hslot, hput, hc⟩
  · rw [hsame.stack, hsame.sp]
    exact h.stack
  · rw [hc]
    exact h.stack.mono (Int.sub_le_self _ (by decide))
  · rw [hc]
    -- The address that is pushed is that of the instruction behind the call.
    have hword := Word.toNat_ofInt c.registers.pc
    exact h.stack.push h.wellFormed.sp.1 hslot hput (by omega) (by omega)

/-- An instruction keeps the order, whether it fails or not, if it runs behind its fetch. -/
theorem execute_orderly (h : c.Orderly) (hlow : 2 ≤ c.registers.pc)
    (hhigh : c.registers.pc ≤ 0x1000) (i : Instr) : (c.execute i).state.Orderly :=
  ⟨execute_wellFormed h.wellFormed i, execute_pc_le h hlow hhigh i,
    execute_stack_orderly h hlow hhigh i⟩

end Core
end Chip8
