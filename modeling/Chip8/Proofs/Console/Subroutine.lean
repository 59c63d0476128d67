/-
Subroutines.

A call keeps its return address in the slot above those of the calls that were open before it.
While the subroutine runs, calls that it makes use the slots further up, so that the return that
closes it finds the address there, and the slots below as they were, whatever the subroutine did to
the rest of the machine.

* `Inside.holds` : what a call left on the stack is there as long as the call is open;
* `ret_matches_call` : the return that closes a call goes to the instruction behind it.
-/
import Chip8.Proofs.Console.Tick

namespace Chip8.Console

/-- From one console to another by ticks that succeed, with keys going down and up between them,
and at no time with `depth` calls in progress or fewer. -/
inductive Inside (depth : Int) : Console → Console → Prop
  | refl {c : Console} (hsp : depth < c.core.registers.sp) : Inside depth c c
  | tick {c d : Console} (h : Inside depth c d) (hok : d.tick.result = .ok ())
      (hsp : depth < d.tick.state.core.registers.sp) : Inside depth c d.tick.state
  | press {c d : Console} (h : Inside depth c d) (key : Int) : Inside depth c (d.press key)
  | release {c d : Console} (h : Inside depth c d) (key : Int) : Inside depth c (d.release key)

/-- What a call made with `depth` calls in progress leaves on the call stack: its return address, on
top of what was there. -/
structure Holds (depth : Int) (address : Word) (before : CallStack) (c : Console) : Prop where
  wellFormed : c.core.WellFormed
  below : ∀ k, 0 ≤ k → k ≤ depth → c.core.memory.stack.slot? k = before.slot? k
  own : c.core.memory.stack.slot? (depth + 1) = some address

variable {depth : Int} {address : Word} {before : CallStack} {c d : Console}

theorem Holds.tick (h : Holds depth address before c) (hdepth : 0 ≤ depth)
    (hsp : depth < c.core.registers.sp) (hok : c.tick.result = .ok ()) :
    Holds depth address before c.tick.state := by
  obtain ⟨hpc, hcore⟩ := tick_core_of_ok h.wellFormed hok
  have hnext := h.wellFormed.advanced hpc
  -- All the slots in question are those of calls in progress.
  have hslot : ∀ k, 0 ≤ k → k ≤ depth + 1 →
      c.tick.state.core.memory.stack.slot? k = c.core.memory.stack.slot? k := by
    intro k h0 hk
    rw [hcore]
    refine Core.execute_slot hnext c.core.instr h0 ?_
    show k ≤ c.core.registers.sp
    omega
  refine ⟨?_, ?_, ?_⟩
  · rw [hcore]
    exact Core.execute_wellFormed hnext c.core.instr
  · intro k h0 hk
    rw [hslot k h0 (by omega)]
    exact h.below k h0 hk
  · rw [hslot (depth + 1) (by omega) (by omega)]
    exact h.own

theorem Inside.sp_lt (h : Inside depth c d) : depth < d.core.registers.sp := by
  induction h with
  | refl hsp => exact hsp
  | tick _ _ hsp _ => exact hsp
  | press _ key ih => exact ih
  | release _ key ih => exact ih

/-- What a call left on the stack stays there as long as the call is open. -/
theorem Inside.holds (h : Inside depth c d) (hdepth : 0 ≤ depth)
    (hc : Holds depth address before c) : Holds depth address before d := by
  induction h with
  | refl _ => exact hc
  | tick hin hok _ ih => exact ih.tick hdepth hin.sp_lt hok
  | press _ key ih => exact ⟨ih.wellFormed, ih.below, ih.own⟩
  | release _ key ih => exact ⟨ih.wellFormed, ih.below, ih.own⟩

/-- A call with room on the stack leaves its return address there, and calls one more. -/
theorem holds_of_call (h : c.core.WellFormed) (hpc : c.core.registers.pc ≤ 0xFFE)
    {addr : Addr} (hcall : c.core.instr = .call addr) (hsp : c.core.registers.sp ≤ 14) :
    Holds c.core.registers.sp (Word.ofInt (c.core.registers.pc + 2)) c.core.memory.stack
      c.tick.state := by
  have hlt : c.core.registers.pc < 0xFFF := by omega
  have hnext := h.advanced hlt
  have hclear : c.core.fault? = none := by
    refine Core.fault?_eq_none_iff.mpr ⟨hlt, ?_⟩
    rw [hcall, Core.obstacle?, if_neg (by omega)]
  obtain ⟨-, hcore⟩ := tick_core_of_ok h (by rw [tick_of_clear h hclear])
  rw [hcall, Core.execute] at hcore
  rcases Core.call_cases hnext addr with ⟨h15, -⟩ | ⟨hslot, stack, hput, hc⟩
  · have hsp15 : c.core.registers.sp = 15 := h15
    omega
  · rw [hc] at hcore
    refine ⟨?_, ?_, ?_⟩
    · rw [hcore, ← congrArg Outcome.state hc]
      exact hnext.call addr
    · intro k h0 hk
      rw [hcore]
      have := h.sp
      have hk' : k ≠ c.core.registers.sp + 1 := by omega
      exact CallStack.slot?_put_of_ne hput hslot (by omega) hk'
    · rw [hcore]
      exact CallStack.slot?_put_self hput

/-- **The return that closes a call matches it**: it goes to the instruction behind the call, and
leaves the calls that were in progress before as they were. -/
theorem ret_matches_call (h : c.core.WellFormed) (hpc : c.core.registers.pc ≤ 0xFFE)
    {addr : Addr} (hcall : c.core.instr = .call addr) (hsp : c.core.registers.sp ≤ 14)
    (hrun : Inside c.core.registers.sp c.tick.state d) (hok : d.tick.result = .ok ())
    (hback : d.tick.state.core.registers.sp = c.core.registers.sp) :
    d.core.instr = .ret ∧ d.tick.state.core.registers.pc = c.core.registers.pc + 2 ∧
      ∀ k, 0 ≤ k → k ≤ c.core.registers.sp →
        d.tick.state.core.memory.stack.slot? k = c.core.memory.stack.slot? k := by
  have hopen := hrun.holds h.sp.1 (holds_of_call h hpc hcall hsp)
  have hdeep := hrun.sp_lt
  have hclosed := hopen.tick h.sp.1 hdeep hok
  obtain ⟨hlt, hcore⟩ := tick_core_of_ok hopen.wellFormed hok
  have hnext := hopen.wellFormed.advanced hlt
  have hlow : (d.core.advanced.execute d.core.instr).state.registers.sp <
      d.core.advanced.registers.sp := by
    rw [← hcore, hback]
    exact hdeep
  obtain ⟨hret, address, htop, hstate⟩ := Core.ret_of_sp_lt hnext hlow
  refine ⟨hret, ?_, hclosed.below⟩
  rw [hcore, hstate] at hback ⊢
  -- The stack pointer went down by one, so the address came from the slot of the call.
  have hone : d.core.registers.sp - 1 = c.core.registers.sp := hback
  have hown := hopen.own
  rw [show c.core.registers.sp + 1 = d.core.registers.sp by omega] at hown
  have haddress : address = Word.ofInt (c.core.registers.pc + 2) :=
    Option.some_inj.mp (htop.symm.trans hown)
  show (address.toNat : Int) = c.core.registers.pc + 2
  rw [haddress, Word.toNat_ofInt]
  have := h.pc
  omega

/-- A program that calls `0x004`, from where a return leads back to `0x002`; a key goes down on the
way. -/
theorem ret_matches_call_between_keys :
    (holding [0x20, 0x04, 0, 0, 0, 0xEE]).core.WellFormed ∧
      Inside 0 (holding [0x20, 0x04, 0, 0, 0, 0xEE]).tick.state
        ((holding [0x20, 0x04, 0, 0, 0, 0xEE]).tick.state.press 5) ∧
      ((holding [0x20, 0x04, 0, 0, 0, 0xEE]).tick.state.press 5).tick.state.core.registers.pc
        = 0x002 := by
  have h : (holding [0x20, 0x04, 0, 0, 0, 0xEE]).core.WellFormed := by decide +kernel
  have hcall : (holding [0x20, 0x04, 0, 0, 0, 0xEE]).core.instr = .call 0x004 := by
    decide +kernel
  have hrun : Inside 0 (holding [0x20, 0x04, 0, 0, 0, 0xEE]).tick.state
      ((holding [0x20, 0x04, 0, 0, 0, 0xEE]).tick.state.press 5) :=
    (Inside.refl (by decide +kernel)).press 5
  have hok := congrArg Outcome.result (tick_of_clear
    (c := (holding [0x20, 0x04, 0, 0, 0, 0xEE]).tick.state.press 5) (by decide +kernel)
    (by decide +kernel))
  refine ⟨h, hrun, ?_⟩
  exact (ret_matches_call h (by decide +kernel) hcall (by decide +kernel) hrun hok
    (by decide +kernel)).2.1

end Chip8.Console
