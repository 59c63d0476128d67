/-
What instructions change.

Only calls and returns touch the call stack and its pointer; what they do when there is room, and
when there is something to return to, is said in full here.  Every instruction keeps the registers
in range, also one that fails.

* `ret_cases`, `call_cases` : all that a return and a call can do;
* `execute_calls_cases` : all that an instruction can do to the calls in progress;
* `execute_slot`, `ret_of_sp_lt` : they are safe from everything but their returns;
* `execute_pc` : which instructions leave the program counter alone;
* `execute_keys` : they all leave the keys alone;
* `execute_wellFormed` : no instruction takes a register out of its range.
-/
import Chip8.Proofs.Core.Range

namespace Chip8

/-- A guarded call keeps what neither of its two states changes. -/
theorem Outcome.guarded_keeps {σ τ : Type} (f : σ → τ) {before after : σ}
    (h : f after = f before) (check : Except Error Unit) :
    f (guarded before check after).state = f before := by
  cases check with
  | ok _ => exact h
  | error e => rfl

theorem Outcome.guarded_of {σ : Type} {P : σ → Prop} {before after : σ} (hb : P before)
    (ha : P after) (check : Except Error Unit) : P (guarded before check after).state := by
  cases check with
  | ok _ => exact ha
  | error e => exact hb

/-- A guarded call on a part, for the whole. -/
theorem Outcome.guarded_within {σ τ : Type} (before after : σ) (check : Except Error Unit)
    (put : σ → τ) :
    (guarded before check after).within put = guarded (put before) check (put after) := by
  cases check <;> rfl

namespace CallStack

theorem exists_slot (s : CallStack) {k : Int} (hk : IsSlot k) :
    ∃ address, s.slot? k = some address := by
  have hlt : k.toNat < 16 := by
    omega
  rw [slot?, position?_of_lt hk.1 hk.2]
  exact ⟨s.slots[k.toNat], by simp [hlt]⟩

theorem exists_put (s : CallStack) {k : Int} (hk : IsSlot k) (address : Word) :
    ∃ s', s.put? k address = some s' := by
  rw [put?, position?_of_lt hk.1 hk.2]
  exact ⟨_, rfl⟩

/-- Storing into one slot leaves the others as they were. -/
theorem slot?_put_of_ne {s s' : CallStack} {k j : Int} {address : Word}
    (h : s.put? k address = some s') (hk : IsSlot k) (hj : IsSlot j) (hne : j ≠ k) :
    s'.slot? j = s.slot? j := by
  rw [slot?_of_put? h, position?_of_lt hk.1 hk.2, position?_of_lt hj.1 hj.2, if_neg]
  rw [Option.some_inj]
  omega

theorem slot?_put_self {s s' : CallStack} {k : Int} {address : Word}
    (h : s.put? k address = some s') : s'.slot? k = some address := by
  rw [slot?_of_put? h, if_pos rfl]

end CallStack

/-- Whether an instruction can go elsewhere than to the next one. -/
def Instr.steers : Instr → Bool
  | .ret | .jump _ | .call _ | .jumpOffset _ => true
  | .skipEqByte _ _ | .skipNeByte _ _ | .skipEq _ _ | .skipNe _ _ => true
  | .skipKey _ | .skipNoKey _ | .awaitKey _ => true
  | _ => false

namespace Core

open Registers

variable {c : Core}

/-! ### Calls and returns -/

/-- Two machines have the same calls in progress. -/
structure SameCalls (c d : Core) : Prop where
  stack : d.memory.stack = c.memory.stack
  sp : d.registers.sp = c.registers.sp

theorem SameCalls.refl : c.SameCalls c := ⟨rfl, rfl⟩

/-- The machine behind a return to an address. -/
def returned (c : Core) (address : Word) : Core :=
  c.withRegisters { c.registers with pc := address.toNat, sp := c.registers.sp - 1 }

/-- A return fails with an empty call stack, and otherwise goes to the address on top. -/
theorem ret_cases (h : c.WellFormed) :
    (c.registers.sp = 0 ∧ c.ret = .failed c (Cause.stackUnderflow c.registers.sp).raise) ∨
    (1 ≤ c.registers.sp ∧ ∃ address, c.memory.stack.slot? c.registers.sp = some address ∧
      c.ret = .done (c.returned address) ()) := by
  by_cases hsp : c.registers.sp = 0
  · exact .inl ⟨hsp, by rw [ret, if_pos hsp]⟩
  · obtain ⟨address, htop⟩ := c.memory.stack.exists_slot h.sp
    refine .inr ⟨by have := h.sp; omega, address, htop, ?_⟩
    simp only [ret, if_neg hsp, CallStack.read, htop]
    rfl

/-- The machine behind a call of an address that leaves `stack` as the call stack. -/
def entered (c : Core) (addr : Addr) (stack : CallStack) : Core :=
  { c with
    registers := { c.registers with pc := addr.val, sp := c.registers.sp + 1 }
    memory := { c.memory with stack := stack } }

/-- A call fails with a full call stack, and otherwise leaves its own return address on top. -/
theorem call_cases (h : c.WellFormed) (addr : Addr) :
    (c.registers.sp = 15 ∧
      c.call addr = .failed c (Cause.stackOverflow c.registers.sp).raise) ∨
    (IsSlot (c.registers.sp + 1) ∧ ∃ stack,
      c.memory.stack.put? (c.registers.sp + 1) (Word.ofInt c.registers.pc) = some stack ∧
      c.call addr = .done (c.entered addr stack) ()) := by
  have hslot := h.sp
  by_cases hsp : 16 ≤ c.registers.sp + 1
  · exact .inl ⟨by omega, by rw [call, if_pos hsp]⟩
  · have hnext : IsSlot (c.registers.sp + 1) := by omega
    obtain ⟨stack, hput⟩ := c.memory.stack.exists_put hnext (Word.ofInt c.registers.pc)
    refine .inr ⟨hnext, stack, hput, ?_⟩
    have hwrite := CallStack.write_eq_ok_iff.mpr ⟨hput, h.pc.1, h.pc.2⟩
    simp only [call, if_neg hsp, hwrite]
    rfl

/-! ### The parts that an instruction leaves alone -/

/-- With all keys up, waiting goes back to the instruction that waits. -/
theorem awaitKey_of_none (x : Reg) (hkeys : c.keys.first? = none) (hwait : c.waitForKey = true) :
    c.awaitKey x = c.jump ((c.registers.pc - 2) % 65536) := by
  rw [awaitKey, hkeys]
  exact if_pos hwait

/-- Waiting for a key sets a register to its number, or goes back, or does nothing. -/
theorem awaitKey_cases (x : Reg) :
    (∃ key, c.keys.first? = some key ∧ c.awaitKey x = c.put x key) ∨
    (c.keys.first? = none ∧ c.waitForKey = true ∧
      c.awaitKey x = c.jump ((c.registers.pc - 2) % 65536)) ∨
    (c.keys.first? = none ∧ c.waitForKey = false ∧ c.awaitKey x = c) := by
  rw [awaitKey]
  cases c.keys.first? with
  | some key => exact .inl ⟨key, rfl, rfl⟩
  | none => cases c.waitForKey <;> simp

theorem skipIf_sameCalls (condition : Bool) : c.SameCalls (c.skipIf condition) := by
  refine ⟨rfl, ?_⟩
  rw [skipIf, Registers.skipIf]
  split <;> rfl

theorem awaitKey_sameCalls (x : Reg) : c.SameCalls (c.awaitKey x) := by
  rcases c.awaitKey_cases x with ⟨key, -, h⟩ | ⟨-, -, h⟩ | ⟨-, -, h⟩
  · rw [h]
    exact ⟨rfl, rfl⟩
  · rw [h]
    exact ⟨rfl, rfl⟩
  · rw [h]
    exact .refl

/-- Instructions that neither call nor return leave the calls in progress alone. -/
theorem execute_sameCalls (c : Core) {i : Instr} (hcall : ∀ addr, i ≠ .call addr)
    (hret : i ≠ .ret) : c.SameCalls (c.execute i).state := by
  cases i with
  | call addr => exact absurd rfl (hcall addr)
  | ret => exact absurd rfl hret
  | skipEqByte x kk | skipNeByte x kk => exact skipIf_sameCalls _
  | skipEq x y | skipNe x y => exact skipIf_sameCalls _
  | skipKey x | skipNoKey x => exact skipIf_sameCalls _
  | awaitKey x => exact awaitKey_sameCalls x
  | draw x y n =>
    simp only [execute]
    split
    · exact ⟨rfl, rfl⟩
    · exact Outcome.guarded_of .refl ⟨rfl, rfl⟩ _
  | storeDecimal x | storeRegs x => exact Outcome.guarded_of .refl ⟨rfl, rfl⟩ _
  | loadRegs x => exact Outcome.guarded_of .refl ⟨rfl, putAll_sp _ _⟩ _
  | _ => exact ⟨rfl, rfl⟩

/-- What an instruction does to the calls in progress: it leaves them alone, or it closes the last
one, or it opens one more. -/
theorem execute_calls_cases (h : c.WellFormed) (i : Instr) :
    c.SameCalls (c.execute i).state ∨
    (i = .ret ∧ 1 ≤ c.registers.sp ∧ ∃ address,
      c.memory.stack.slot? c.registers.sp = some address ∧
      (c.execute i).state = c.returned address) ∨
    (∃ addr stack, i = .call addr ∧ IsSlot (c.registers.sp + 1) ∧
      c.memory.stack.put? (c.registers.sp + 1) (Word.ofInt c.registers.pc) = some stack ∧
      (c.execute i).state = c.entered addr stack) := by
  -- A call and a return that fail leave everything alone, as all other instructions do.
  by_cases hcall : ∃ addr, i = .call addr
  · obtain ⟨addr, rfl⟩ := hcall
    rcases call_cases h addr with ⟨-, hc⟩ | ⟨hslot, stack, hput, hc⟩
    · left
      rw [execute, hc]
      exact .refl
    · refine .inr (.inr ⟨addr, stack, rfl, hslot, hput, ?_⟩)
      rw [execute, hc]
      rfl
  by_cases hret : i = .ret
  · subst hret
    rcases ret_cases h with ⟨-, hc⟩ | ⟨hsp, address, htop, hc⟩
    · left
      rw [execute, hc]
      exact .refl
    · refine .inr (.inl ⟨rfl, hsp, address, htop, ?_⟩)
      rw [execute, hc]
      rfl
  · exact .inl (execute_sameCalls c (fun addr ha => hcall ⟨addr, ha⟩) hret)

/-- No instruction changes the slots of the calls in progress, or the lowest slot. -/
theorem execute_slot (h : c.WellFormed) (i : Instr) {k : Int} (h0 : 0 ≤ k)
    (hk : k ≤ c.registers.sp) :
    (c.execute i).state.memory.stack.slot? k = c.memory.stack.slot? k := by
  rcases execute_calls_cases h i with hsame | ⟨-, -, address, -, hc⟩ |
    ⟨addr, stack, -, hslot, hput, hc⟩
  · rw [hsame.stack]
  · rw [hc]
    rfl
  · rw [hc]
    -- The slot that a call takes is above those in use.
    exact CallStack.slot?_put_of_ne hput hslot (by omega) (by omega)

/-- Only a return takes the stack pointer down, and it goes to the address on top. -/
theorem ret_of_sp_lt (h : c.WellFormed) {i : Instr}
    (hlt : (c.execute i).state.registers.sp < c.registers.sp) :
    i = .ret ∧ ∃ address, c.memory.stack.slot? c.registers.sp = some address ∧
      (c.execute i).state = c.returned address := by
  rcases execute_calls_cases h i with hsame | ⟨hi, -, address, htop, hc⟩ |
    ⟨addr, stack, -, -, -, hc⟩
  · rw [hsame.sp] at hlt
    exact absurd hlt (Int.lt_irrefl _)
  · exact ⟨hi, address, htop, hc⟩
  · rw [hc] at hlt
    have hup : c.registers.sp + 1 < c.registers.sp := hlt
    omega

/-- Only instructions that can go elsewhere move the program counter. -/
theorem execute_pc (c : Core) {i : Instr} (hi : i.steers = false) :
    (c.execute i).state.registers.pc = c.registers.pc := by
  cases i with
  | draw x y n =>
    simp only [execute]
    split
    · rfl
    · exact Outcome.guarded_keeps (fun c : Core => c.registers.pc) (by rfl) _
  | storeDecimal x | storeRegs x =>
    exact Outcome.guarded_keeps (fun c : Core => c.registers.pc) (by rfl) _
  | loadRegs x =>
    refine Outcome.guarded_keeps (fun c : Core => c.registers.pc) ?_ _
    exact Registers.putAll_pc _ _
  | ret => cases hi
  | jump a | call a | jumpOffset a => cases hi
  | skipEqByte x kk | skipNeByte x kk => cases hi
  | skipEq x y | skipNe x y => cases hi
  | skipKey x | skipNoKey x | awaitKey x => cases hi
  | _ => rfl

/-- No instruction presses a key or lets one go. -/
theorem execute_keys (c : Core) (i : Instr) : (c.execute i).state.keys = c.keys := by
  cases i with
  | ret =>
    rw [execute, ret]
    split
    · rfl
    · split <;> rfl
  | call addr =>
    rw [execute, call]
    split
    · rfl
    · dsimp only
      split <;> rfl
  | awaitKey x =>
    show (c.awaitKey x).keys = c.keys
    rcases c.awaitKey_cases x with ⟨key, -, h⟩ | ⟨-, -, h⟩ | ⟨-, -, h⟩ <;> rw [h] <;> rfl
  | draw x y n =>
    simp only [execute]
    split
    · rfl
    · exact Outcome.guarded_keeps Core.keys (by rfl) _
  | storeDecimal x | storeRegs x | loadRegs x => exact Outcome.guarded_keeps Core.keys (by rfl) _
  | _ => rfl

/-! ### The ranges -/

namespace WellFormed

theorem put (h : c.WellFormed) (x : Reg) {z : Int} (hz : IsByte z) : (c.put x z).WellFormed :=
  InRange.put h x hz

theorem putFlagged (h : c.WellFormed) (x : Reg) {z : Int} (hz : IsByte z) (raised : Bool) :
    (c.putFlagged x z raised).WellFormed :=
  InRange.flag (InRange.put h x hz) raised

theorem jump (h : c.WellFormed) {pc : Int} (hpc : IsWord pc) : (c.jump pc).WellFormed :=
  InRange.withPc h hpc

theorem index (h : c.WellFormed) {i : Int} (hi : IsWord i) : (c.index i).WellFormed :=
  InRange.withIndex h hi

theorem skipIf (h : c.WellFormed) (condition : Bool) : (c.skipIf condition).WellFormed :=
  InRange.skipIf h condition

theorem draw (h : c.WellFormed) (x y : Reg) (n : Nat) : (c.draw x y n).WellFormed :=
  InRange.flag h _

theorem store (h : c.WellFormed) (row : List UInt8) : (c.store row).WellFormed := h

/-- Bytes of memory are bytes in registers too. -/
theorem load (h : c.WellFormed) (row : List UInt8) :
    (c.withRegisters (c.registers.putAll (row.map fun b => (b.toNat : Int)))).WellFormed := by
  refine InRange.putAll h fun z hz => ?_
  obtain ⟨b, -, rfl⟩ := List.mem_map.mp hz
  exact isByte_toNat b

theorem awaitKey (h : c.WellFormed) (x : Reg) : (c.awaitKey x).WellFormed := by
  rcases c.awaitKey_cases x with ⟨key, hkey, hc⟩ | ⟨-, -, hc⟩ | ⟨-, -, hc⟩
  · rw [hc]
    refine h.put x ?_
    have hlt := List.mem_range.mp (List.mem_of_find?_eq_some hkey)
    omega
  · rw [hc]
    exact h.jump (isWord_emod _)
  · rw [hc]
    exact h

theorem ret (h : c.WellFormed) : c.ret.state.WellFormed := by
  rcases ret_cases h with ⟨-, hret⟩ | ⟨hsp, address, -, hret⟩
  · rw [hret]
    exact h
  · rw [hret]
    have hslot : IsSlot (c.registers.sp - 1) := by
      have := h.sp
      omega
    exact ⟨h.v, h.i, isWord_toNat address, hslot, h.delay, h.sound⟩

theorem call (h : c.WellFormed) (addr : Addr) : (c.call addr).state.WellFormed := by
  rcases call_cases h addr with ⟨-, hcall⟩ | ⟨hslot, stack, -, hcall⟩
  · rw [hcall]
    exact h
  · rw [hcall]
    have haddr : IsWord addr.val := by
      have := addr.isLt
      omega
    exact ⟨h.v, h.i, haddr, hslot, h.delay, h.sound⟩

end WellFormed

/-- No instruction takes a register out of its range, whether it fails or not. -/
theorem execute_wellFormed (h : c.WellFormed) (i : Instr) : (c.execute i).state.WellFormed := by
  cases i with
  | clear | sys _ | unknown _ => exact h
  | ret => exact h.ret
  | call a => exact h.call a
  | jump a =>
    refine h.jump ?_
    have := a.isLt
    omega
  | jumpOffset a =>
    -- Not masked either.
    refine h.jump ?_
    have ha := a.isLt
    have hv : IsByte (c.v .zero) := h.v .zero
    omega
  | skipEqByte x kk | skipNeByte x kk => exact h.skipIf _
  | skipEq x y | skipNe x y => exact h.skipIf _
  | skipKey x | skipNoKey x => exact h.skipIf _
  | loadByte x kk => exact h.put x (isByte_toNat kk)
  | random x kk => exact h.put x (isByte_toNat _)
  | addByte x kk => exact h.put x (isByte_emod _)
  | copy x y => exact h.put x (h.v y)
  | or x y => exact h.put x ((h.v x).or (h.v y))
  | and x y => exact h.put x ((h.v x).and (h.v y))
  | xor x y => exact h.put x ((h.v x).xor (h.v y))
  | add x y | sub x y | subFrom x y => exact h.putFlagged x (isByte_emod _) _
  | shiftRight x => exact h.putFlagged x (h.v x).half _
  | shiftLeft x => exact h.putFlagged x (isByte_emod _) _
  | loadIndex a =>
    refine h.index ?_
    have := a.isLt
    omega
  | addIndex x => exact h.index (isWord_emod _)
  | fontIndex x =>
    -- Nothing is masked here: five times a byte is far from the end of a word.
    refine h.index ?_
    have hv : IsByte (c.v x) := h.v x
    show 0 ≤ 80 + c.v x * 5 ∧ 80 + c.v x * 5 < 65536
    omega
  | draw x y n =>
    simp only [execute]
    split
    · exact h.draw x y n.val
    · exact Outcome.guarded_of h (h.draw x y n.val) _
  | readDelay x => exact h.put x h.delay
  | awaitKey x => exact h.awaitKey x
  | setDelay x => exact ⟨h.v, h.i, h.pc, h.sp, h.v x, h.sound⟩
  | setSound x => exact ⟨h.v, h.i, h.pc, h.sp, h.delay, h.v x⟩
  | storeDecimal x | storeRegs x => exact Outcome.guarded_of h (h.store _) _
  | loadRegs x => exact Outcome.guarded_of h (h.load _) _

end Core
end Chip8
