/-
The footprint of an instruction.

An instruction writes little: at most sixteen bytes of memory from I on, one register or the flag
register beside it, and one or two of the other parts of the machine.  `Instr.sets`,
`Instr.setsIndex` and `Instr.stores` say for the larger parts what an instruction may write, and the
rest of the machine is as it was before.

* `execute_confined` : V0 to VF, I and memory change only where the instruction may write;
* `execute_footprint` : the whole machine, for a word and what it decodes to.
-/
import Chip8.Proofs.Core.Periphery

namespace Chip8

namespace Instr

/-- The first register that an instruction names. -/
def x? : Instr → Option Reg
  | .skipEqByte x _ | .skipNeByte x _ | .skipEq x _ | .skipNe x _ => some x
  | .skipKey x | .skipNoKey x => some x
  | .loadByte x _ | .addByte x _ | .random x _ | .readDelay x | .awaitKey x => some x
  | .copy x _ | .or x _ | .and x _ | .xor x _ => some x
  | .add x _ | .sub x _ | .subFrom x _ | .shiftRight x | .shiftLeft x => some x
  | .draw x _ _ | .setDelay x | .setSound x | .addIndex x | .fontIndex x => some x
  | .storeDecimal x | .storeRegs x | .loadRegs x => some x
  | _ => none

/-- Whether an instruction may set a register. -/
def sets (r : Reg) : Instr → Bool
  | .loadByte x _ | .addByte x _ | .random x _ | .readDelay x | .awaitKey x => r = x
  | .copy x _ | .or x _ | .and x _ | .xor x _ => r = x
  | .add x _ | .sub x _ | .subFrom x _ | .shiftRight x | .shiftLeft x => r = x ∨ r = .flag
  | .draw _ _ _ => r = .flag
  | .loadRegs x => r ≤ x
  | _ => false

/-- Whether an instruction may set I. -/
def setsIndex : Instr → Bool
  | .loadIndex _ | .addIndex _ | .fontIndex _ => true
  | _ => false

/-- How many bytes an instruction may write, from I on. -/
def stores : Instr → Nat
  | .storeDecimal _ => 3
  | .storeRegs x => x.val + 1
  | _ => 0

theorem x?_decodeArithmetic {w : Word} {x : Reg} (h : (decodeArithmetic w).x? = some x) :
    x = w.x := by
  rw [decodeArithmetic] at h
  split at h <;> simp_all [x?]

theorem x?_decodeTransfer {w : Word} {x : Reg} (h : (decodeTransfer w).x? = some x) :
    x = w.x := by
  rw [decodeTransfer] at h
  split at h <;> simp_all [x?]

/-- The first register that an instruction names is in the second nibble of its word. -/
theorem x?_decode {w : Word} {x : Reg} (h : (decode w).x? = some x) : x = w.x := by
  rw [decode] at h
  split at h
  -- The families `0x0`, `0x8`, `0xE` and `0xF` are told apart further.
  case h_1 =>
    split at h
    · cases h
    · split at h <;> cases h
  case h_9 => exact x?_decodeArithmetic h
  case h_15 =>
    split at h
    · exact (Option.some_inj.mp h).symm
    · split at h
      · exact (Option.some_inj.mp h).symm
      · cases h
  case h_16 => exact x?_decodeTransfer h
  all_goals simp_all [x?]

end Instr

def Word.opcode (w : Word) : Opcode := (Instr.decode w).opcode

namespace Core

variable {c : Core} {i : Instr}

/-- The machine `d` differs from `c` in V0 to VF, I and memory only where the instruction may write,
and has the same keys and settings. -/
structure Confined (i : Instr) (c d : Core) : Prop where
  v : ∀ r, i.sets r = false → d.v r = c.v r
  index : i.setsIndex = false → d.registers.i = c.registers.i
  ram : ∀ k : Nat, k < c.registers.i ∨ c.registers.i + i.stores ≤ k →
    d.memory.ram.byte k = c.memory.ram.byte k
  keys : d.keys = c.keys
  waitForKey : d.waitForKey = c.waitForKey

namespace Confined

theorem refl : Confined i c c := ⟨fun _ _ => rfl, fun _ => rfl, fun _ _ => rfl, rfl, rfl⟩

/-- Other registers, where they may be other. -/
theorem withRegisters {r : Registers} (hv : ∀ x, i.sets x = false → r.get x = c.registers.get x)
    (hindex : i.setsIndex = false → r.i = c.registers.i) : Confined i c (c.withRegisters r) :=
  ⟨hv, hindex, fun _ _ => rfl, rfl, rfl⟩

theorem jump (pc : Int) : Confined i c (c.jump pc) := withRegisters (fun _ _ => rfl) fun _ => rfl

theorem skipIf (condition : Bool) : Confined i c (c.skipIf condition) := by
  cases condition with
  | true => exact jump _
  | false => exact refl

theorem index_of_sets (hi : i.setsIndex = true) (z : Int) : Confined i c (c.index z) :=
  withRegisters (fun _ _ => rfl) fun hn => by simp [hi] at hn

/-- Setting a register that may be set leaves those alone that may not. -/
theorem get_put_of_sets {r : Registers} {x y : Reg} (hx : i.sets x = true) (hy : i.sets y = false)
    (z : Int) : (r.put x z).get y = r.get y := by
  have hne : x ≠ y := by
    rintro rfl
    simp [hx] at hy
  rw [Registers.get_put, if_neg hne]

theorem put {x : Reg} (hx : i.sets x = true) (z : Int) : Confined i c (c.put x z) :=
  withRegisters (fun _ hy => get_put_of_sets hx hy z) fun _ => rfl

theorem putFlagged {x : Reg} (hx : i.sets x = true) (hflag : i.sets .flag = true) (z : Int)
    (raised : Bool) : Confined i c (c.putFlagged x z raised) :=
  withRegisters (fun _ hy => (get_put_of_sets hflag hy _).trans (get_put_of_sets hx hy z))
    fun _ => rfl

/-- Writing a row of bytes that may be written. -/
theorem store {row : List UInt8} (hindex : 0 ≤ c.registers.i) (hrow : row.length = i.stores) :
    Confined i c (c.store row) where
  v _ _ := rfl
  index _ := rfl
  ram k hk := Ram.byte_splice_outside _ (by omega)
  keys := rfl
  waitForKey := rfl

theorem draw (x y : Reg) (n : Fin 16) : Confined (.draw x y n) c (c.draw x y n.val) :=
  ⟨fun _ hr => get_put_of_sets (by simp [Instr.sets]) hr _, fun _ => rfl, fun _ _ => rfl, rfl, rfl⟩

/-- Reading registers from memory. -/
theorem load {x : Reg} {row : List Int} (hrow : row.length = x.val + 1) :
    Confined (.loadRegs x) c (c.withRegisters (c.registers.putAll row)) := by
  refine withRegisters (fun y hy => ?_) fun _ => Registers.putAll_i _ _
  have hlt : x < y := by simpa [Instr.sets] using hy
  have hbehind : row.length ≤ y.val := by
    rw [hrow]
    exact hlt
  rw [Registers.get_putAll, List.getElem?_eq_none hbehind]
  rfl

theorem awaitKey (x : Reg) : Confined (.awaitKey x) c (c.awaitKey x) := by
  rcases c.awaitKey_cases x with ⟨key, -, h⟩ | ⟨-, -, h⟩ | ⟨-, -, h⟩
  · rw [h]
    exact put (by simp [Instr.sets]) _
  · rw [h]
    exact jump _
  · rw [h]
    exact refl

theorem ret (h : c.WellFormed) : Confined i c c.ret.state := by
  rcases ret_cases h with ⟨-, hret⟩ | ⟨-, address, -, hret⟩
  · rw [hret]
    exact refl
  · rw [hret]
    exact ⟨fun _ _ => rfl, fun _ => rfl, fun _ _ => rfl, rfl, rfl⟩

theorem call (h : c.WellFormed) (addr : Addr) : Confined i c (c.call addr).state := by
  rcases call_cases h addr with ⟨-, hcall⟩ | ⟨-, stack, -, hcall⟩
  · rw [hcall]
    exact refl
  · rw [hcall]
    exact ⟨fun _ _ => rfl, fun _ => rfl, fun _ _ => rfl, rfl, rfl⟩

end Confined

/-- No instruction writes elsewhere than it may, whether it fails or not. -/
theorem execute_confined (h : c.WellFormed) (i : Instr) : Confined i c (c.execute i).state := by
  cases i with
  | ret => exact .ret h
  | call addr => exact .call h addr
  | sys _ | unknown _ => exact .refl
  | clear | setDelay x | setSound x =>
    exact ⟨fun _ _ => rfl, fun _ => rfl, fun _ _ => rfl, rfl, rfl⟩
  | jump a | jumpOffset a => exact .jump _
  | skipEqByte x kk | skipNeByte x kk => exact .skipIf _
  | skipEq x y | skipNe x y => exact .skipIf _
  | skipKey x | skipNoKey x => exact .skipIf _
  | loadByte x kk | addByte x kk => exact .put (by simp [Instr.sets]) _
  | copy x y | or x y | and x y | xor x y => exact .put (by simp [Instr.sets]) _
  | readDelay x => exact .put (by simp [Instr.sets]) _
  | random x kk =>
    have hput : Confined (.random x kk) c (c.put x (c.noise.next &&& kk).toNat) :=
      .put (by simp [Instr.sets]) _
    exact ⟨hput.v, hput.index, hput.ram, rfl, rfl⟩
  | add x y | sub x y | subFrom x y =>
    exact .putFlagged (by simp [Instr.sets]) (by simp [Instr.sets]) _ _
  | shiftRight x | shiftLeft x =>
    exact .putFlagged (by simp [Instr.sets]) (by simp [Instr.sets]) _ _
  | loadIndex a => exact .index_of_sets rfl _
  | addIndex x | fontIndex x => exact .index_of_sets rfl _
  | awaitKey x => exact .awaitKey x
  | draw x y n =>
    rw [execute_draw]
    exact Outcome.guarded_of .refl (.draw x y n) _
  | storeDecimal x =>
    exact Outcome.guarded_of .refl (.store h.i.1 rfl) _
  | storeRegs x =>
    refine Outcome.guarded_of .refl (.store h.i.1 ?_) _
    rw [bytes, List.length_map, length_upTo]
    rfl
  | loadRegs x =>
    refine Outcome.guarded_of .refl (.load ?_) _
    rw [List.length_map, atIndex, Ram.length_slice]

/-! ### The operations that may write to a part -/

theorem draws_decode (w : Word) :
    (Instr.decode w).draws = decide (w.opcode ∈ [Opcode.clear, .draw]) := by
  rw [Word.opcode]
  cases Instr.decode w <;> rfl

theorem mem_of_setsIndex {w : Word} (h : (Instr.decode w).setsIndex = true) :
    w.opcode ∈ [.loadIndex, .addIndex, .fontIndex] := by
  rw [Word.opcode]
  generalize Instr.decode w = i at h ⊢
  cases i <;> simp_all [Instr.setsIndex, Instr.opcode]

theorem mem_of_steers {w : Word} (h : (Instr.decode w).steers = true) :
    w.opcode ∈ [.jump, .jumpOffset, .call, .ret, .skipEqByte, .skipNeByte, .skipEq, .skipNe,
      .skipKey, .skipNoKey, .awaitKey] := by
  rw [Word.opcode]
  generalize Instr.decode w = i at h ⊢
  cases i <;> simp_all [Instr.steers, Instr.opcode]

/-- How many bytes a word may write. -/
theorem stores_cases (w : Word) :
    (Instr.decode w).stores = 0 ∨
    (w.opcode = .storeDecimal ∧ (Instr.decode w).stores = 3) ∨
    (w.opcode = .storeRegs ∧ (Instr.decode w).stores = w.x.val + 1) := by
  have hx := fun x => Instr.x?_decode (w := w) (x := x)
  rw [Word.opcode]
  generalize Instr.decode w = i at hx ⊢
  cases i with
  | storeDecimal x => exact .inr (.inl ⟨rfl, rfl⟩)
  | storeRegs x =>
    rw [← hx x rfl]
    exact .inr (.inr ⟨rfl, rfl⟩)
  | _ => exact .inl rfl

/-- The registers other than Vx that a word may set. -/
theorem sets_others {w : Word} {r : Reg} (hr : (Instr.decode w).sets r = true) (hne : r ≠ w.x) :
    (r = .flag ∧ w.opcode ∈ [.add, .sub, .shiftRight, .subFrom, .shiftLeft, .draw]) ∨
    (w.opcode = .loadRegs ∧ r ≤ w.x) := by
  have hx := fun x => Instr.x?_decode (w := w) (x := x)
  rw [Word.opcode]
  generalize Instr.decode w = i at hx hr ⊢
  cases i <;> simp_all [Instr.sets, Instr.opcode, Instr.x?]

/-- The words that may set Vx. -/
theorem sets_own {w : Word} (hr : (Instr.decode w).sets w.x = true) :
    w.opcode ∈ [.loadByte, .copy, .addByte, .add, .or, .and, .xor, .sub, .subFrom, .shiftRight,
      .shiftLeft, .random, .readDelay, .awaitKey, .loadRegs] ∨
    (w.opcode = .draw ∧ w.x = .flag) := by
  rw [Word.opcode]
  generalize Instr.decode w = i at hr ⊢
  cases i <;> simp_all [Instr.sets, Instr.opcode]

/-! ### Words -/

/-- What a word may change, from the machine `c` before it to the machine `d` behind it. -/
structure Footprint (w : Word) (c d : Core) : Prop where
  ram : ∀ k : Nat, d.memory.ram.byte k ≠ c.memory.ram.byte k →
    (w.opcode = .storeDecimal ∧ c.registers.i ≤ k ∧ k ≤ c.registers.i + 2) ∨
    (w.opcode = .storeRegs ∧ c.registers.i ≤ k ∧ k ≤ c.registers.i + w.x.val)
  display : d.memory.display ≠ c.memory.display → w.opcode ∈ [.clear, .draw]
  stack : ∀ k, IsSlot k → d.memory.stack.slot? k ≠ c.memory.stack.slot? k →
    w.opcode = .call ∧ k = c.registers.sp + 1
  sp : d.registers.sp = c.registers.sp +
    if w.opcode = .call then 1 else if w.opcode = .ret then -1 else 0
  index : d.registers.i ≠ c.registers.i → w.opcode ∈ [.loadIndex, .addIndex, .fontIndex]
  delay : d.registers.delay ≠ c.registers.delay → w.opcode = .setDelay
  sound : d.registers.sound ≠ c.registers.sound → w.opcode = .setSound
  /-- The registers other than Vx. -/
  others : ∀ r, r ≠ w.x → d.v r ≠ c.v r →
    (r = .flag ∧ w.opcode ∈ [.add, .sub, .shiftRight, .subFrom, .shiftLeft, .draw]) ∨
    (w.opcode = .loadRegs ∧ r ≤ w.x)
  own : d.v w.x ≠ c.v w.x →
    w.opcode ∈ [.loadByte, .copy, .addByte, .add, .or, .and, .xor, .sub, .subFrom, .shiftRight,
      .shiftLeft, .random, .readDelay, .awaitKey, .loadRegs] ∨
    (w.opcode = .draw ∧ w.x = .flag)
  pc : d.registers.pc ≠ c.registers.pc →
    w.opcode ∈ [.jump, .jumpOffset, .call, .ret, .skipEqByte, .skipNeByte, .skipEq, .skipNe,
      .skipKey, .skipNoKey, .awaitKey]
  noise : d.noise = if w.opcode = .random then c.noise.rest else c.noise
  drawn : d.drawn = (c.drawn || decide (w.opcode ∈ [.clear, .draw]))
  keys : d.keys = c.keys
  waitForKey : d.waitForKey = c.waitForKey
  /-- Words that mean nothing here do nothing. -/
  idle : w.opcode ∈ [.sys, .unknown] → d = c

/-- An instruction that succeeds had nothing in its way. -/
theorem obstacle?_of_ok (h : c.WellFormed) (hok : (c.execute i).result = .ok ()) :
    c.obstacle? i = none := by
  cases hi : c.obstacle? i with
  | none => rfl
  | some cause =>
    rw [execute_of_obstacle h hi] at hok
    cases hok

theorem execute_sp (h : c.WellFormed) (hok : (c.execute i).result = .ok ()) :
    (c.execute i).state.registers.sp = c.registers.sp +
      if i.opcode = .call then 1 else if i.opcode = .ret then -1 else 0 := by
  have hsame : ∀ (hcall : ∀ addr, i ≠ .call addr) (hret : i ≠ .ret),
      (c.execute i).state.registers.sp = c.registers.sp :=
    fun hcall hret => (execute_sameCalls c hcall hret).sp
  cases i with
  | call addr =>
    rcases call_cases h addr with ⟨-, hcall⟩ | ⟨-, stack, -, hcall⟩
    · rw [execute, hcall] at hok
      cases hok
    · rw [execute, hcall]
      rfl
  | ret =>
    rcases ret_cases h with ⟨-, hret⟩ | ⟨-, address, -, hret⟩
    · rw [execute, hret] at hok
      cases hok
    · rw [execute, hret]
      rfl
  | _ => simp [hsame, Instr.opcode]

/-- Only a call writes to the stack, and only into the slot above those in use. -/
theorem execute_stack (h : c.WellFormed) (i : Instr) {k : Int} (hk : IsSlot k)
    (hne : (c.execute i).state.memory.stack.slot? k ≠ c.memory.stack.slot? k) :
    i.opcode = .call ∧ k = c.registers.sp + 1 := by
  rcases execute_calls_cases h i with hsame | ⟨-, -, address, -, hc⟩ |
    ⟨addr, stack, rfl, hslot, hput, hc⟩
  · rw [hsame.stack] at hne
    exact absurd rfl hne
  · rw [hc] at hne
    exact absurd rfl hne
  · refine ⟨rfl, ?_⟩
    rw [hc] at hne
    apply Classical.byContradiction
    intro hother
    exact hne (CallStack.slot?_put_of_ne hput hslot hk hother)

theorem execute_delay (c : Core) (hi : i.opcode ≠ .setDelay) :
    (c.execute i).state.registers.delay = c.registers.delay := by
  have hdelay : (c.stirred c.periphery i).delay = c.registers.delay := by
    rw [stirred]
    split
    · cases i with
      | setDelay x => exact absurd rfl hi
      | _ => rfl
    · rfl
  exact (congrArg Periphery.delay (execute_periphery c i)).trans hdelay

theorem execute_sound (c : Core) (hi : i.opcode ≠ .setSound) :
    (c.execute i).state.registers.sound = c.registers.sound := by
  have hsound : (c.stirred c.periphery i).sound = c.registers.sound := by
    rw [stirred]
    split
    · cases i with
      | setSound x => exact absurd rfl hi
      | _ => rfl
    · rfl
  exact (congrArg Periphery.sound (execute_periphery c i)).trans hsound

/-- **What an instruction changes.**  Whatever word runs through on a well-formed machine, it
changes nothing outside of its footprint, in no part of the machine. -/
theorem execute_footprint (h : c.WellFormed) (w : Word)
    (hok : (c.execute (Instr.decode w)).result = .ok ()) :
    Footprint w c (c.execute (Instr.decode w)).state := by
  have hconfined := execute_confined h (Instr.decode w)
  refine {
    ram := ?_
    display := ?_
    stack := fun k hk hne => execute_stack h _ hk hne
    sp := execute_sp h hok
    index := ?_
    delay := fun hne => Decidable.byContradiction fun hop => hne (execute_delay c hop)
    sound := fun hne => Decidable.byContradiction fun hop => hne (execute_sound c hop)
    others := ?_
    own := ?_
    pc := ?_
    noise := ?_
    drawn := ?_
    keys := hconfined.keys
    waitForKey := hconfined.waitForKey
    idle := ?_ }
  · intro k hne
    have hinside : ¬(k < c.registers.i ∨ c.registers.i + (Instr.decode w).stores ≤ k) :=
      fun houtside => hne (hconfined.ram k houtside)
    rcases stores_cases w with hnone | ⟨hop, hthree⟩ | ⟨hop, hrow⟩
    · omega
    · exact .inl ⟨hop, by omega, by omega⟩
    · exact .inr ⟨hop, by omega, by omega⟩
  · intro hne
    cases hdraw : (Instr.decode w).draws with
    | true => simpa [draws_decode] using hdraw
    | false => exact absurd (execute_sameScreen h hdraw).display hne
  · intro hne
    cases hindex : (Instr.decode w).setsIndex with
    | true => exact mem_of_setsIndex hindex
    | false => exact absurd (hconfined.index hindex) hne
  · intro r hr hne
    cases hsets : (Instr.decode w).sets r with
    | true => exact sets_others hsets hr
    | false => exact absurd (hconfined.v r hsets) hne
  · intro hne
    cases hsets : (Instr.decode w).sets w.x with
    | true => exact sets_own hsets
    | false => exact absurd (hconfined.v w.x hsets) hne
  · intro hne
    cases hsteers : (Instr.decode w).steers with
    | true => exact mem_of_steers hsteers
    | false => exact absurd (execute_pc c hsteers) hne
  · rw [execute_noise, Word.opcode]
    cases Instr.decode w <;> rfl
  · rw [execute_drawn_of_clear h (obstacle?_of_ok h hok), draws_decode]
  · intro hop
    rw [Word.opcode] at hop
    generalize Instr.decode w = i at hop ⊢
    cases i with
    | sys addr | unknown word => rfl
    | _ => simp [Instr.opcode] at hop

/-- A machine with a number in V0, and I at the last two bytes of memory. -/
def atEnd : Core := ((Core.initial false (.cycle #[])).put .zero 7).index 4094

/-- V0 and V1 just fit, and no byte but these two can have changed. -/
theorem execute_footprint_at_end :
    atEnd.WellFormed ∧ (atEnd.execute (Instr.decode 0xF155)).result = .ok () ∧
      Footprint 0xF155 atEnd (atEnd.execute (Instr.decode 0xF155)).state ∧
      (atEnd.execute (Instr.decode 0xF155)).state.memory.ram.byte 4094 = 7 := by
  have h : atEnd.WellFormed := by decide +kernel
  have hok : (atEnd.execute (Instr.decode 0xF155)).result = .ok () :=
    execute_of_clear h (by decide +kernel)
  refine ⟨h, hok, execute_footprint h 0xF155 hok, ?_⟩
  show (atEnd.memory.ram.splice 4094 [7, 0]).byte 4094 = 7
  rw [Ram.byte_splice]
  rfl

end Core
end Chip8
