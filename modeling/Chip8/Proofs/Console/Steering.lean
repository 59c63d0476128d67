/-
Where a program goes on.

Fetching moves the program counter behind an instruction before it runs, and what the instruction
does to the counter comes on top of that: a skip moves it once more, waiting for a key moves it
back, and jumps, calls and returns do not care where it is.  `Core.next?` says by the digits of a
word where the program goes on behind it.

* `Core.execute_pc_of_clear` : where each instruction goes on behind its fetch;
* `Core.target?_decode` : the same by the digits of its word;
* `Core.execute_opposite` : a skip and its opposite, in any state;
* `Console.tick_next` : where every tick leaves the program counter.
-/
import Chip8.Proofs.Console.Tick
import Chip8.Proofs.Instr.Patterns

namespace Chip8

namespace Keys

variable {keys : Keys} {key : Int}

/-- A number behind the last key is no key that is down. -/
theorem lt_of_down (h : keys.down key = true) : key < 16 := by
  rw [down, Bool.and_eq_true, decide_eq_true_iff] at h
  apply Classical.byContradiction
  intro hge
  have hnone : keys.pressed[key.toNat]? = none := Vector.getElem?_eq_none (by omega)
  simp [hnone] at h

theorem first?_eq_none_iff :
    keys.first? = none ↔ ∀ key : Nat, key < 15 → keys.down key = false := by
  rw [first?, List.find?_eq_none]
  constructor
  · intro h key hkey
    exact Bool.eq_false_iff.mpr (h key (List.mem_range.mpr hkey))
  · intro h key hkey
    exact Bool.eq_false_iff.mp (h key (List.mem_range.mp hkey))

end Keys

namespace Core

variable {c : Core} {i : Instr} {w : Word}

/-! ### Instructions -/

/-- The condition of a skip, for an instruction that is one. -/
def condition? (c : Core) : Instr → Option Bool
  | .skipEqByte x kk => some (c.v x = kk.toNat)
  | .skipNeByte x kk => some (c.v x ≠ kk.toNat)
  | .skipEq x y => some (c.v x = c.v y)
  | .skipNe x y => some (c.v x ≠ c.v y)
  | .skipKey x => some (c.keys.down (c.v x))
  | .skipNoKey x => some !c.keys.down (c.v x)
  | _ => none

/-- Where the program goes on behind an instruction at the program counter. -/
def target? (c : Core) : Instr → Option Int
  | .ret => (c.memory.stack.slot? c.registers.sp).map fun address => (address.toNat : Int)
  | .jump a | .call a => some a.val
  | .jumpOffset a => some (a.val + c.v .zero)
  | .awaitKey _ =>
    if c.waitForKey = true ∧ c.keys.first? = none then some c.registers.pc
    else some (c.registers.pc + 2)
  | i => if c.condition? i = some true then some (c.registers.pc + 4) else some (c.registers.pc + 2)

/-- A skip does nothing else. -/
theorem execute_of_condition {holds : Bool} (hi : c.condition? i = some holds) :
    c.execute i = .done (c.skipIf holds) () := by
  cases i with
  | skipEqByte x kk | skipNeByte x kk => rw [← Option.some_inj.mp hi, execute]
  | skipEq x y | skipNe x y => rw [← Option.some_inj.mp hi, execute]
  | skipKey x | skipNoKey x => rw [← Option.some_inj.mp hi, execute]
  | _ => cases hi

/-- Behind the fetch, a skip is two words away from where the program was. -/
theorem skipIf_advanced_pc (h : c.WellFormed) (hpc : c.registers.pc < 0xFFF) (holds : Bool) :
    (c.advanced.skipIf holds).registers.pc =
      if holds = true then c.registers.pc + 4 else c.registers.pc + 2 := by
  cases holds with
  | false => rfl
  | true =>
    have hlow := h.pc.1
    show (c.registers.pc + 2 + 2) % 65536 = c.registers.pc + 4
    omega

/-- Behind the fetch, waiting goes back to where the program was. -/
theorem awaitKey_advanced_pc (h : c.WellFormed) (hpc : c.registers.pc < 0xFFF) (x : Reg) :
    (c.advanced.awaitKey x).registers.pc =
      if c.waitForKey = true ∧ c.keys.first? = none then c.registers.pc
      else c.registers.pc + 2 := by
  have hlow := h.pc.1
  rcases c.advanced.awaitKey_cases x with ⟨key, hkey, hc⟩ | ⟨hkey, hwait, hc⟩ | ⟨hkey, hwait, hc⟩
  · have hdown : c.keys.first? = some key := hkey
    rw [hc, if_neg (by simp [hdown])]
    rfl
  · rw [hc, if_pos ⟨hwait, hkey⟩]
    show (c.registers.pc + 2 - 2) % 65536 = c.registers.pc
    omega
  · have hnowait : c.waitForKey = false := hwait
    rw [hc, if_neg (by simp [hnowait])]
    rfl

theorem target?_of_condition {holds : Bool} (hi : c.condition? i = some holds) :
    c.target? i = some (if holds = true then c.registers.pc + 4 else c.registers.pc + 2) := by
  have htarget : c.target? i = if c.condition? i = some true then some (c.registers.pc + 4)
      else some (c.registers.pc + 2) := by
    cases i with
    | skipEqByte x kk | skipNeByte x kk => rfl
    | skipEq x y | skipNe x y => rfl
    | skipKey x | skipNoKey x => rfl
    | _ => cases hi
  rw [htarget, hi]
  cases holds with
  | true => rfl
  | false => rfl

theorem execute_pc_of_condition (h : c.WellFormed) (hpc : c.registers.pc < 0xFFF) {holds : Bool}
    (hi : c.condition? i = some holds) :
    c.target? i = some (c.advanced.execute i).state.registers.pc := by
  -- The fetch changes nothing that a condition is about.
  have hexec : c.advanced.execute i = .done (c.advanced.skipIf holds) () := execute_of_condition hi
  rw [target?_of_condition hi, hexec, ← skipIf_advanced_pc h hpc holds]
  rfl

/-- An instruction that nothing stops goes on at its target. -/
theorem execute_pc_of_clear (h : c.WellFormed) (hpc : c.registers.pc < 0xFFF)
    (hclear : c.obstacle? i = none) :
    c.target? i = some (c.advanced.execute i).state.registers.pc := by
  have hadvanced := h.advanced hpc
  cases i with
  | ret =>
    have hsp : c.registers.sp ≠ 0 := by simpa [obstacle?] using hclear
    rcases ret_cases hadvanced with ⟨hzero, -⟩ | ⟨-, address, htop, hret⟩
    · exact absurd hzero hsp
    · have htop : c.memory.stack.slot? c.registers.sp = some address := htop
      rw [execute, hret, target?, htop]
      rfl
  | call a =>
    have hsp : c.registers.sp ≠ 15 := by simpa [obstacle?] using hclear
    rcases call_cases hadvanced a with ⟨hfull, -⟩ | ⟨-, stack, -, hcall⟩
    · exact absurd hfull hsp
    · rw [execute, hcall]
      rfl
  | jump a | jumpOffset a => rfl
  | skipEqByte x kk | skipNeByte x kk => exact execute_pc_of_condition h hpc rfl
  | skipEq x y | skipNe x y => exact execute_pc_of_condition h hpc rfl
  | skipKey x | skipNoKey x => exact execute_pc_of_condition h hpc rfl
  | awaitKey x =>
    show _ = some (c.advanced.awaitKey x).registers.pc
    rw [awaitKey_advanced_pc h hpc, target?]
    split <;> rfl
  | _ =>
    rw [execute_pc c.advanced rfl]
    rfl

/-! ### Words -/

/-- The word skips the next one.  A number that is no key's is no key that is down. -/
def Skips (c : Core) (w : Word) : Prop :=
  (w.family = 0x3 ∧ c.v w.x = w.kk.toNat) ∨
  (w.family = 0x4 ∧ c.v w.x ≠ w.kk.toNat) ∨
  (w.family = 0x5 ∧ c.v w.x = c.v w.y) ∨
  (w.family = 0x9 ∧ c.v w.x ≠ c.v w.y) ∨
  (w.HasByte 0xE 0x9E ∧ (c.v w.x < 16 ∧ c.keys.down (c.v w.x) = true)) ∨
  (w.HasByte 0xE 0xA1 ∧ ¬(c.v w.x < 16 ∧ c.keys.down (c.v w.x) = true))

/-- The word waits for a key, and none of those that it waits for is down. -/
def Waits (c : Core) (w : Word) : Prop :=
  w.HasByte 0xF 0x0A ∧ c.waitForKey = true ∧ ∀ key : Nat, key < 15 → c.keys.down key = false

instance (c : Core) (w : Word) : Decidable (c.Skips w) :=
  inferInstanceAs (Decidable (_ ∨ _))

instance (c : Core) (w : Word) : Decidable (c.Waits w) :=
  inferInstanceAs (Decidable (_ ∧ _))

/-- Where the program goes on behind the word `w` at the program counter. -/
def next? (c : Core) (w : Word) : Option Int :=
  if w.family = 0x1 ∨ w.family = 0x2 then some w.addr.val
  else if w.toNat = 0x00EE then
    (c.memory.stack.slot? c.registers.sp).map fun address => (address.toNat : Int)
  else if w.family = 0xB then some (w.addr.val + c.v .zero)
  else if c.Skips w then some (c.registers.pc + 4)
  else if c.Waits w then some c.registers.pc
  else some (c.registers.pc + 2)

/-- Of the transfers, only waiting for a key moves the program counter. -/
theorem target?_decodeTransfer (hkk : w.kk.toNat ≠ 0x0A) :
    c.target? (Instr.decodeTransfer w) = some (c.registers.pc + 2) := by
  rw [Instr.decodeTransfer]
  split
  case h_2 hwait => exact absurd hwait hkk
  all_goals rfl

/-- The digits of a word say where its instruction goes on. -/
theorem target?_decode (c : Core) (w : Word) : c.target? (Instr.decode w) = c.next? w := by
  have hfamily := w.family_lt
  have hkey : (c.v w.x < 16 ∧ c.keys.down (c.v w.x) = true) ↔ c.keys.down (c.v w.x) = true :=
    and_iff_right_of_imp Keys.lt_of_down
  simp only [next?, Skips, Waits, Word.HasByte, Word.toNat_eq_ret_iff, hkey,
    ← Keys.first?_eq_none_iff]
  rw [Instr.decode]
  split
  -- The families `0x0`, `0x8`, `0xE` and `0xF` are told apart further.
  case h_1 hw =>
    split
    · next ha => simp [hw, ha, target?, condition?]
    · next =>
      split
      · next ha => simp [hw, ha, target?]
      · next ha => simp [hw, ha, target?, condition?]
  case h_9 hw =>
    rw [Instr.decodeArithmetic]
    split <;> simp [hw, target?, condition?]
  case h_15 hw =>
    split
    · next hkk => simp [hw, hkk, target?, condition?]
    · next =>
      split
      · next hkk => simp [hw, hkk, target?, condition?]
      · next hne hkk => simp [hw, hne, hkk, target?, condition?]
  case h_16 =>
    have hw : w.family = 0xF := by
      simp only [imp_false] at *
      omega
    by_cases hkk : w.kk.toNat = 0x0A
    · simp [hw, hkk, Instr.decodeTransfer, target?]
    · simp [hw, hkk, target?_decodeTransfer hkk]
  all_goals
    rename_i hw
    simp [hw, target?, condition?]

end Core

/-! ### Opposite skips -/

/-- One of the words skips under a condition, and the other skips unless the same condition
holds. -/
def Word.Opposes (w v : Word) : Prop :=
  v.x = w.x ∧
  ((w.family = 0x3 ∧ v.family = 0x4 ∧ v.kk = w.kk) ∨
    (w.family = 0x5 ∧ v.family = 0x9 ∧ v.y = w.y) ∨
    (w.HasByte 0xE 0x9E ∧ v.HasByte 0xE 0xA1))

instance (w v : Word) : Decidable (w.Opposes v) := inferInstanceAs (Decidable (_ ∧ _))

namespace Core

variable {c : Core} {w v : Word}

theorem condition?_opposite (c : Core) (h : w.Opposes v) : ∃ holds,
    c.condition? (Instr.decode w) = some holds ∧ c.condition? (Instr.decode v) = some !holds := by
  obtain ⟨hx, ⟨hw, hv, hkk⟩ | ⟨hw, hv, hy⟩ | ⟨⟨hw, hdown⟩, hv, hup⟩⟩ := h
  · exact ⟨decide (c.v w.x = w.kk.toNat), by simp [Instr.decode, hw, hv, condition?, hx, hkk]⟩
  · exact ⟨decide (c.v w.x = c.v w.y), by simp [Instr.decode, hw, hv, condition?, hx, hy]⟩
  · exact ⟨c.keys.down (c.v w.x), by simp [Instr.decode, hw, hv, hdown, hup, condition?, hx]⟩

/-- In any state, one of two opposite skips goes past the next word, and the other does nothing. -/
theorem execute_opposite (c : Core) (h : w.Opposes v) :
    (c.execute (Instr.decode w) = .done (c.skipIf true) () ∧
      c.execute (Instr.decode v) = .done c ()) ∨
    (c.execute (Instr.decode w) = .done c () ∧
      c.execute (Instr.decode v) = .done (c.skipIf true) ()) := by
  obtain ⟨holds, hw, hv⟩ := condition?_opposite c h
  cases holds with
  | true => exact .inl ⟨execute_of_condition hw, execute_of_condition hv⟩
  | false => exact .inr ⟨execute_of_condition hw, execute_of_condition hv⟩

end Core

namespace Console

/-- **Where a program goes on.**  A tick that does not fault leaves the program counter where the
digits of its word say, by the registers, keys and call stack before it.  In every state, one of two
opposite skips goes past the next word and the other one does not. -/
theorem tick_next :
    (∀ c : Console, c.core.WellFormed → c.tick.result = .ok () →
      c.core.next? c.core.word = some c.tick.state.core.registers.pc) ∧
    ∀ (c : Core) (w v : Word), w.Opposes v →
      let after (u : Word) := (c.execute (Instr.decode u)).state.registers.pc
      (after w = (c.registers.pc + 2) % 65536 ∧ after v = c.registers.pc) ∨
      (after w = c.registers.pc ∧ after v = (c.registers.pc + 2) % 65536) := by
  constructor
  · intro c h hok
    obtain ⟨hpc, hclear⟩ := Core.fault?_eq_none_iff.mp (fault?_of_ok h hok)
    rw [(tick_core_of_ok h hok).2, ← Core.target?_decode]
    exact Core.execute_pc_of_clear h hpc hclear
  · intro c w v hopposes after
    rcases c.execute_opposite hopposes with ⟨hw, hv⟩ | ⟨hw, hv⟩
    · left
      simp only [after, hw, hv]
      exact ⟨rfl, rfl⟩
    · right
      simp only [after, hw, hv]
      exact ⟨rfl, rfl⟩

/-- A console at a skip for when a key is up, with a number that is no key's in V0. -/
def keyless : Console :=
  { holding [0xE0, 0xA1] with core := (holding [0xE0, 0xA1]).core.put .zero 200 }

/-- What is no key is up: the tick skips, and the opposite instruction would not have skipped. -/
theorem tick_next_keyless :
    keyless.core.WellFormed ∧ keyless.tick.result = .ok () ∧
      keyless.tick.state.core.registers.pc = 4 ∧ (0xE09E : Word).Opposes 0xE0A1 ∧
      (keyless.core.execute (Instr.decode 0xE09E)).state.registers.pc = 0 := by
  have h : keyless.core.WellFormed := by decide +kernel
  have hok : keyless.tick.result = .ok () :=
    congrArg Outcome.result (tick_of_clear h (by decide +kernel))
  have hnext : keyless.core.next? keyless.core.word = some 4 := by decide +kernel
  have hopposes : (0xE09E : Word).Opposes 0xE0A1 := by decide
  have hskip : (keyless.core.execute (Instr.decode 0xE0A1)).state.registers.pc = 2 := by
    decide +kernel
  refine ⟨h, hok, ?_, hopposes, ?_⟩
  · rw [tick_next.1 keyless h hok] at hnext
    exact Option.some_inj.mp hnext
  · rcases tick_next.2 keyless.core 0xE09E 0xE0A1 hopposes with ⟨-, hstay⟩ | ⟨hstay, -⟩
    · exact absurd (hskip.symm.trans hstay) (by decide)
    · exact hstay

end Console
end Chip8
