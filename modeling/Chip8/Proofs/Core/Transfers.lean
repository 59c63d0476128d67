/-
Registers written to memory, and read back.

V0 to Vx go to the bytes from I on and come back from them, and a number goes there as three decimal
digits.  A row of bytes that is written lies there up to the last byte of memory, and around it
nothing changes.

* `stored_store`, `loaded_putAll`, `storedDecimal_store` : what is written, and what is read;
* `Stored.restored` : registers that were stored come back, whatever they were set to meanwhile;
* `Loaded.memory_eq_of_stored` : storing registers that were loaded changes nothing in memory;
* `execute_transferred` : what the words do that move registers to memory and back.
-/
import Chip8.Proofs.Core.Obstacle
import Chip8.Proofs.Instr.Patterns

namespace Chip8

theorem IsByte.toNat_ofNat {z : Int} (hz : IsByte z) : ((UInt8.ofNat z.toNat).toNat : Int) = z := by
  rw [UInt8.toNat_ofNat']
  omega

namespace Core

variable {c d e : Core} {x : Reg} {row : List Int}

/-- The number in memory `k` bytes behind I, for an address I. -/
def behind (c : Core) (k : Nat) : Int := (c.memory.ram.byte (c.registers.i.toNat + k)).toNat

/-- From the machine `c` to the machine `d`, nothing changes but the `n` bytes from I on. -/
structure Writes (n : Nat) (c d : Core) : Prop where
  around : ∀ a : Nat, a < c.registers.i ∨ c.registers.i + n ≤ a →
    d.memory.ram.byte a = c.memory.ram.byte a
  rest : d = c.withRam d.memory.ram

/-- V0 to Vx are written to memory. -/
structure Stored (x : Reg) (c d : Core) : Prop extends Writes (x.val + 1) c d where
  row : ∀ k, k ≤ x → d.behind k.val = c.v k

/-- Vx is written to memory, in decimal. -/
structure StoredDecimal (x : Reg) (c d : Core) : Prop extends Writes 3 c d where
  digits : d.behind 0 ≤ 9 ∧ d.behind 1 ≤ 9 ∧ d.behind 2 ≤ 9
  number : 100 * d.behind 0 + 10 * d.behind 1 + d.behind 2 = c.v x

/-- V0 to Vx are read from memory. -/
structure Loaded (x : Reg) (c d : Core) : Prop where
  row : ∀ k, k ≤ x → d.v k = c.behind k.val
  above : ∀ k, x < k → d.v k = c.v k
  rest : d = { c with registers := { c.registers with v := d.registers.v } }

/-! ### Writing -/

theorem writes_store (hi : 0 ≤ c.registers.i) (row : List UInt8) :
    Writes row.length c (c.store row) where
  around a ha := Ram.byte_splice_outside _ (by omega)
  rest := rfl

/-- Bytes that are written lie behind I. -/
theorem behind_store (hi : 0 ≤ c.registers.i) (hrow : ∀ z ∈ row, IsByte z)
    (hfits : c.registers.i + row.length ≤ 4096) {k : Nat} (hk : k < row.length) :
    (c.store (bytes row)).behind k = row[k] := by
  have hlength : (bytes row).length = row.length := List.length_map _
  -- All of the row is in memory, so that none of its bytes is lost.
  have hbyte : (c.store (bytes row)).memory.ram.byte (c.registers.i.toNat + k)
      = UInt8.ofNat row[k].toNat := by
    refine (Ram.byte_splice_inside _ (by omega) (by omega)).trans ?_
    exact List.getElem_map _
  rw [← (hrow row[k] (List.getElem_mem hk)).toNat_ofNat, ← hbyte]
  rfl

theorem getElem_upTo (c : Core) {k : Reg} (hk : k.val < (c.upTo x).length) :
    (c.upTo x)[k.val] = c.v k := by
  simp only [upTo, List.getElem_take, Vector.getElem_toList]
  rfl

theorem stored_store (h : c.WellFormed) (hfits : c.registers.i + x.val < 4096) :
    Stored x c (c.store (bytes (c.upTo x))) where
  toWrites := by
    have hwrites : Writes (bytes (c.upTo x)).length c (c.store (bytes (c.upTo x))) :=
      writes_store h.i.1 _
    rwa [bytes, List.length_map, length_upTo] at hwrites
  row k hk := by
    have hlength := length_upTo c x
    have hlt : k.val < (c.upTo x).length := by
      rw [hlength]
      exact Nat.lt_succ_of_le hk
    rw [behind_store h.i.1 (fun _ => isByte_of_mem_upTo h) (by omega) hlt, getElem_upTo c hlt]

theorem storedDecimal_store (h : c.WellFormed) (x : Reg) (hfits : c.registers.i + 2 < 4096) :
    StoredDecimal x c (c.store (bytes (decimalDigits (c.v x)))) := by
  have hx : IsByte (c.v x) := h.v x
  have hlength := length_decimalDigits (c.v x)
  -- The first digit is all that is left of the number, which is below ten for a byte.
  have hdigit : ∀ {k : Nat} (hk : k < 3), (c.store (bytes (decimalDigits (c.v x)))).behind k
      = (decimalDigits (c.v x))[k] :=
    fun hk => behind_store h.i.1 (fun _ => isByte_of_mem_decimalDigits hx) (by omega) hk
  have hzero : _ = c.v x / 100 := hdigit (k := 0) (by decide)
  have hone : _ = c.v x / 10 % 10 := hdigit (k := 1) (by decide)
  have htwo : _ = c.v x % 10 := hdigit (k := 2) (by decide)
  exact ⟨writes_store h.i.1 (bytes (decimalDigits (c.v x))), by omega, by omega⟩

/-! ### Reading -/

theorem loaded_putAll (c : Core) (x : Reg) :
    Loaded x c (c.withRegisters
      (c.registers.putAll ((c.atIndex (x.val + 1)).map fun b => (b.toNat : Int)))) where
  row k hk := by
    show (c.registers.putAll _).get k = _
    rw [Registers.get_putAll, List.getElem?_map, atIndex, Ram.getElem?_slice,
      if_pos (Nat.lt_succ_of_le hk)]
    rfl
  above k hk := by
    show (c.registers.putAll _).get k = _
    rw [Registers.get_putAll, List.getElem?_map, atIndex, Ram.getElem?_slice,
      if_neg (Nat.not_lt.mpr hk)]
    rfl
  rest := rfl

/-! ### There and back -/

/-- Registers that were stored come back where they went, whatever they were set to meanwhile. -/
theorem Stored.restored (hcd : Stored x c d) {r : Registers} (hi : r.i = c.registers.i)
    (hde : Loaded x (d.withRegisters r) e) {k : Reg} (hk : k ≤ x) : e.v k = c.v k := by
  have hregisters : d.registers = c.registers := by
    rw [hcd.rest]
    rfl
  calc e.v k = (d.withRegisters r).behind k.val := hde.row k hk
    _ = d.behind k.val := by rw [behind, behind, hregisters, ← hi]; rfl
    _ = c.v k := hcd.row k hk

/-- Storing registers that were loaded changes nothing in memory. -/
theorem Loaded.memory_eq_of_stored (h : 0 ≤ c.registers.i) (hcd : Loaded x c d)
    (hde : Stored x d e) : e.memory = c.memory := by
  have hmemory : d.memory = c.memory := by rw [hcd.rest]
  have hindex : d.registers.i = c.registers.i := by rw [hcd.rest]
  have hregisters : e.registers = d.registers := by
    rw [hde.rest]
    rfl
  have hram : e.memory.ram = d.memory.ram := by
    apply Ram.ext_byte
    intro a _
    by_cases hin : c.registers.i ≤ a ∧ a ≤ c.registers.i + x.val
    · -- What was stored there is what had been loaded from there.
      have hbyte : e.behind (a - c.registers.i.toNat) = c.behind (a - c.registers.i.toNat) := by
        have hk : (⟨a - c.registers.i.toNat, by omega⟩ : Reg) ≤ x := by
          show a - c.registers.i.toNat ≤ x.val
          omega
        exact (hde.row _ hk).trans (hcd.row _ hk)
      rw [behind, behind, hregisters, hindex, ← hmemory,
        Nat.add_sub_cancel' (Int.toNat_le.mpr hin.1)] at hbyte
      exact UInt8.toNat_inj.mp (Int.ofNat_inj.mp hbyte)
    · exact hde.around a (by omega)
  rw [hde.rest, ← hmemory, hram]
  rfl

/-! ### The words -/

theorem missing?_of_fits {n : Nat} (hfits : c.registers.i + n ≤ 4096) : c.missing? n = none := by
  rw [missing?, if_neg (by omega)]

theorem execute_save (h : c.WellFormed) {w : Word} (hw : w.HasByte 0xF 0x55)
    (hfits : c.registers.i + w.x.val < 4096) :
    (c.execute (Instr.decode w)).result = .ok () ∧
      Stored w.x c (c.execute (Instr.decode w)).state := by
  have hdecode : Instr.decode w = .storeRegs w.x := by
    simp only [Instr.decode_of_family_fifteen hw.1, Instr.decodeTransfer, hw.2]
  have hmissing : c.missing? (c.upTo w.x).length = none := by
    refine missing?_of_fits ?_
    rw [length_upTo]
    omega
  rw [hdecode, execute, storeAll_of_present h (fun _ => isByte_of_mem_upTo h) hmissing]
  exact ⟨rfl, stored_store h hfits⟩

theorem execute_load (hi : 0 ≤ c.registers.i) {w : Word} (hw : w.HasByte 0xF 0x65)
    (hfits : c.registers.i + w.x.val < 4096) :
    (c.execute (Instr.decode w)).result = .ok () ∧
      Loaded w.x c (c.execute (Instr.decode w)).state := by
  have hdecode : Instr.decode w = .loadRegs w.x := by
    simp only [Instr.decode_of_family_fifteen hw.1, Instr.decodeTransfer, hw.2]
  have hreach : c.reach (w.x.val + 1) = .ok () := Ram.check_eq_ok_iff.mpr ⟨hi, by omega⟩
  rw [hdecode, execute, hreach]
  exact ⟨rfl, loaded_putAll c w.x⟩

theorem execute_decimal (h : c.WellFormed) {w : Word} (hw : w.HasByte 0xF 0x33)
    (hfits : c.registers.i + 2 < 4096) :
    (c.execute (Instr.decode w)).result = .ok () ∧
      StoredDecimal w.x c (c.execute (Instr.decode w)).state := by
  have hdecode : Instr.decode w = .storeDecimal w.x := by
    simp only [Instr.decode_of_family_fifteen hw.1, Instr.decodeTransfer, hw.2]
  have hmissing : c.missing? (decimalDigits (c.v w.x)).length = none :=
    missing?_of_fits (by rw [length_decimalDigits]; omega)
  have hrow : ∀ z ∈ decimalDigits (c.v w.x), IsByte z :=
    fun _ => isByte_of_mem_decimalDigits (h.v w.x)
  rw [hdecode, execute, storeAll_of_present h hrow hmissing]
  exact ⟨rfl, storedDecimal_store h w.x hfits⟩

/-- **There and back.**  Wherever they fit, up to the last byte of memory, V0 to Vx are stored from
I on and nothing else changes; loading brings them back, whatever the registers were set to in
between, as long as I is what it was.  The other way round, storing what was loaded leaves memory as
it was.  The three decimal digits of a register make up its number. -/
theorem execute_transferred (h : c.WellFormed) :
    (∀ save load : Word, save.HasByte 0xF 0x55 → load.HasByte 0xF 0x65 → load.x = save.x →
      c.registers.i + save.x.val < 4096 →
      let saved := c.execute (Instr.decode save)
      let loaded := c.execute (Instr.decode load)
      let again := loaded.state.execute (Instr.decode save)
      (saved.result = .ok () ∧ Stored save.x c saved.state) ∧
      (∀ r : Registers, r.i = c.registers.i →
        let d := saved.state.withRegisters r
        let back := d.execute (Instr.decode load)
        back.result = .ok () ∧ Loaded save.x d back.state ∧
          ∀ k, k ≤ save.x → back.state.v k = c.v k) ∧
      (loaded.result = .ok () ∧ Loaded save.x c loaded.state) ∧
      again.result = .ok () ∧ Stored save.x loaded.state again.state ∧
        again.state.memory = c.memory) ∧
    ∀ w : Word, w.HasByte 0xF 0x33 → c.registers.i + 2 < 4096 →
      (c.execute (Instr.decode w)).result = .ok () ∧
        StoredDecimal w.x c (c.execute (Instr.decode w)).state := by
  refine ⟨?_, fun w hw hfits => execute_decimal h hw hfits⟩
  intro save load hsave hload hx hfits saved loaded again
  have hsaved : saved.result = .ok () ∧ Stored save.x c saved.state := execute_save h hsave hfits
  have hloaded : loaded.result = .ok () ∧ Loaded save.x c loaded.state := by
    rw [← hx]
    exact execute_load h.i.1 hload (by rwa [hx])
  refine ⟨hsaved, ?_, hloaded, ?_⟩
  · -- Loading reads nothing but I and memory, and neither was touched since the registers were
    -- stored.
    intro r hr d back
    have hi : d.registers.i = c.registers.i := hr
    have hback : back.result = .ok () ∧ Loaded save.x d back.state := by
      rw [← hx]
      exact execute_load (by rw [hi]; exact h.i.1) hload (by rwa [hi, hx])
    exact ⟨hback.1, hback.2, fun k hk => hsaved.2.restored hr hback.2 hk⟩
  · have hi : loaded.state.registers.i = c.registers.i := by rw [hloaded.2.rest]
    have hagain : again.result = .ok () ∧ Stored save.x loaded.state again.state :=
      execute_save (execute_wellFormed h _) hsave (by rwa [hi])
    exact ⟨hagain.1, hagain.2, hloaded.2.memory_eq_of_stored h.i.1 hagain.2⟩

/-- A machine with I at the last three bytes of memory. -/
def atLastThree : Core :=
  (((Core.initial false (.cycle #[])).put .zero 254).put ⟨2, by decide⟩ 7).index 4093

/-- Three registers fit, and come back after all of them were cleared, and so do three digits. -/
theorem execute_transferred_at_last_three :
    atLastThree.WellFormed ∧
      (atLastThree.execute (Instr.decode 0xF255)).state.behind 2 = 7 ∧
      (((atLastThree.execute (Instr.decode 0xF255)).state.withRegisters
        { Registers.zero with i := 4093 }).execute (Instr.decode 0xF265)).state.v .zero = 254 ∧
      let d := (atLastThree.execute (Instr.decode 0xF033)).state
      100 * d.behind 0 + 10 * d.behind 1 + d.behind 2 = 254 := by
  have h : atLastThree.WellFormed := by decide +kernel
  obtain ⟨hrow, hdecimal⟩ := execute_transferred h
  obtain ⟨⟨-, hstored⟩, hback, -⟩ :=
    hrow 0xF255 0xF265 (by decide) (by decide) (by decide) (by decide)
  obtain ⟨-, -, hrestored⟩ := hback { Registers.zero with i := 4093 } rfl
  obtain ⟨-, hdigits⟩ := hdecimal 0xF033 (by decide) (by decide)
  exact ⟨h, hstored.row ⟨2, by decide⟩ (by decide), hrestored .zero (by decide), hdigits.number⟩

end Core
end Chip8
