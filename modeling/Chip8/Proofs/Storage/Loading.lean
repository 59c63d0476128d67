/-
What is in memory once a program has been loaded.

A program is refused as a whole, and then nothing has changed, or it is all there.  Nothing is left
then of what was in memory before, and the font lies where the program does not.

* `load_of_outside`, `load_of_long`, `load_of_fits` : the three things that can happen;
* `holds_splice` : what memory holds once the program has been written;
* `load_outcome` : when which of the three happens, and what is in memory afterwards.
-/
import Chip8.Proofs.Core.Range

namespace Chip8

theorem CallStack.slot?_empty_of_isSlot {k : Int} (hk : IsSlot k) : empty.slot? k = some 0 := by
  rw [slot?, position?_of_lt hk.1 hk.2, Option.bind_some, empty, Vector.getElem?_replicate,
    if_pos (by omega)]

namespace Memory

/-- The length of the longest program there is room for at a location in memory. -/
def room (location : Int) : Nat := min 3584 (4096 - location.toNat)

/-- The memory has a program at a location, and besides it nothing but the font where that is not
overwritten. -/
structure Holds (program : List UInt8) (location : Int) (m : Memory) : Prop where
  fits : 0 ≤ location ∧ location + program.length ≤ 4096
  code : ∀ a : Nat, location ≤ a → a < location + program.length →
    program[a - location.toNat]? = some (m.ram.byte a)
  font : ∀ a : Nat, a < location ∨ location + program.length ≤ a → 0x50 ≤ a → a < 0xA0 →
    Font.bytes[a - 0x50]? = some (m.ram.byte a)
  zero : ∀ a : Nat, a < location ∨ location + program.length ≤ a → a < 0x50 ∨ 0xA0 ≤ a →
    m.ram.byte a = 0
  display : ∀ x y, m.display.pixel x y = false
  stack : ∀ k, IsSlot k → m.stack.slot? k = some 0

variable {program : List UInt8} {location : Int}

theorem byte_initial_font {a : Nat} (hlow : 0x50 ≤ a) (hhigh : a < 0xA0) :
    Font.bytes[a - 0x50]? = some (initial.ram.byte a) := by
  have hlength : Font.bytes.length = 80 := Font.length_bytes
  obtain ⟨k, rfl⟩ := Nat.exists_eq_add_of_le hlow
  rw [Nat.add_sub_cancel_left, List.getElem?_eq_getElem (by omega)]
  exact congrArg some (Ram.byte_splice_inside .zero (by decide) (by omega)).symm

theorem byte_initial_zero {a : Nat} (ha : a < 0x50 ∨ 0xA0 ≤ a) : initial.ram.byte a = 0 := by
  have hlength : Font.bytes.length = 80 := Font.length_bytes
  have houtside : a < Font.start ∨ Font.start + Font.bytes.length ≤ a := by
    rw [hlength]
    exact ha
  exact (Ram.byte_splice_outside .zero houtside).trans (Ram.byte_zero a)

theorem holds_splice (h0 : 0 ≤ location) (hfits : location + program.length ≤ 4096) :
    Holds program location { initial with ram := initial.ram.splice location.toNat program } where
  fits := ⟨h0, hfits⟩
  code a hlow hhigh := by
    -- The address of the byte with the number `k`.
    obtain ⟨k, rfl⟩ := Nat.exists_eq_add_of_le (Int.toNat_le.mpr hlow)
    rw [Nat.add_sub_cancel_left, List.getElem?_eq_getElem (by omega)]
    exact congrArg some (Ram.byte_splice_inside _ (by omega) (by omega)).symm
  font a ha hlow hhigh := by
    rw [byte_initial_font hlow hhigh]
    exact congrArg some (Ram.byte_splice_outside _ (by omega)).symm
  zero a ha hfont := (Ram.byte_splice_outside _ (by omega)).trans (byte_initial_zero hfont)
  display := Display.pixel_blank
  stack _ hk := CallStack.slot?_empty_of_isSlot hk

/-! ### The three outcomes -/

variable (m : Memory)

theorem load_of_outside (h : location < 0 ∨ 4096 ≤ location) (program : List UInt8) :
    m.load program location = .failed m (Cause.outOfBounds location).raise := by
  rw [load, if_pos h]

theorem load_of_long (h : 0 ≤ location ∧ location < 4096) (hlong : room location < program.length) :
    m.load program location = .failed m (.tooLarge program.length (room location)) := by
  rw [load, if_neg (by omega)]
  exact if_pos hlong

theorem load_of_fits (h : 0 ≤ location ∧ location < 4096) (hfits : program.length ≤ room location) :
    m.load program location =
      ⟨{ initial with ram := initial.ram.splice location.toNat program }, .ok (),
        #[loadedLine program location]⟩ := by
  rw [load, if_neg (by omega)]
  exact if_neg (Nat.not_lt.mpr hfits)

/-- **All or nothing.**  Loading fails exactly at a location that is not in memory, or with a
program that has no room there, and then leaves everything as it was.  Otherwise memory holds the
program, all of it, and whatever was there before is gone. -/
theorem load_outcome (m : Memory) (program : List UInt8) (location : Int) :
    let after := m.load program location
    (after.result = .error (Cause.outOfBounds location).raise ↔ location < 0 ∨ 4096 ≤ location) ∧
    (after.result = .error (.tooLarge program.length (room location)) ↔
      (0 ≤ location ∧ location < 4096) ∧ room location < program.length) ∧
    (after.result = .ok () ↔
      (0 ≤ location ∧ location < 4096) ∧ program.length ≤ room location) ∧
    (after.result ≠ .ok () → after.state = m) ∧
    (after.result = .ok () → Holds program location after.state) := by
  intro after
  by_cases hin : 0 ≤ location ∧ location < 4096
  · have hnot : ¬(location < 0 ∨ 4096 ≤ location) := by omega
    by_cases hfits : program.length ≤ room location
    · have hafter : after = _ := load_of_fits m hin hfits
      have hspace : location + program.length ≤ 4096 := by
        rw [room] at hfits
        omega
      rw [hafter]
      simp [hin, hnot, hfits, holds_splice hin.1 hspace]
    · have hlong : room location < program.length := Nat.not_le.mp hfits
      have hafter : after = _ := load_of_long m hin hlong
      rw [hafter]
      simp [Outcome.failed, Cause.raise, hin, hnot, hfits, hlong]
  · have hout : location < 0 ∨ 4096 ≤ location := by omega
    have hafter : after = _ := load_of_outside m hout program
    rw [hafter]
    simp [Outcome.failed, Cause.raise, hin, hout]

/-- Bytes that begin before the font and end within it. -/
def overFont : List UInt8 := List.replicate 32 0xAA

/-- The font goes on behind a program that lies over it, and at the last address there is room for
just one byte. -/
theorem load_outcome_tight :
    (initial.load overFont 0x40).result = .ok () ∧
    (initial.load overFont 0x40).state.ram.byte 0x5F = 0xAA ∧
    (initial.load overFont 0x40).state.ram.byte 0x60 = 0x10 ∧
    (initial.load [0x00, 0xE0] 0xFFF).result = .error (.tooLarge 2 1) ∧
    (initial.load [] 0x1000).result = .error (Cause.outOfBounds 0x1000).raise := by
  obtain ⟨-, -, hok, -, hholds⟩ := load_outcome initial overFont 0x40
  have hloaded := hok.mpr (by decide)
  have hmemory := hholds hloaded
  refine ⟨hloaded, ?_, ?_, ?_, ?_⟩
  · exact (Option.some_inj.mp (hmemory.code 0x5F (by decide) (by decide))).symm
  · exact (Option.some_inj.mp (hmemory.font 0x60 (by decide) (by decide) (by decide))).symm
  · exact (load_outcome initial [0x00, 0xE0] 0xFFF).2.1.mpr (by decide)
  · exact (load_outcome initial [] 0x1000).1.mpr (by decide)

end Memory
end Chip8
