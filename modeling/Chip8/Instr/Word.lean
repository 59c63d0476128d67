/-
Instruction words.

Every 16-bit word is an instruction word.  Its fields are runs of bits: the family (bits 15 to 12),
two register numbers `x` (11 to 8) and `y` (7 to 4), a nibble `n` (3 to 0), a byte `kk` (7 to 0)
and an address `addr` (11 to 0).

* `Word.toNat_ofInt` : an integer of any size and sign stands for its remainder modulo `2 ^ 16`;
* `Word.toNat_eq_fields` : the family and the three nibbles make up the word.
-/
namespace Chip8

abbrev Word := UInt16

/-- The number of one of the sixteen registers. -/
abbrev Reg := Fin 16

/-- The register V0. -/
def Reg.zero : Reg := ⟨0, by decide⟩

/-- The register VF, which instructions set to one or zero as a flag. -/
def Reg.flag : Reg := ⟨15, by decide⟩

/-- A 12-bit address. -/
abbrev Addr := Fin 4096

namespace Word

/-- The word an integer stands for: its low sixteen bits in two's complement. -/
def ofInt (z : Int) : Word := UInt16.ofNat (z % 65536).toNat

/-- The word whose high byte is `hi` and whose low byte is `lo`. -/
def ofBytes (hi lo : UInt8) : Word := UInt16.ofNat (hi.toNat * 256 + lo.toNat)

def family (w : Word) : Nat := w.toNat / 4096

def x (w : Word) : Reg := ⟨w.toNat / 256 % 16, Nat.mod_lt _ (by decide)⟩

def y (w : Word) : Reg := ⟨w.toNat / 16 % 16, Nat.mod_lt _ (by decide)⟩

def n (w : Word) : Fin 16 := ⟨w.toNat % 16, Nat.mod_lt _ (by decide)⟩

def kk (w : Word) : UInt8 := UInt8.ofNat (w.toNat % 256)

def addr (w : Word) : Addr := ⟨w.toNat % 4096, Nat.mod_lt _ (by decide)⟩

theorem toNat_ofInt (z : Int) : ((ofInt z).toNat : Int) = z % 65536 := by
  have h0 : 0 ≤ z % 65536 := Int.emod_nonneg z (by decide)
  have h1 : z % 65536 < 65536 := Int.emod_lt_of_pos z (by decide)
  simp only [ofInt, UInt16.toNat_ofNat']
  omega

theorem toNat_ofBytes (hi lo : UInt8) : (ofBytes hi lo).toNat = hi.toNat * 256 + lo.toNat := by
  have h1 := hi.toNat_lt
  have h2 := lo.toNat_lt
  simp only [ofBytes, UInt16.toNat_ofNat']
  omega

theorem family_lt (w : Word) : w.family < 16 := by
  have := w.toNat_lt
  unfold family
  omega

theorem toNat_kk (w : Word) : w.kk.toNat = w.toNat % 256 := by
  simp only [kk, UInt8.toNat_ofNat']
  omega

theorem toNat_eq_fields (w : Word) :
    w.toNat = w.family * 4096 + w.x.val * 256 + w.y.val * 16 + w.n.val := by
  simp only [family, x, y, n]
  omega

end Word
end Chip8
