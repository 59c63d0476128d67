/-
Program listings.

A program is read as big-endian words from its first byte on; a last odd byte is left out.

* `Listing.words_length` : a listing has a line for every pair of bytes.
-/
import Chip8.Instr.Mnemonic

namespace Chip8

/-- A line of a listing. -/
structure Listing.Line where
  address : Int
  word : Word
  text : String
  deriving DecidableEq, Repr

namespace Listing

/-- The big-endian words of a program. -/
def words : List UInt8 → List Word
  | hi :: lo :: rest => Word.ofBytes hi lo :: words rest
  | _ => []

/-- The lines for words that stand one after the other from an address on. -/
def lines (address : Int) : List Word → List Line
  | [] => []
  | w :: rest => ⟨address, w, (Instr.decode w).mnemonic⟩ :: lines (address + 2) rest

def ofProgram (program : List UInt8) (origin : Int) : List Line := lines origin (words program)

theorem words_length (program : List UInt8) : (words program).length = program.length / 2 := by
  fun_induction words program with
  | case1 hi lo rest ih => simp [ih]; omega
  | case2 t ht =>
    match t, ht with
    | [], _ => rfl
    | [_], _ => simp
    | a :: b :: r, ht => exact absurd rfl (ht a b r)

end Listing
end Chip8
