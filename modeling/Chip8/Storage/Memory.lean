/-
Memory, display and call stack, which are cleared together.

A program is loaded only if it fits behind its location and into the room of the largest program;
a refused program leaves everything as it was.
-/
import Chip8.Outcome
import Chip8.Storage.CallStack
import Chip8.Storage.Display
import Chip8.Storage.Font
import Chip8.Storage.Ram

namespace Chip8

/-- Where programs are loaded and start. -/
def programStart : Nat := 0x200

/-- The length of the longest program. -/
def programRoom : Nat := 3584

structure Memory where
  ram : Ram
  display : Display
  stack : CallStack
  deriving DecidableEq

namespace Memory

/-- Nothing but the font. -/
def initial : Memory := ⟨Ram.zero.splice Font.start Font.bytes, .blank, .empty⟩

/-- What is logged when a program has been loaded. -/
def loadedLine (program : List UInt8) (location : Int) : String :=
  "Loaded " ++ program.length.repr ++ " bytes at 0x" ++ Hex.upperInt 3 location

/-- Forget everything and start over from `initial` with a program at a location. -/
def load (m : Memory) (program : List UInt8) (location : Int) : Outcome Memory Unit :=
  if location < 0 ∨ 4096 ≤ location then .failed m (Cause.outOfBounds location).raise
  else
    let limit := min programRoom (4096 - location.toNat)
    if limit < program.length then .failed m (.tooLarge program.length limit)
    else
      ⟨{ initial with ram := initial.ram.splice location.toNat program }, .ok (),
        #[loadedLine program location]⟩

end Memory
end Chip8
