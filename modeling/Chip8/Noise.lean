/-
The source of random bytes: an endless stream and a count of the bytes drawn from it.
-/
namespace Chip8

structure Noise where
  byte : Nat → UInt8
  drawn : Nat

namespace Noise

/-- A fresh stream that goes through a row of bytes over and over; zeros if there are none. -/
def cycle (row : Array UInt8) : Noise := ⟨fun k => row[k % row.size]?.getD 0, 0⟩

/-- The next byte of the stream. -/
def next (noise : Noise) : UInt8 := noise.byte noise.drawn

/-- The stream after its next byte has been drawn. -/
def rest (noise : Noise) : Noise := { noise with drawn := noise.drawn + 1 }

end Noise
end Chip8
