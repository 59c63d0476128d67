/-
The display: 64 columns and 32 rows of pixels that are on or off.

Coordinates wrap around both edges.  A sprite is a column of bytes, each a row of eight pixels with
the highest bit leftmost; drawing it flips the pixels under its set bits.

* `Display.pixel_flip` : a flip changes one pixel and no other.
-/
namespace Chip8

structure Display where
  cells : Vector Bool 2048
  deriving DecidableEq

namespace Display

def width : Nat := 64

def height : Nat := 32

/-- The cell of a pixel, row by row from the top left. -/
def cell (x y : Int) : Nat := (x % 64).toNat + (y % 32).toNat * 64

theorem cell_lt (x y : Int) : cell x y < 2048 := by
  have := Int.emod_lt_of_pos x (show (0 : Int) < 64 by decide)
  have := Int.emod_lt_of_pos y (show (0 : Int) < 32 by decide)
  unfold cell
  omega

def fill (lit : Bool) : Display := ⟨Vector.replicate 2048 lit⟩

def blank : Display := fill false

def pixel (d : Display) (x y : Int) : Bool :=
  have := cell_lt x y
  d.cells[cell x y]

def flip (d : Display) (x y : Int) : Display :=
  have := cell_lt x y
  ⟨d.cells.set (cell x y) (!d.pixel x y)⟩

def row (d : Display) (y : Nat) : List Bool := (List.range 64).map fun (x : Nat) => d.pixel x y

/-- All rows from the top. -/
def rows (d : Display) : List (List Bool) := (List.range 32).map d.row

/-- The pixels under the set bits of one row of a sprite. -/
def spriteRow (px py : Int) (b : UInt8) : List (Int × Int) :=
  ((List.range 8).filter fun k => b.toNat.testBit (7 - k)).map fun (k : Nat) => (px + k, py)

/-- The pixels under the set bits of a sprite with its top left corner at (`px`, `py`). -/
def sprite (px py : Int) : List UInt8 → List (Int × Int)
  | [] => []
  | b :: rest => spriteRow px py b ++ sprite px (py + 1) rest

/-- Flip pixels one after the other; the flag tells whether one of them was on and went off. -/
def flipAll (d : Display) : List (Int × Int) → Display × Bool
  | [] => (d, false)
  | (x, y) :: rest =>
    let after := (d.flip x y).flipAll rest
    (after.1, d.pixel x y || after.2)

theorem pixel_blank (x y : Int) : blank.pixel x y = false := by
  simp [pixel, blank, fill]

theorem pixel_flip (d : Display) (x y x' y' : Int) :
    (d.flip x y).pixel x' y' = (d.pixel x' y' ^^ decide (cell x y = cell x' y')) := by
  simp only [pixel, flip, Vector.getElem_set]
  by_cases h : cell x y = cell x' y' <;> simp [h]

end Display
end Chip8
