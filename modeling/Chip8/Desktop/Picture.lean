/-
Pictures of the display.

A picture is a list of rows of coloured pixels, the bottom row first.  Each pixel of the display
becomes a square of equal pixels.

* `Picture.getElem?_stretch` : the items of a stretched row.
-/
import Chip8.Fault
import Chip8.Storage.Display

namespace Chip8

structure Colour where
  red : UInt8
  green : UInt8
  blue : UInt8
  alpha : UInt8
  deriving DecidableEq, Repr

namespace Colour

def black : Colour := ⟨0, 0, 0, 255⟩

def white : Colour := ⟨255, 255, 255, 255⟩

/-- The colour of a pixel of the display. -/
def ofPixel (lit : Bool) : Colour := if lit then white else black

end Colour

abbrev Picture := List (List Colour)

namespace Picture

/-- Every item `scale` times. -/
def stretch (scale : Nat) (items : List α) : List α := items.flatMap (List.replicate scale)

/-- The display with squares of `scale` by `scale` for its pixels. -/
def ofDisplay (scale : Nat) (d : Display) : Picture :=
  stretch scale (d.rows.reverse.map fun row => stretch scale (row.map Colour.ofPixel))

/-- What comes of making a picture where all memory is there that can be addressed: scales have 64
bits with a sign, and no picture has less than no pixels or as many as two to the 63 bytes. -/
def addressable (scale : Int) : Except Error Unit :=
  if !fits64 scale then .error .tooWide
  else if scale < 0 then .error .negativeSize
  else if 9223372036854775808 ≤ 4 * (64 * scale) * (32 * scale) then
    .error (.outside ⟨"MemoryError", "Unable to allocate the picture"⟩)
  else .ok ()

theorem length_stretch (scale : Nat) (items : List α) :
    (stretch scale items).length = scale * items.length := by
  induction items with
  | nil => rfl
  | cons a rest ih =>
    simp only [stretch, List.flatMap_cons, List.length_append, List.length_replicate,
      List.length_cons] at *
    rw [ih, Nat.mul_add]
    omega

theorem getElem?_stretch {scale : Nat} (hs : 0 < scale) (items : List α) (k : Nat) :
    (stretch scale items)[k]? = items[k / scale]? := by
  induction items generalizing k with
  | nil => simp [stretch]
  | cons a rest ih =>
    simp only [stretch, List.flatMap_cons] at *
    by_cases hk : k < scale
    · rw [List.getElem?_append_left (by simpa using hk), Nat.div_eq_of_lt hk]
      simp [hk]
    · rw [List.getElem?_append_right (by simpa using Nat.le_of_not_lt hk), List.length_replicate,
        ih, Nat.div_eq_sub_div hs (Nat.le_of_not_lt hk)]
      simp

end Picture
end Chip8
