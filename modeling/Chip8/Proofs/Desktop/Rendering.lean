/-
Pictures of the display, pixel by pixel.

* `Picture.Renders` : what a picture of a display at a scale is;
* `Picture.renders_iff` : there is only one, and it is the one that sessions make.
-/
import Chip8.Desktop.Picture

namespace Chip8

namespace Display

variable (d : Display)

theorem length_row (y : Nat) : (d.row y).length = 64 := by simp [row]

theorem getElem?_row {x : Nat} (hx : x < 64) (y : Nat) : (d.row y)[x]? = some (d.pixel x y) := by
  rw [row, List.getElem?_map, List.getElem?_range hx]
  rfl

theorem length_rows : d.rows.length = 32 := by simp [rows]

theorem getElem?_rows {y : Nat} (hy : y < 32) : d.rows[y]? = some (d.row y) := by
  rw [rows, List.getElem?_map, List.getElem?_range hy]
  rfl

end Display

namespace Picture

/-- The picture of a display at a scale: each of its pixels is a square of `scale` by `scale` pixels
of its colour, and the bottom row is the first. -/
structure Renders (p : Picture) (scale : Nat) (d : Display) : Prop where
  height : p.length = 32 * scale
  row : ∀ r < 32 * scale, ∃ row, p[r]? = some row ∧ row.length = 64 * scale ∧
    ∀ k < 64 * scale,
      row[k]? = some (.ofPixel (d.pixel (k / scale : Nat) (31 - r / scale : Nat)))

theorem Renders.unique {p q : Picture} {scale : Nat} {d : Display} (hp : p.Renders scale d)
    (hq : q.Renders scale d) : p = q := by
  refine List.ext_getElem? fun r => ?_
  by_cases hr : r < 32 * scale
  · obtain ⟨row, hrow, hwidth, hpixel⟩ := hp.row r hr
    obtain ⟨row', hrow', hwidth', hpixel'⟩ := hq.row r hr
    rw [hrow, hrow', Option.some_inj]
    refine List.ext_getElem? fun k => ?_
    by_cases hk : k < 64 * scale
    · rw [hpixel k hk, hpixel' k hk]
    · rw [List.getElem?_eq_none (by omega), List.getElem?_eq_none (by omega)]
  · have hp' := hp.height
    have hq' := hq.height
    rw [List.getElem?_eq_none (by omega), List.getElem?_eq_none (by omega)]

/-- A row of the picture, counted from the bottom, comes from the row of the display that is as far
from its bottom. -/
theorem getElem?_ofDisplay {scale : Nat} (hs : 0 < scale) (d : Display) {r : Nat}
    (hr : r < 32 * scale) : (ofDisplay scale d)[r]? =
      some (stretch scale ((d.row (31 - r / scale)).map Colour.ofPixel)) := by
  have hdiv : r / scale < 32 := (Nat.div_lt_iff_lt_mul hs).mpr hr
  have hrow : 31 - r / scale < 32 := Nat.lt_of_le_of_lt (Nat.sub_le 31 _) (by decide)
  rw [ofDisplay, getElem?_stretch hs, List.getElem?_map,
    List.getElem?_reverse (by rw [d.length_rows]; exact hdiv), d.length_rows,
    d.getElem?_rows hrow]
  rfl

theorem ofDisplay_renders {scale : Nat} (hs : 0 < scale) (d : Display) :
    (ofDisplay scale d).Renders scale d where
  height := by
    rw [ofDisplay, length_stretch, List.length_map, List.length_reverse, d.length_rows,
      Nat.mul_comm]
  row := by
    intro r hr
    refine ⟨_, getElem?_ofDisplay hs d hr, ?_, ?_⟩
    · rw [length_stretch, List.length_map, d.length_row, Nat.mul_comm]
    · intro k hk
      have hdiv : k / scale < 64 := (Nat.div_lt_iff_lt_mul hs).mpr hk
      rw [getElem?_stretch hs, List.getElem?_map, d.getElem?_row hdiv]
      rfl

theorem renders_iff {scale : Nat} (hs : 0 < scale) {p : Picture} {d : Display} :
    p.Renders scale d ↔ p = ofDisplay scale d := by
  constructor
  · intro hp
    exact hp.unique (ofDisplay_renders hs d)
  · rintro rfl
    exact ofDisplay_renders hs d

end Picture
end Chip8
