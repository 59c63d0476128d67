/-
Sprites on the display.

A sprite covers the pixels under its set bits, around the edges of the display.  One of at most 32
rows covers no pixel twice, so drawing it flips exactly the pixels that it covers, and pixels go off
exactly if some of these were on.

* `Display.ext_pixel` : displays with the same pixels are the same;
* `Display.mem_cellsOf_sprite`, `Display.nodup_cellsOf_sprite` : which cells a sprite touches, and
  that it touches none twice;
* `Display.covers_iff` : which byte of the sprite, and which of its bits, a pixel is under;
* `Core.pixel_draw`, `Core.flag_draw` : the display and the flag after drawing;
* `Core.execute_draw_drew` : all that the drawing instruction does.
-/
import Chip8.Proofs.Core.Drawing
import Mathlib.Data.List.Nodup

namespace Chip8

namespace Display

variable {d : Display} {x y x' y' px py : Int} {b : UInt8} {rows : List UInt8}

/-! ### Cells -/

theorem cell_eq_iff : cell x y = cell x' y' ↔ x % 64 = x' % 64 ∧ y % 32 = y' % 32 := by
  unfold cell
  omega

/-- The pixel of a cell stands in one of the columns from 0 and in one of the rows from 0. -/
theorem exists_cell_eq {k : Nat} (hk : k < 2048) : ∃ x y : Int, cell x y = k := by
  refine ⟨(k % 64 : Nat), (k / 64 : Nat), ?_⟩
  unfold cell
  omega

theorem pixel_congr (h : cell x y = cell x' y') : d.pixel x y = d.pixel x' y' := by
  simp only [pixel, h]

theorem ext_pixel {d d' : Display} (h : ∀ x y, d.pixel x y = d'.pixel x y) : d = d' := by
  obtain ⟨cells⟩ := d
  obtain ⟨cells'⟩ := d'
  congr
  apply Vector.ext
  intro k hk
  obtain ⟨x, y, rfl⟩ := exists_cell_eq hk
  exact h x y

/-- The cells of pixels. -/
def cellsOf (touched : List (Int × Int)) : List Nat := touched.map fun p => cell p.1 p.2

theorem cellsOf_cons (p : Int × Int) (touched : List (Int × Int)) :
    cellsOf (p :: touched) = cell p.1 p.2 :: cellsOf touched := rfl

theorem cellsOf_append (first second : List (Int × Int)) :
    cellsOf (first ++ second) = cellsOf first ++ cellsOf second := List.map_append

theorem cell_mem_cellsOf {touched : List (Int × Int)} {p : Int × Int} (h : p ∈ touched) :
    cell p.1 p.2 ∈ cellsOf touched := List.mem_map_of_mem h

/-! ### Flipping pixels of different cells -/

/-- Pixels of different cells are flipped once each. -/
theorem pixel_flipAll {touched : List (Int × Int)} (h : (cellsOf touched).Nodup) :
    (d.flipAll touched).1.pixel x y = (d.pixel x y ^^ decide (cell x y ∈ cellsOf touched)) := by
  induction touched generalizing d with
  | nil => simp [flipAll, cellsOf]
  | cons p rest ih =>
    rw [cellsOf_cons, List.nodup_cons] at h
    obtain ⟨hp, hrest⟩ := h
    show ((d.flip p.1 p.2).flipAll rest).1.pixel x y = _
    rw [ih hrest, pixel_flip, cellsOf_cons]
    -- The first pixel is not flipped a second time.
    by_cases hcell : cell p.1 p.2 = cell x y
    · rw [hcell] at hp
      simp [hcell, hp]
    · simp [hcell, Ne.symm hcell]

/-- Then some pixel went off exactly if one of them was on. -/
theorem flipAll_snd {touched : List (Int × Int)} (h : (cellsOf touched).Nodup) :
    (d.flipAll touched).2 = true ↔ ∃ p ∈ touched, d.pixel p.1 p.2 = true := by
  induction touched generalizing d with
  | nil => simp [flipAll]
  | cons p rest ih =>
    rw [cellsOf_cons, List.nodup_cons] at h
    obtain ⟨hp, hrest⟩ := h
    have hsame : ∀ q ∈ rest, (d.flip p.1 p.2).pixel q.1 q.2 = d.pixel q.1 q.2 := by
      intro q hq
      have hne : cell p.1 p.2 ≠ cell q.1 q.2 := by
        intro hcell
        rw [hcell] at hp
        exact hp (cell_mem_cellsOf hq)
      rw [pixel_flip, decide_eq_false hne, Bool.xor_false]
    show (d.pixel p.1 p.2 || ((d.flip p.1 p.2).flipAll rest).2) = true ↔ _
    rw [Bool.or_eq_true, ih hrest, List.exists_mem_cons_iff]
    refine or_congr_right (exists_congr fun q => and_congr_right fun hq => ?_)
    rw [hsame q hq]

/-! ### The cells of a sprite -/

/-- A row of a sprite, with its left end at (`px`, `py`), has a set bit on a pixel. -/
def RowCovers (px py : Int) (b : UInt8) (x y : Int) : Prop :=
  ∃ bit < 8, b.toNat.testBit (7 - bit) = true ∧ (px + bit) % 64 = x % 64 ∧ py % 32 = y % 32

/-- A sprite, with its top left corner at (`px`, `py`), has a set bit on a pixel. -/
def Covers (px py : Int) (rows : List UInt8) (x y : Int) : Prop :=
  ∃ (row : Nat) (b : UInt8), rows[row]? = some b ∧ RowCovers px (py + row) b x y

theorem covers_cons : Covers px py (b :: rows) x y ↔
    RowCovers px py b x y ∨ Covers px (py + 1) rows x y := by
  constructor
  · rintro ⟨row, b', hrow, hcovers⟩
    rcases row with _ | row
    · obtain rfl : b = b' := by simpa using hrow
      rw [Int.natCast_zero, Int.add_zero] at hcovers
      exact .inl hcovers
    · have hdown : py + (row + 1 : Nat) = py + 1 + row := by omega
      rw [hdown] at hcovers
      exact .inr ⟨row, b', by simpa using hrow, hcovers⟩
  · rintro (hcovers | ⟨row, b', hrow, hcovers⟩)
    · refine ⟨0, b, rfl, ?_⟩
      rwa [Int.natCast_zero, Int.add_zero]
    · have hdown : py + (row + 1 : Nat) = py + 1 + row := by omega
      refine ⟨row + 1, b', hrow, ?_⟩
      rwa [hdown]

theorem mem_cellsOf_spriteRow : cell x y ∈ cellsOf (spriteRow px py b) ↔ RowCovers px py b x y := by
  rw [cellsOf, spriteRow, List.map_map, List.mem_map]
  constructor
  · rintro ⟨bit, hbit, hcell⟩
    obtain ⟨hlt, hset⟩ := List.mem_filter.mp hbit
    exact ⟨bit, List.mem_range.mp hlt, hset, cell_eq_iff.mp hcell⟩
  · rintro ⟨bit, hlt, hset, hcell⟩
    exact ⟨bit, List.mem_filter.mpr ⟨List.mem_range.mpr hlt, hset⟩, cell_eq_iff.mpr hcell⟩

/-- A sprite touches the cells of the pixels that it covers. -/
theorem mem_cellsOf_sprite : cell x y ∈ cellsOf (sprite px py rows) ↔ Covers px py rows x y := by
  induction rows generalizing py with
  | nil => simp [sprite, cellsOf, Covers]
  | cons b rows ih =>
    rw [covers_cons, ← ih, ← mem_cellsOf_spriteRow, sprite, cellsOf_append, List.mem_append]

instance (px py : Int) (rows : List UInt8) (x y : Int) : Decidable (Covers px py rows x y) :=
  decidable_of_iff _ mem_cellsOf_sprite

/-- At most one bit of a row is over a pixel, the one as far from the left end as the pixel is. -/
theorem rowCovers_iff : RowCovers px py b x y ↔
    py % 32 = y % 32 ∧ (x - px) % 64 < 8 ∧ b.toNat.testBit (7 - (x - px) % 64).toNat = true := by
  constructor
  · rintro ⟨bit, hlt, hset, hcolumn, hrow⟩
    have hbit : (x - px) % 64 = bit := by omega
    have hfrom : (7 - (bit : Int)).toNat = 7 - bit := by omega
    refine ⟨hrow, by omega, ?_⟩
    rwa [hbit, hfrom]
  · rintro ⟨hrow, hlt, hset⟩
    refine ⟨((x - px) % 64).toNat, by omega, ?_, by omega, hrow⟩
    have hfrom : (7 - (x - px) % 64).toNat = 7 - ((x - px) % 64).toNat := by omega
    rwa [← hfrom]

/-- In a sprite that is not higher than the display, at most one row is over a pixel. -/
theorem covers_iff (h : rows.length ≤ 32) : Covers px py rows x y ↔
    ∃ b, rows[((y - py) % 32).toNat]? = some b ∧ (x - px) % 64 < 8 ∧
      b.toNat.testBit (7 - (x - px) % 64).toNat = true := by
  constructor
  · rintro ⟨row, b, hrow, hcovers⟩
    obtain ⟨hdown, hlt, hset⟩ := rowCovers_iff.mp hcovers
    obtain ⟨hlength, -⟩ := List.getElem?_eq_some_iff.mp hrow
    have hindex : ((y - py) % 32).toNat = row := by omega
    refine ⟨b, ?_, hlt, hset⟩
    rwa [hindex]
  · rintro ⟨b, hrow, hlt, hset⟩
    exact ⟨_, b, hrow, rowCovers_iff.mpr ⟨by omega, hlt, hset⟩⟩

theorem nodup_cellsOf_spriteRow (px py : Int) (b : UInt8) :
    (cellsOf (spriteRow px py b)).Nodup := by
  rw [cellsOf, spriteRow, List.map_map]
  refine List.Nodup.map_on ?_ (List.nodup_range.filter _)
  intro bit hbit bit' hbit' (hcell : cell (px + bit) py = cell (px + bit') py)
  have hlt := List.mem_range.mp (List.mem_filter.mp hbit).1
  have hlt' := List.mem_range.mp (List.mem_filter.mp hbit').1
  obtain ⟨hcolumn, -⟩ := cell_eq_iff.mp hcell
  omega

/-- The display is 32 pixels high, so the rows of a sprite that is not higher do not meet. -/
theorem nodup_cellsOf_sprite (h : rows.length ≤ 32) : (cellsOf (sprite px py rows)).Nodup := by
  induction rows generalizing py with
  | nil => exact List.nodup_nil
  | cons b rows ih =>
    rw [List.length_cons] at h
    rw [sprite, cellsOf_append]
    refine (nodup_cellsOf_spriteRow px py b).append (ih (by omega)) ?_
    intro k hk hk'
    obtain ⟨p, -, rfl⟩ := List.mem_map.mp hk
    obtain ⟨bit, -, -, -, hfirst⟩ := mem_cellsOf_spriteRow.mp hk
    obtain ⟨row, b', hrow, bit', -, -, -, hlater⟩ := mem_cellsOf_sprite.mp hk'
    obtain ⟨hlt, -⟩ := List.getElem?_eq_some_iff.mp hrow
    omega

/-! ### Drawing a sprite -/

theorem pixel_flipAll_sprite (h : rows.length ≤ 32) :
    (d.flipAll (sprite px py rows)).1.pixel x y =
      (d.pixel x y ^^ decide (Covers px py rows x y)) := by
  rw [pixel_flipAll (nodup_cellsOf_sprite h)]
  simp only [mem_cellsOf_sprite]

theorem flipAll_sprite_snd (h : rows.length ≤ 32) :
    (d.flipAll (sprite px py rows)).2 = true ↔
      ∃ x y, Covers px py rows x y ∧ d.pixel x y = true := by
  rw [flipAll_snd (nodup_cellsOf_sprite h)]
  constructor
  · rintro ⟨p, hp, hon⟩
    exact ⟨p.1, p.2, mem_cellsOf_sprite.mp (cell_mem_cellsOf hp), hon⟩
  · rintro ⟨x, y, hcovers, hon⟩
    obtain ⟨p, hp, hcell⟩ := List.mem_map.mp (mem_cellsOf_sprite.mpr hcovers)
    exact ⟨p, hp, by rwa [pixel_congr hcell]⟩

end Display

namespace Core

variable (c : Core) (x y : Reg) {n : Nat}

/-- Drawing flips the pixels that the sprite at I covers. -/
theorem pixel_draw (hn : n ≤ 32) (X Y : Int) :
    (c.draw x y n).memory.display.pixel X Y =
      (c.memory.display.pixel X Y ^^ decide (Display.Covers (c.v x) (c.v y) (c.atIndex n) X Y)) :=
  Display.pixel_flipAll_sprite (by rwa [atIndex, Ram.length_slice])

theorem flag_draw : (c.draw x y n).v .flag =
    if (c.memory.display.flipAll (Display.sprite (c.v x) (c.v y) (c.atIndex n))).2 then 1
    else 0 := by
  show (c.registers.put .flag _).get .flag = _
  rw [Registers.get_put, if_pos rfl]

/-- Drawing sets the flag exactly if the sprite covers a pixel that is on. -/
theorem flag_draw_eq_one_iff (hn : n ≤ 32) : (c.draw x y n).v .flag = 1 ↔
    ∃ X Y, Display.Covers (c.v x) (c.v y) (c.atIndex n) X Y ∧
      c.memory.display.pixel X Y = true := by
  rw [flag_draw, ← Display.flipAll_sprite_snd (by rwa [atIndex, Ram.length_slice])]
  split
  · simp [*]
  · simp [*]

/-- The flag is one or zero. -/
theorem flag_draw_cases : (c.draw x y n).v .flag = 0 ∨ (c.draw x y n).v .flag = 1 := by
  rw [flag_draw]
  split
  · exact .inr rfl
  · exact .inl rfl

/-! ### The drawing instruction -/

/-- The sprite of the `n` bytes at I, drawn at (Vx, Vy), has a set bit on a pixel.  The distance
from the corner of the sprite, around the edges of the display, tells in which row and column of
it. -/
def Paints (c : Core) (x y : Reg) (n : Nat) (X Y : Int) : Prop :=
  (Y - c.v y) % 32 < n ∧ (X - c.v x) % 64 < 8 ∧
    (c.memory.ram.byte (c.registers.i + (Y - c.v y) % 32).toNat).toNat.testBit
      (7 - (X - c.v x) % 64).toNat = true

instance (c : Core) (x y : Reg) (n : Nat) (X Y : Int) : Decidable (c.Paints x y n X Y) :=
  inferInstanceAs (Decidable (_ ∧ _ ∧ _))

variable {c x y}

theorem covers_iff_paints (hi : 0 ≤ c.registers.i) (hn : n ≤ 32) {X Y : Int} :
    Display.Covers (c.v x) (c.v y) (c.atIndex n) X Y ↔ c.Paints x y n X Y := by
  have haddress : (c.registers.i + (Y - c.v y) % 32).toNat =
      c.registers.i.toNat + ((Y - c.v y) % 32).toNat := by omega
  rw [Display.covers_iff (by rwa [atIndex, Ram.length_slice]), Paints, haddress, atIndex,
    Ram.getElem?_slice]
  by_cases hrow : (Y - c.v y) % 32 < n
  · rw [if_pos (by omega)]
    simp [hrow]
  · rw [if_neg (by omega)]
    simp [hrow]

/-- What drawing a sprite has left behind in `d`. -/
structure Drew (c : Core) (x y : Reg) (n : Nat) (d : Core) : Prop where
  pixel : ∀ X Y, d.memory.display.pixel X Y =
    (c.memory.display.pixel X Y ^^ decide (c.Paints x y n X Y))
  /-- The flag tells whether a pixel went off. -/
  flag : d.v .flag = 1 ↔
    ∃ X Y, c.memory.display.pixel X Y = true ∧ d.memory.display.pixel X Y = false
  flag_cases : d.v .flag = 0 ∨ d.v .flag = 1
  drawn : d.drawn = true
  v : ∀ z, z ≠ .flag → d.v z = c.v z
  i : d.registers.i = c.registers.i
  pc : d.registers.pc = c.registers.pc
  sp : d.registers.sp = c.registers.sp
  delay : d.registers.delay = c.registers.delay
  sound : d.registers.sound = c.registers.sound
  ram : d.memory.ram = c.memory.ram
  stack : d.memory.stack = c.memory.stack

theorem draw_drew (hi : 0 ≤ c.registers.i) (hn : n ≤ 32) : Drew c x y n (c.draw x y n) := by
  have hpixel : ∀ X Y, (c.draw x y n).memory.display.pixel X Y =
      (c.memory.display.pixel X Y ^^ decide (c.Paints x y n X Y)) := by
    intro X Y
    rw [pixel_draw c x y hn]
    simp only [covers_iff_paints hi hn]
  refine ⟨hpixel, ?_, c.flag_draw_cases x y, rfl, fun z hz => ?_, rfl, rfl, rfl, rfl, rfl, rfl, rfl⟩
  · rw [flag_draw_eq_one_iff c x y hn]
    refine exists_congr fun X => exists_congr fun Y => ?_
    -- A pixel that was on goes off exactly if it is flipped.
    rw [covers_iff_paints hi hn, hpixel, and_comm]
    refine and_congr_right fun hon => ?_
    rw [hon]
    simp
  · show (c.registers.put .flag _).get z = c.registers.get z
    rw [Registers.get_put, if_neg (Ne.symm hz)]

/-- A sprite that is all in memory is drawn, and so is one of no rows. -/
theorem execute_draw_of_fits (hi : 0 ≤ c.registers.i) {n : Fin 16}
    (hfits : n.val = 0 ∨ c.registers.i + n.val ≤ 4096) :
    c.execute (.draw x y n) = .done (c.draw x y n.val) () := by
  rw [execute]
  split
  · rfl
  · next hn =>
    have hreach : c.reach n.val = .ok () := Ram.check_eq_ok_iff.mpr ⟨hi, hfits.resolve_left hn⟩
    rw [hreach]
    rfl

/-- **Drawing a sprite** flips the pixels under its set bits, around the edges of the display, and
tells in the flag register whether one of them went off.  The corner of the sprite is where the
registers say before, also if one of them is the flag register.  Nothing else changes. -/
theorem execute_draw_drew (h : c.WellFormed) (x y : Reg) (n : Fin 16)
    (hfits : n.val = 0 ∨ c.registers.i + n.val ≤ 4096) :
    (c.execute (.draw x y n)).result = .ok () ∧
      Drew c x y n.val (c.execute (.draw x y n)).state := by
  have hn : n.val ≤ 32 := Nat.le_trans (Nat.le_of_lt n.isLt) (by decide)
  rw [execute_draw_of_fits h.i.1 hfits]
  exact ⟨rfl, draw_drew h.i.1 hn⟩

/-- A machine about to draw the digit 0 of the font with its corner in column and row 62, which is
row 30 of the display. -/
def cornered : Core := ((Core.initial false (.cycle #[])).put .flag 62).index 0x50

/-- The digit goes around both edges: its third row, with a bit at either end, is at the top of the
display.  No pixel went off, which is told in the register that said where to draw. -/
theorem execute_draw_drew_cornered :
    cornered.WellFormed ∧ cornered.registers.i + 5 ≤ 4096 ∧
      (cornered.execute (.draw .flag .flag 5)).state.memory.display.pixel 62 0 = true ∧
      (cornered.execute (.draw .flag .flag 5)).state.memory.display.pixel 63 0 = false ∧
      (cornered.execute (.draw .flag .flag 5)).state.memory.display.pixel 1 0 = true ∧
      (cornered.execute (.draw .flag .flag 5)).state.v .flag = 0 := by
  have h : cornered.WellFormed := by decide +kernel
  have hfits : cornered.registers.i + 5 ≤ 4096 := by decide
  have hdark : ∀ X Y, cornered.memory.display.pixel X Y = false := by
    intro X Y
    exact Display.pixel_blank X Y
  have hends : cornered.Paints .flag .flag 5 62 0 ∧ ¬ cornered.Paints .flag .flag 5 63 0 ∧
      cornered.Paints .flag .flag 5 1 0 := by
    decide +kernel
  have hdrew : cornered.Drew .flag .flag 5 (cornered.execute (.draw .flag .flag 5)).state :=
    (execute_draw_drew h .flag .flag 5 (.inr hfits)).2
  refine ⟨h, hfits, ?_, ?_, ?_, ?_⟩
  · rw [hdrew.pixel, hdark, decide_eq_true hends.1, Bool.false_xor]
  · rw [hdrew.pixel, hdark, decide_eq_false hends.2.1, Bool.false_xor]
  · rw [hdrew.pixel, hdark, decide_eq_true hends.2.2, Bool.false_xor]
  · refine hdrew.flag_cases.resolve_right fun hflag => ?_
    obtain ⟨X, Y, hon, -⟩ := hdrew.flag.mp hflag
    rw [hdark] at hon
    cases hon

end Core
end Chip8
