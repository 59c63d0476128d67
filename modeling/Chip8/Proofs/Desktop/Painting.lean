/-
Painting, down to the bytes.

A picture is handed over as bytes: four for each pixel, the pixels of a row one behind the other,
and the rows likewise, so that each row takes up as many bytes as its pitch says.  It may be drawn
on a canvas that keeps the picture before it.  Only the light of its pixels is drawn over, not how
opaque they are, and nothing of the picture before shows through.

* `Picture.Renders.shows` : where the bytes of each pixel are;
* `Canvas.magnify_draw` : what was drawn before does not matter;
* `Session.paint_renders` : what painting asks for and what it changes, after any events.
-/
import Chip8.Proofs.Desktop.Handling
import Chip8.Proofs.Desktop.Rendering

namespace Chip8

/-! ### Bytes -/

/-- Blocks of one length, one behind the other. -/
theorem getElem?_flatMap_of_length {α β : Type} {f : α → List β} {n : Nat} (items : List α)
    (hlength : ∀ a ∈ items, (f a).length = n) (k : Nat) {i : Nat} (hi : i < n) :
    (items.flatMap f)[k * n + i]? = items[k]?.bind fun a => (f a)[i]? := by
  induction items generalizing k with
  | nil => rfl
  | cons a rest ih =>
    obtain ⟨ha, hrest⟩ := List.forall_mem_cons.mp hlength
    rw [List.flatMap_cons]
    cases k with
    | zero =>
      rw [List.getElem?_append_left (by omega)]
      simp
    | succ k =>
      have hbehind : (k + 1) * n + i = (f a).length + (k * n + i) := by
        rw [ha, Nat.add_mul]
        omega
      rw [hbehind, List.getElem?_append_right (by omega), Nat.add_sub_cancel_left, ih hrest k,
        List.getElem?_cons_succ]

theorem length_flatMap_of_length {α β : Type} {f : α → List β} {n : Nat} (items : List α)
    (hlength : ∀ a ∈ items, (f a).length = n) : (items.flatMap f).length = items.length * n := by
  induction items with
  | nil => simp
  | cons a rest ih =>
    obtain ⟨ha, hrest⟩ := List.forall_mem_cons.mp hlength
    rw [List.flatMap_cons, List.length_append, ha, ih hrest, List.length_cons, Nat.add_mul]
    omega

/-- The four bytes of a colour. -/
def Colour.bytes (c : Colour) : List UInt8 := [c.red, c.green, c.blue, c.alpha]

namespace Picture

/-- The bytes of a picture, row by row. -/
def bytes (p : Picture) : List UInt8 := p.flatMap fun row => row.flatMap Colour.bytes

variable {p : Picture} {scale : Nat} {d : Display}

theorem Renders.length_of_mem (h : p.Renders scale d) {row : List Colour} (hrow : row ∈ p) :
    row.length = 64 * scale := by
  obtain ⟨r, hr⟩ := List.mem_iff_getElem?.mp hrow
  have hlt : r < 32 * scale := by
    rw [← h.height]
    exact (List.getElem?_eq_some_iff.mp hr).1
  obtain ⟨row', hrow', hlength, -⟩ := h.row r hlt
  rw [hr, Option.some_inj] at hrow'
  rw [hrow', hlength]

theorem Renders.pitch (h : p.Renders scale d) {row : List Colour} (hrow : row ∈ p) :
    (row.flatMap Colour.bytes).length = 256 * scale := by
  rw [length_flatMap_of_length row (n := 4) fun _ _ => rfl, h.length_of_mem hrow]
  omega

/-- The picture of a display, as it is handed over: each row takes up as many bytes as the pitch
says, and each pixel four of them. -/
structure Shows (p : Picture) (scale : Nat) (d : Display) : Prop extends p.Renders scale d where
  length_bytes : p.bytes.length = 32 * scale * (256 * scale)
  byte : ∀ r < 32 * scale, ∀ k < 64 * scale, ∀ i < 4,
    p.bytes[r * (256 * scale) + (k * 4 + i)]? =
      (if d.pixel (k / scale : Nat) (31 - r / scale : Nat) then [255, 255, 255, 255]
        else [0, 0, 0, 255])[i]?

theorem bytes_ofPixel (lit : Bool) : (Colour.ofPixel lit).bytes =
    if lit then [255, 255, 255, 255] else [0, 0, 0, 255] := by
  cases lit <;> rfl

theorem Renders.shows (h : p.Renders scale d) : p.Shows scale d where
  toRenders := h
  length_bytes := by
    rw [bytes, length_flatMap_of_length p fun _ hrow => h.pitch hrow, h.height]
  byte := by
    intro r hr k hk i hi
    obtain ⟨row, hrow, -, hpixel⟩ := h.row r hr
    rw [bytes, getElem?_flatMap_of_length p (fun _ hrow => h.pitch hrow) r (by omega), hrow,
      Option.bind_some, getElem?_flatMap_of_length row (n := 4) (fun _ _ => rfl) k hi, hpixel k hk,
      Option.bind_some, bytes_ofPixel]

end Picture

theorem Display.length_of_mem_rows (d : Display) {row : List Bool} (hrow : row ∈ d.rows) :
    row.length = 64 := by
  rw [rows] at hrow
  obtain ⟨y, -, rfl⟩ := List.mem_map.mp hrow
  exact d.length_row y

/-! ### A canvas that is drawn on again and again -/

/-- The colour with other light, as opaque as it was. -/
def Colour.relit (c : Colour) (lit : Bool) : Colour :=
  let level := if lit then 255 else 0
  ⟨level, level, level, c.alpha⟩

/-- A colour for each pixel of the display, with the bottom row first. -/
abbrev Canvas := List (List Colour)

namespace Canvas

/-- A canvas that nothing was drawn on. -/
def fresh : Canvas := List.replicate 32 (List.replicate 64 ⟨0, 0, 0, 255⟩)

/-- Give all pixels the light that they have on a display. -/
def draw (canvas : Canvas) (d : Display) : Canvas :=
  List.zipWith (List.zipWith Colour.relit) canvas d.rows.reverse

/-- Draw displays one after the other. -/
def drawAll (canvas : Canvas) (displays : List Display) : Canvas := displays.foldl draw canvas

/-- Every row `scale` times, and then every pixel of each row. -/
def magnify (canvas : Canvas) (scale : Nat) : Picture :=
  (Picture.stretch scale canvas).map (Picture.stretch scale)

/-- The canvas has a pixel for each of the display, and all are fully opaque. -/
structure Sound (canvas : Canvas) : Prop where
  height : canvas.length = 32
  width : ∀ row ∈ canvas, row.length = 64
  alpha : ∀ row ∈ canvas, ∀ c ∈ row, c.alpha = 255

theorem sound_fresh : fresh.Sound := by
  refine ⟨rfl, ?_, ?_⟩
  · intro row hrow
    rw [(List.mem_replicate.mp hrow).2, List.length_replicate]
  · intro row hrow c hc
    rw [(List.mem_replicate.mp hrow).2] at hc
    rw [(List.mem_replicate.mp hc).2]

variable {canvas : Canvas} {c : Colour}

theorem relit_eq_ofPixel (h : c.alpha = 255) (lit : Bool) : c.relit lit = .ofPixel lit := by
  cases lit <;> simp [Colour.relit, Colour.ofPixel, Colour.black, Colour.white, h]

/-- Zipping with a function that only looks at the second list. -/
theorem zipWith_eq_map {α β γ : Type} {f : α → β → γ} {g : β → γ} {as : List α} {bs : List β}
    (hlength : as.length = bs.length) (h : ∀ a ∈ as, ∀ b ∈ bs, f a b = g b) :
    List.zipWith f as bs = bs.map g := by
  induction as generalizing bs with
  | nil =>
    rw [List.length_nil, eq_comm, List.length_eq_zero_iff] at hlength
    rw [hlength]
    rfl
  | cons a rest ih =>
    cases bs with
    | nil => cases hlength
    | cons b bs =>
      rw [List.zipWith_cons_cons, List.map_cons, h a List.mem_cons_self b List.mem_cons_self]
      congr 1
      refine ih (Nat.succ.inj hlength) ?_
      intro a' ha' b' hb'
      exact h a' (List.mem_cons_of_mem _ ha') b' (List.mem_cons_of_mem _ hb')

/-- What was on the canvas before does not show. -/
theorem draw_eq (h : canvas.Sound) (d : Display) :
    canvas.draw d = d.rows.reverse.map fun row => row.map Colour.ofPixel := by
  refine zipWith_eq_map (by rw [h.height, List.length_reverse, d.length_rows]) ?_
  intro row hrow lights hlights
  have hwidth := d.length_of_mem_rows (List.mem_reverse.mp hlights)
  refine zipWith_eq_map (by rw [h.width row hrow, hwidth]) ?_
  intro c hc lit hlit
  exact relit_eq_ofPixel (h.alpha row hrow c hc) lit

theorem Sound.draw (h : canvas.Sound) (d : Display) : (canvas.draw d).Sound := by
  rw [draw_eq h]
  refine ⟨by rw [List.length_map, List.length_reverse, d.length_rows], ?_, ?_⟩
  · intro row hrow
    obtain ⟨lights, hlights, rfl⟩ := List.mem_map.mp hrow
    rw [List.length_map]
    exact d.length_of_mem_rows (List.mem_reverse.mp hlights)
  · intro row hrow c hc
    obtain ⟨lights, -, rfl⟩ := List.mem_map.mp hrow
    obtain ⟨lit, -, rfl⟩ := List.mem_map.mp hc
    cases lit <;> rfl

theorem Sound.drawAll (h : canvas.Sound) (displays : List Display) :
    (canvas.drawAll displays).Sound := by
  induction displays generalizing canvas with
  | nil => exact h
  | cons d rest ih => exact ih (h.draw d)

/-- Making the squares row by row and then pixel by pixel is the same as the other way round. -/
theorem magnify_draw (h : canvas.Sound) (scale : Nat) (d : Display) :
    (canvas.draw d).magnify scale = .ofDisplay scale d := by
  rw [draw_eq h, magnify, Picture.ofDisplay, Picture.stretch, Picture.stretch, List.map_flatMap,
    List.flatMap_map, List.flatMap_map]
  simp only [List.map_replicate]

end Canvas

/-- Where no redraw was asked for, there is no request to take. -/
theorem Console.consumeDraw_of_not_needed {c : Console} (h : c.drawNeeded = false) :
    c.consumeDraw.1 = c := by
  rw [consumeDraw, ← h]

namespace Session

/-- **Painting renders the display.**  In a window with `scale` pixels for one of the display,
whatever events came before: if a redraw was asked for, painting gives the image one picture of the
display as it is now, `32 * scale` rows of `64 * scale` pixels of four bytes each, and takes the
request.  It is the picture that there is on a canvas behind the drawing of any displays before.  If
none was asked for, nothing changes and the image gets no picture.  Either way the window is cleared
first, the image is shown then, and the label is drawn over it exactly if the console is paused. -/
theorem paint_renders (s : Session) (hscale : 1 ≤ s.scale) (events : List Event) :
    let t := s.handleAll events
    let d := t.console.core.memory.display
    let label : List Request := if t.console.paused then [.drawLabel] else []
    (t.console.drawNeeded = true → ∃ p : Picture, p.Shows s.scale d ∧
      (∀ earlier : List Display, p = ((Canvas.fresh.drawAll earlier).draw d).magnify s.scale) ∧
      t.handle .paint =
        ⟨{ t with console := { t.console with drawNeeded := false }, image := p },
          [.clear, .setPicture (256 * s.scale) p, .blit 0 0] ++ label, [], .ok ()⟩) ∧
    (t.console.drawNeeded = false →
      t.handle .paint = ⟨t, [.clear, .blit 0 0] ++ label, [], .ok ()⟩) := by
  intro t d label
  have ht : t.scale = s.scale := s.handleAll_scale events
  constructor
  · intro hneeded
    have hpitch : 4 * t.width = 256 * s.scale := by
      rw [width, ht]
      omega
    refine ⟨.ofDisplay s.scale d, (Picture.ofDisplay_renders hscale d).shows, ?_, ?_⟩
    · intro earlier
      exact (Canvas.magnify_draw (Canvas.sound_fresh.drawAll earlier) s.scale d).symm
    · rw [handle, t.paint_of_needed hneeded, ht, hpitch]
      rfl
  · intro hneeded
    rw [handle, t.paint_of_not_needed hneeded, Console.consumeDraw_of_not_needed hneeded]
    rfl

/-- A session with a program that draws the digit 7 into the bottom left corner, at three ticks a
frame and two pixels for each of the display. -/
def drawingSeven : Session :=
  let program := [0xA0, 0x73, 0x61, 0x1B, 0xD0, 0x15]
  .new ((Console.new 3 false (.cycle #[])).load program).state.start.state 2 false

/-- The upper stroke of the digit is four pixels long.  It is 27 rows down, and thus in the tenth
row of the picture from below, where it is light up to the eighth pixel.  The label comes last. -/
theorem paint_renders_seven : 1 ≤ drawingSeven.scale ∧ ∃ p : Picture,
    p.bytes[9 * 512 + (7 * 4 + 0)]? = some 255 ∧ p.bytes[9 * 512 + (8 * 4 + 0)]? = some 0 ∧
      ((drawingSeven.handleAll [.frameDue, .keyDown .escape]).handle .paint).requests =
        [.clear, .setPicture 512 p, .blit 0 0, .drawLabel] := by
  have hscale : 1 ≤ drawingSeven.scale := Nat.le_succ 1
  obtain ⟨hneeded, hpaused, hlit, hdark⟩ :
      let c := (drawingSeven.handleAll [.frameDue, .keyDown .escape]).console
      let d := c.core.memory.display
      c.drawNeeded = true ∧ c.paused = true ∧
        d.pixel (7 / 2 : Nat) (31 - 9 / 2 : Nat) = true ∧
        d.pixel (8 / 2 : Nat) (31 - 9 / 2 : Nat) = false := by
    decide +kernel
  obtain ⟨p, hshows, -, hpaint⟩ :=
    (paint_renders drawingSeven hscale [.frameDue, .keyDown .escape]).1 hneeded
  have htwo : drawingSeven.scale = 2 := rfl
  rw [htwo] at hshows
  have hlight := hshows.byte 9 (by decide) 7 (by decide) 0 (by decide)
  have hblack := hshows.byte 9 (by decide) 8 (by decide) 0 (by decide)
  rw [hlit] at hlight
  rw [hdark] at hblack
  refine ⟨hscale, p, hlight, hblack, ?_⟩
  rw [hpaint, hpaused]
  rfl

end Session
end Chip8
