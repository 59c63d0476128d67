/-
No redraw is lost.

The display changes in frames, in restarts and with new cartridges, and only painting gives the
image a new picture.  In between, the request for a redraw passes from the core to the console and
from there to the session.  None of them drops it: whenever no request is under way, the image shows
what is on the display.

* `handle_upToDate` : no event of a front end leaves the image behind unnoticed;
* `image_of_opened` : so no row of events does.
-/
import Chip8.Proofs.Console.Shown
import Chip8.Proofs.Desktop.Handling
import Chip8.Proofs.Desktop.Rendering

namespace Chip8

/-- An event of a front end, which makes ticks only in frames and takes the requests for a redraw
only by painting. -/
structure Event.FrontEnd (event : Event) : Prop where
  tick : event ≠ .command .tick
  consumeDraw : event ≠ .command .consumeDraw

namespace Console

theorem obeyAll_upToDate {shown : Display} {c : Console} (h : UpToDate shown c)
    {commands : List Command}
    (hcommands : ∀ command ∈ commands, command ≠ .tick ∧ command ≠ .consumeDraw) :
    UpToDate shown (c.obeyAll commands) := by
  refine obeyAll_keep_of ?_ h
  intro d command hmem h
  obtain ⟨htick, hconsume⟩ := hcommands command hmem
  exact obey_upToDate h htick hconsume

end Console

namespace Session

variable {s : Session}

/-- The image shows a display, and the one of the console has not changed from it without a request
for a redraw. -/
def UpToDate (s : Session) : Prop :=
  ∃ shown, s.console.UpToDate shown ∧ s.image = .ofDisplay s.scale shown

theorem commands_of_frontEnd (s : Session) {event : Event} (hevent : event.FrontEnd)
    (hpaint : event ≠ .paint) :
    ∀ command ∈ s.commands event, command ≠ .tick ∧ command ≠ .consumeDraw := by
  intro command hmem
  rcases s.mem_commands hmem with rfl | ⟨hpainting, -⟩ | husual
  · constructor
    · rintro rfl
      exact hevent.tick rfl
    · rintro rfl
      exact hevent.consumeDraw rfl
  · exact absurd hpainting hpaint
  · cases husual <;> simp

theorem paint_upToDate (h : s.UpToDate) : s.paint.session.UpToDate := by
  obtain ⟨shown, hconsole, himage⟩ := h
  cases hneeded : s.console.drawNeeded with
  | true =>
    rw [s.paint_of_needed hneeded]
    exact ⟨_, hconsole.consumeDraw, rfl⟩
  | false =>
    -- The image is kept, but without a request it shows what is on the display.
    rw [s.paint_of_not_needed hneeded]
    rw [← hconsole.display hneeded] at himage
    exact ⟨_, hconsole.consumeDraw, himage⟩

theorem handle_upToDate (h : s.UpToDate) {event : Event} (hevent : event.FrontEnd) :
    (s.handle event).session.UpToDate := by
  by_cases hpaint : event = .paint
  · subst hpaint
    exact paint_upToDate h
  · -- The image stays, and the console gets commands that take no request away.
    obtain ⟨shown, hconsole, himage⟩ := h
    have hquiet := s.handle_quiet hpaint
    refine ⟨shown, ?_, ?_⟩
    · rw [handle_console]
      exact Console.obeyAll_upToDate hconsole (s.commands_of_frontEnd hevent hpaint)
    · rw [hquiet.image, hquiet.scale, himage]

theorem handleAll_upToDate (h : s.UpToDate) {events : List Event}
    (hevents : ∀ event ∈ events, event.FrontEnd) : (s.handleAll events).UpToDate := by
  refine handleAll_keep_of ?_ h
  intro t event hmem h
  exact handle_upToDate h (hevents event hmem)

/-- Sessions that have just been opened, on a new console or on one that was just given a program
and started. -/
inductive Opened : Session → Prop
  | new (ticksPerFrame : Int) (waitForKey : Bool) (noise : Noise) {scale : Nat} (hscale : 1 ≤ scale)
      (logsOn : Bool) : Opened (.new (.new ticksPerFrame waitForKey noise) scale logsOn)
  | loaded {c : Console} {bytes : List UInt8} (hload : (c.load bytes).result = .ok ()) {scale : Nat}
      (hscale : 1 ≤ scale) (logsOn : Bool) :
      Opened (.new (c.load bytes).state.start.state scale logsOn)
  | inserted {c : Console} {cartridge : Cartridge} (hinsert : (c.insert cartridge).result = .ok ())
      {scale : Nat} (hscale : 1 ≤ scale) (logsOn : Bool) :
      Opened (.new (c.insert cartridge).state.start.state scale logsOn)

theorem Opened.scale_pos (h : s.Opened) : 0 < s.scale := by
  cases h with
  | new _ _ _ hscale _ | loaded _ hscale _ | inserted _ hscale _ => exact hscale

/-- At first the image is blank, and on a console with a program a redraw is asked for. -/
theorem Opened.upToDate (h : s.Opened) : s.UpToDate := by
  refine ⟨.blank, ?_, ?_⟩
  · cases h with
    | new ticksPerFrame waitForKey noise _ _ =>
      exact Console.upToDate_new ticksPerFrame waitForKey noise
    | loaded hload _ _ => exact Console.start_upToDate (Console.upToDate_of_load .blank hload)
    | inserted hinsert _ _ =>
      exact Console.start_upToDate (Console.upToDate_of_insert .blank hinsert)
  · cases h <;> rfl

/-- **No redraw is ever lost.**  After any events of a front end no drawing is left unsignalled, and
if no redraw is asked for then the picture that the image was given last is the picture of the
display as it is. -/
theorem image_of_opened (h : s.Opened) {events : List Event}
    (hevents : ∀ event ∈ events, event.FrontEnd) :
    (s.handleAll events).console.core.drawn = false ∧
    ((s.handleAll events).console.drawNeeded = false →
      ∃ p, lastPicture? (s.opening ++ s.asked events) = some p ∧
        p.Renders s.scale (s.handleAll events).console.core.memory.display) := by
  obtain ⟨shown, hconsole, himage⟩ := handleAll_upToDate h.upToDate hevents
  refine ⟨hconsole.drawn, fun hneeded => ⟨(s.handleAll events).image, ?_, ?_⟩⟩
  · have hopening : lastPicture? s.opening = some s.image := rfl
    rw [lastPicture?_append, hopening, handleAll_image]
    cases lastPicture? (s.asked events) <;> rfl
  · refine (Picture.renders_iff h.scale_pos).mpr ?_
    rw [himage, handleAll_scale, hconsole.display hneeded]

/-- A session with a program that draws the digit 0 into the top left corner, at two ticks a
frame. -/
def drawingZero : Session :=
  .new ((Console.new 2 false (.cycle #[])).load [0xA0, 0x50, 0xD0, 0x05]).state.start.state 1 false

/-- The digit is in the top row of the picture, which is the last, once a frame was painted. -/
theorem image_of_drawingZero :
    drawingZero.Opened ∧ (∀ event ∈ [Event.frameDue, .paint], event.FrontEnd) ∧
      ∃ p row,
        lastPicture? (drawingZero.opening ++ drawingZero.asked [.frameDue, .paint]) = some p ∧
          p[31]? = some row ∧ row[0]? = some .white := by
  have h : drawingZero.Opened := .loaded rfl (Nat.le_refl 1) false
  have hevents : ∀ event ∈ [Event.frameDue, .paint], event.FrontEnd :=
    List.forall_mem_cons.mpr ⟨⟨nofun, nofun⟩, List.forall_mem_singleton.mpr ⟨nofun, nofun⟩⟩
  have hneeded : (drawingZero.handleAll [.frameDue, .paint]).console.drawNeeded = false := by
    decide +kernel
  have hlit : (drawingZero.handleAll [.frameDue, .paint]).console.core.memory.display.pixel 0 0 =
      true := by
    decide +kernel
  obtain ⟨p, hlast, hrenders⟩ := (image_of_opened h hevents).2 hneeded
  obtain ⟨row, hrow, -, hpixel⟩ := hrenders.row 31 (by decide)
  refine ⟨h, hevents, p, row, hlast, hrow, ?_⟩
  rw [hpixel 0 (by decide)]
  exact congrArg (fun lit => some (Colour.ofPixel lit)) hlit

end Session
end Chip8
