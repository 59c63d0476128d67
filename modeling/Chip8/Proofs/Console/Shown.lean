/-
What was shown last.

Somebody has shown a display.  As long as the console does not ask for a redraw, the display is
still the same.  Programs draw on it, but each frame ends with the request for a redraw if there was
drawing in it; starting over asks for one too.  A reset without a cartridge clears the display and
asks for nothing, but then nothing was on it.

* `tick_pending` : within a frame, a change of the display is signalled or about to be;
* `frame_upToDate`, `obey_upToDate` : no command lets the display change without asking for a
  redraw.
-/
import Chip8.Proofs.Console.Interruption

namespace Chip8.Console

variable {c : Console} {shown : Display}

/-- Within a frame: the display is as it was shown, unless a redraw is asked for or will be. -/
structure Pending (shown : Display) (c : Console) : Prop where
  wellFormed : c.core.WellFormed
  loaded : c.cartridge? ≠ none
  display : c.drawNeeded = false → c.core.drawn = false → c.core.memory.display = shown

theorem Pending.signalDraw (h : Pending shown c) : Pending shown c.signalDraw where
  wellFormed := h.wellFormed
  loaded := h.loaded
  display := fun hneeded _ => by
    obtain ⟨hneeded, hdrawn⟩ := Bool.or_eq_false_iff.mp hneeded
    exact h.display hneeded hdrawn

theorem Pending.stopped (h : Pending shown c) : Pending shown c.stopped :=
  ⟨h.signalDraw.wellFormed, h.signalDraw.loaded, h.signalDraw.display⟩

theorem Pending.fetched (h : Pending shown c) :
    Pending shown { c with core := c.core.fetched } where
  wellFormed := h.wellFormed.fetched
  loaded := h.loaded
  display := fun hneeded hdrawn => by
    have hsame := c.core.fetched_sameScreen
    exact hsame.display.trans (h.display hneeded (hsame.drawn.symm.trans hdrawn))

theorem tick_pending (h : Pending shown c) : Pending shown c.tick.state := by
  cases hf : c.core.fault? with
  | some f =>
    rw [tick_of_fault h.wellFormed hf]
    exact h.fetched.stopped
  | none =>
    have hnext := h.wellFormed.advanced (Core.fault?_eq_none_iff.mp hf).1
    rw [tick_of_clear h.wellFormed hf]
    refine ⟨Core.execute_wellFormed hnext _, h.loaded, fun hneeded hdrawn => ?_⟩
    -- Without a mark behind the instruction there was none before it, and it drew nothing.
    have hsame := Core.execute_shown hnext c.core.instr hdrawn
    exact hsame.display.trans (h.display hneeded (hsame.drawn.symm.trans hdrawn))

theorem kept_pending : Kept (Pending shown) where
  tick := tick_pending
  timerStep h := ⟨h.wellFormed.countDown, h.loaded, h.display⟩
  signalDraw := Pending.signalDraw

/-- No drawing is left to be signalled, and without a request for a redraw the display is the one
that was shown.  Without a cartridge the console is idle and nothing was ever drawn. -/
structure UpToDate (shown : Display) (c : Console) : Prop where
  wellFormed : c.core.WellFormed
  drawn : c.core.drawn = false
  display : c.drawNeeded = false → c.core.memory.display = shown
  unloaded : c.cartridge? = none → c.running = false ∧ c.core.memory.display = .blank

theorem upToDate_new (ticksPerFrame : Int) (waitForKey : Bool) (noise : Noise) :
    UpToDate .blank (new ticksPerFrame waitForKey noise) :=
  ⟨Registers.inRange_zero, rfl, fun _ => rfl, fun _ => ⟨rfl, rfl⟩⟩

/-- Starting over asks for a redraw, whatever was shown. -/
theorem upToDate_booted (shown : Display) {c : Console} (hc : c.cartridge? ≠ none)
    (cartridge : Cartridge) : UpToDate shown (c.booted cartridge) where
  wellFormed := Registers.inRange_zero.withPc (by decide)
  drawn := rfl
  display := nofun
  unloaded := fun hnone => absurd hnone hc

theorem frame_upToDate (h : UpToDate shown c) : UpToDate shown c.frame.state := by
  by_cases hactive : c.Active
  · -- A running console has a cartridge, so the clause about those without one says nothing here.
    have hloaded : c.cartridge? ≠ none := by
      intro hnone
      have hidle := (h.unloaded hnone).1
      rw [hactive.running] at hidle
      cases hidle
    have hpending : Pending shown c.frame.state :=
      kept_pending.frame ⟨h.wellFormed, hloaded, fun hneeded _ => h.display hneeded⟩
    -- Whichever way the frame ends, it signals what was drawn.
    have hdrawn : c.frame.state.core.drawn = false := by
      rcases ok_or_stopsAt c with hok | ⟨j, e, hstop⟩
      · rw [(frame_of_ok hactive hok).1]
        rfl
      · obtain ⟨f, -, hinterrupted⟩ := interrupted h.wellFormed hactive hstop
        exact hinterrupted.drawn
    exact ⟨hpending.wellFormed, hdrawn, fun hneeded => hpending.display hneeded hdrawn,
      fun hnone => absurd hnone hpending.loaded⟩
  · rw [frame_of_not_active hactive]
    exact h

/-- A new cartridge that is not refused makes up for whatever was there before. -/
theorem upToDate_of_insert (shown : Display) {c : Console} {cartridge : Cartridge}
    (hok : (c.insert cartridge).result = .ok ()) : UpToDate shown (c.insert cartridge).state := by
  rcases c.insert_cases cartridge with ⟨e, h⟩ | ⟨log, h⟩
  · rw [h] at hok
    cases hok
  · rw [h]
    exact upToDate_booted shown (Option.some_ne_none _) cartridge

theorem upToDate_of_load (shown : Display) {c : Console} {bytes : List UInt8}
    (hok : (c.load bytes).result = .ok ()) : UpToDate shown (c.load bytes).state := by
  rcases c.load_cases bytes with ⟨e, h⟩ | ⟨cartridge, log, h⟩
  · rw [h] at hok
    cases hok
  · rw [h]
    exact upToDate_booted shown (Option.some_ne_none _) cartridge

theorem insert_upToDate (h : UpToDate shown c) (cartridge : Cartridge) :
    UpToDate shown (c.insert cartridge).state := by
  rcases c.insert_cases cartridge with ⟨e, hfailed⟩ | ⟨log, hinsert⟩
  · rw [hfailed]
    exact h
  · exact upToDate_of_insert shown (congrArg Outcome.result hinsert)

theorem load_upToDate (h : UpToDate shown c) (bytes : List UInt8) :
    UpToDate shown (c.load bytes).state := by
  rcases c.load_cases bytes with ⟨e, hfailed⟩ | ⟨cartridge, log, hload⟩
  · rw [hfailed]
    exact h
  · exact upToDate_of_load shown (congrArg Outcome.result hload)

theorem start_upToDate (h : UpToDate shown c) : UpToDate shown c.start.state := by
  rw [start]
  split
  · exact h
  · next hsome =>
    exact ⟨h.wellFormed, h.drawn, h.display,
      fun hnone => absurd (Option.isNone_iff_eq_none.mpr hnone) hsome⟩

theorem reset_upToDate (h : UpToDate shown c) : UpToDate shown c.reset.state := by
  cases hc : c.cartridge? with
  | some cartridge =>
    rw [reset_of_some hc]
    have hloaded : c.atRest.cartridge? ≠ none := by
      rw [show c.atRest.cartridge? = some cartridge from hc]
      nofun
    exact upToDate_booted shown hloaded cartridge
  | none =>
    rw [reset_of_none hc]
    -- The display is cleared without a word, but it was blank already.
    have hblank : Memory.initial.display = c.core.memory.display := (h.unloaded hc).2.symm
    exact ⟨Registers.inRange_zero, h.drawn, fun hneeded => hblank.trans (h.display hneeded),
      fun _ => ⟨rfl, rfl⟩⟩

/-- All commands keep it but a tick outside of a frame, which may draw without signalling it, and
taking the request. -/
theorem obey_upToDate (h : UpToDate shown c) {command : Command} (htick : command ≠ .tick)
    (hconsume : command ≠ .consumeDraw) : UpToDate shown (c.obey command).state := by
  rw [obey_state]
  cases command with
  | load bytes => exact load_upToDate h bytes
  | insert cartridge => exact insert_upToDate h cartridge
  | start => exact start_upToDate h
  | reset => exact reset_upToDate h
  | frame => exact frame_upToDate h
  | stop => exact ⟨h.wellFormed, h.drawn, h.display, fun hnone => ⟨rfl, (h.unloaded hnone).2⟩⟩
  | togglePause | press key | release key => exact ⟨h.wellFormed, h.drawn, h.display, h.unloaded⟩
  | tick => exact absurd rfl htick
  | consumeDraw => exact absurd rfl hconsume

/-- Once the display has been shown, what was shown before does not matter. -/
theorem UpToDate.consumeDraw (h : UpToDate shown c) :
    UpToDate c.core.memory.display c.consumeDraw.1 :=
  ⟨h.wellFormed, h.drawn, fun _ => rfl, h.unloaded⟩

end Chip8.Console
