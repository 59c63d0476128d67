/-
What ticks, timer steps and signals keep, frames keep.

* `tick_changes` : what a tick changes in a console, whether it fails or not;
* `tick_keys`, `frame_keys` : running the machine moves no key;
* `ticks_keep` : a property that ticks keep is kept by any number of them, up to the first that
  fails;
* `Kept.frame` : a property that every part of a frame keeps is kept by whole frames, those that a
  fault ends included;
* `Lasting.obey` : a property of cores that starting over keeps too is kept by all commands.
-/
import Chip8.Proofs.Console.Boot
import Chip8.Proofs.Core.Fetch

namespace Chip8

/-- The machine behind fetching an instruction and running it, as far as that goes. -/
def Core.ran (c : Core) : Core :=
  match c.fetch with
  | .ok (word, after) => (after.execute (Instr.decode word)).state
  | .error _ => c

theorem Core.ran_keys (c : Core) : c.ran.keys = c.keys := by
  rw [ran]
  split
  · next word after hfetch =>
    rw [execute_keys, of_fetch_eq_ok hfetch]
    rfl
  · rfl

namespace Console

/-- Stopping on a fault takes the mark that the display was drawn on; other errors do nothing. -/
theorem halt_changes (c : Console) (place : Place) (e : Error) : ∃ drawn running drawNeeded,
    (running = true → c.running = true) ∧ (c.halt place e).result.isOk = false ∧
      (c.halt place e).state = { c with
        core := { c.core with drawn := drawn }, running := running, drawNeeded := drawNeeded } := by
  rw [halt]
  split
  · exact ⟨false, false, _, nofun, rfl, rfl⟩
  · exact ⟨c.core.drawn, c.running, c.drawNeeded, id, rfl, rfl⟩

/-- A tick, one that fails too, runs one instruction as far as that goes, may stop the console or
ask for a redraw, and counts if it succeeds.  It does nothing else. -/
theorem tick_changes (c : Console) : ∃ drawn running drawNeeded,
    (running = true → c.running = true) ∧ c.tick.state = { c with
      core := { c.core.ran with drawn := drawn }, running := running, drawNeeded := drawNeeded,
      cycles := c.cycles + c.tick.result.isOk.toNat } := by
  rw [tick, Core.ran]
  -- The instruction cannot be fetched, it is fetched and fails, or it is done.
  cases c.core.fetch with
  | error e =>
    obtain ⟨drawn, running, drawNeeded, hrunning, hresult, hstate⟩ :=
      c.halt_changes (.fetching c.core.registers.pc) e
    refine ⟨drawn, running, drawNeeded, hrunning, ?_⟩
    dsimp only
    rw [hstate, hresult]
    rfl
  | ok found =>
    obtain ⟨word, after⟩ := found
    dsimp only
    split
    · next e _ =>
      obtain ⟨drawn, running, drawNeeded, hrunning, hresult, hstate⟩ := halt_changes
        { c with core := (after.execute (Instr.decode word)).state }
        (.instruction c.core.registers.pc word) e
      refine ⟨drawn, running, drawNeeded, hrunning, ?_⟩
      rw [hstate, hresult]
      rfl
    · exact ⟨_, c.running, c.drawNeeded, id, rfl⟩

theorem tick_cycles (c : Console) : c.tick.state.cycles = c.cycles + c.tick.result.isOk.toNat := by
  obtain ⟨drawn, running, drawNeeded, -, h⟩ := c.tick_changes
  exact congrArg cycles h

theorem tick_keys (c : Console) : c.tick.state.core.keys = c.core.keys := by
  obtain ⟨drawn, running, drawNeeded, -, h⟩ := c.tick_changes
  rw [h]
  exact c.core.ran_keys

/-- A property of consoles that everything which a frame is made of keeps. -/
structure Kept (P : Console → Prop) : Prop where
  tick : ∀ {c : Console}, P c → P c.tick.state
  timerStep : ∀ {c : Console}, P c → P c.timerStep
  signalDraw : ∀ {c : Console}, P c → P c.signalDraw

/-- What a tick keeps, ticks in a row keep. -/
theorem ticksAfter_keep {P : Console → Prop} (htick : ∀ {c : Console}, P c → P c.tick.state)
    (log : Array String) (n : Nat) {c : Console} (h : P c) : P (ticksAfter log n c).state := by
  induction n generalizing log c with
  | zero => exact h
  | succ n ih =>
    have hstep := htick h
    simp only [Console.ticksAfter]
    cases c.tick.result with
    | ok _ => exact ih _ hstep
    | error e => exact hstep

theorem ticks_keep {P : Console → Prop} (htick : ∀ {c : Console}, P c → P c.tick.state) (n : Nat)
    {c : Console} (h : P c) : P (c.ticks n).state :=
  ticksAfter_keep htick #[] n h

namespace Kept

variable {P : Console → Prop}

theorem ticks (kept : Kept P) (n : Nat) {c : Console} (h : P c) : P (c.ticks n).state :=
  ticks_keep kept.tick n h

theorem frame (kept : Kept P) {c : Console} (h : P c) : P c.frame.state := by
  rw [Console.frame]
  split
  · exact h
  · have hfirst := kept.ticks (c.ticksPerFrame / 2).toNat h
    simp only [Outcome.andThen]
    cases (c.ticks (c.ticksPerFrame / 2).toNat).result with
    | error e => exact hfirst
    | ok _ =>
      have hsecond := kept.ticks (c.ticksPerFrame - c.ticksPerFrame / 2).toNat
        (kept.timerStep hfirst)
      dsimp only
      cases (((c.ticks (c.ticksPerFrame / 2).toNat).state.timerStep.ticks
        (c.ticksPerFrame - c.ticksPerFrame / 2).toNat).result) with
      | error e => exact hsecond
      | ok _ => exact kept.signalDraw hsecond

end Kept

/-- No frame moves a key. -/
theorem frame_keys (c : Console) : c.frame.state.core.keys = c.core.keys := by
  have kept : Kept fun d => d.core.keys = c.core.keys := by
    refine ⟨?_, id, id⟩
    intro d h
    rw [tick_keys, h]
  exact kept.frame rfl

/-- A property of cores that nothing takes away: frames keep it, it does not depend on the keys, and
it holds of a core that has started over. -/
structure Lasting (Q : Core → Prop) : Prop where
  kept : Kept fun c => Q c.core
  keys : ∀ {c : Core} (keys : Keys), Q c → Q { c with keys := keys }
  booted : ∀ (c : Console) (cartridge : Cartridge), Q (c.booted cartridge).core
  cleared : ∀ {c : Core}, Q c → Q { c with registers := .zero, memory := .initial }

/-- No command takes a lasting property away, those that fail included. -/
theorem Lasting.obey {Q : Core → Prop} (lasting : Lasting Q) {c : Console} (h : Q c.core)
    (command : Command) : Q (c.obey command).state.core := by
  rw [obey_state]
  cases command with
  | load bytes =>
    show Q (c.load bytes).state.core
    rcases c.load_cases bytes with ⟨e, hload⟩ | ⟨cartridge, log, hload⟩
    · rw [hload]
      exact h
    · rw [hload]
      exact lasting.booted _ cartridge
  | insert cartridge =>
    show Q (c.insert cartridge).state.core
    rcases c.insert_cases cartridge with ⟨e, hinsert⟩ | ⟨log, hinsert⟩
    · rw [hinsert]
      exact h
    · rw [hinsert]
      exact lasting.booted _ cartridge
  | start =>
    show Q c.start.state.core
    rw [start]
    split <;> exact h
  | reset =>
    show Q c.reset.state.core
    cases hc : c.cartridge? with
    | some cartridge =>
      rw [reset_of_some hc]
      exact lasting.booted _ cartridge
    | none =>
      rw [reset_of_none hc]
      exact lasting.cleared (lasting.keys .allUp h)
  | tick => exact lasting.kept.tick h
  | frame => exact lasting.kept.frame h
  | stop | togglePause | consumeDraw => exact h
  | press key => exact lasting.keys (c.core.keys.press key) h
  | release key => exact lasting.keys (c.core.keys.release key) h

end Console
end Chip8
