/-
Restarting from the keyboard.

The restart key resets a paused console and then starts it.  Any console can be reset, but only one
with a cartridge can be started.  With a cartridge both steps succeed, and the console runs like a
new one.  Without one the second step fails, and by then the first has been made: the keys are up,
registers and memory are clear, and the pause is over.

* `cartridge?_handleAll` : through its window a session comes to no other cartridge;
* `handle_f5_of_some`, `not_allOrNothing_of_none` : one key press, with a cartridge and without;
* `restart_allOrNothing_iff` : it depends on the cartridge alone, whatever was done in the window.
-/
import Chip8.Proofs.Console.LifeCycle
import Chip8.Proofs.Console.Restart
import Chip8.Proofs.Desktop.Handling

namespace Chip8

/-- The window system has reported the event. -/
def Event.FromWindow (event : Event) : Prop := ∀ command, event ≠ .command command

/-- The command puts a cartridge in, if the console is idle. -/
def Command.Supplies (command : Command) : Prop :=
  ∃ cartridge : Cartridge, command = .insert cartridge ∨ command = .load cartridge.bytes

namespace Console

variable {c : Console}

theorem cartridge?_obey {command : Command} (h : ¬ command.Supplies) :
    (c.obey command).state.cartridge? = c.cartridge? := by
  by_cases hsame : (c.obey command).state.cartridge? = c.cartridge?
  · exact hsame
  · obtain ⟨-, -, cartridge, -, hsupplies⟩ := cartridge?_changed hsame
    exact absurd ⟨cartridge, hsupplies⟩ h

/-- From `c` to `d` the console has started over and runs: it is like a new one that was given the
cartridge of `c` and was started, but for the counts of instructions and of random bytes. -/
structure StartedOver (c d : Console) : Prop where
  running : d.running = true
  paused : d.paused = false
  fresh : d.Fresh
  likeNew : ∃ cartridge, c.cartridge? = some cartridge ∧ ∀ noise,
    d = (c.unused noise cartridge).state.start.state.withPast c.cycles c.core.noise

theorem startedOver_booted {cartridge : Cartridge} (h : c.cartridge? = some cartridge) :
    c.StartedOver { c.atRest.booted cartridge with running := true } := by
  have hloaded : c.atRest.cartridge? = some cartridge := h
  have hfresh := fresh_booted hloaded
  refine ⟨rfl, rfl, ⟨hfresh.registers, hfresh.memory⟩, cartridge, h, ?_⟩
  intro noise
  rw [unused_eq, withPast, atRest, h]
  rfl

end Console

namespace Session

variable {s : Session}

/-! ### The cartridge -/

theorem commands_fromWindow (s : Session) {event : Event} (hevent : event.FromWindow) :
    ∀ command ∈ s.commands event, ¬ command.Supplies := by
  intro command hmem
  rcases s.mem_commands hmem with hgiven | ⟨-, rfl⟩ | husual
  · exact absurd hgiven (hevent command)
  · simp [Command.Supplies]
  · cases husual <;> simp [Command.Supplies]

theorem cartridge?_handle {event : Event} (hevent : event.FromWindow) :
    (s.handle event).session.console.cartridge? = s.console.cartridge? := by
  rw [handle_console]
  refine Console.obeyAll_keep_of (P := fun c => c.cartridge? = s.console.cartridge?) ?_ rfl
  intro c command hmem h
  rw [Console.cartridge?_obey (s.commands_fromWindow hevent command hmem), h]

/-- Whatever is done in its window, a session keeps its cartridge, and gets none. -/
theorem cartridge?_handleAll {events : List Event} (hevents : ∀ event ∈ events, event.FromWindow) :
    (s.handleAll events).console.cartridge? = s.console.cartridge? := by
  refine handleAll_keep_of (P := fun t => t.console.cartridge? = s.console.cartridge?) ?_ rfl
  intro t event hmem h
  rw [cartridge?_handle (hevents event hmem), h]

/-! ### One key press -/

/-- The restart key either succeeds, and the console has started over and runs, or it fails, and
nothing has happened to the console. -/
inductive AllOrNothing (s : Session) : Prop
  | all (hresult : (s.handle (.keyDown .f5)).result = .ok ())
      (hconsole : s.console.StartedOver (s.handle (.keyDown .f5)).session.console)
  | nothing {e : Error} (hresult : (s.handle (.keyDown .f5)).result = .error e)
      (hconsole : (s.handle (.keyDown .f5)).session.console = s.console)

/-- On a paused console the key does what resetting and starting do. -/
theorem handle_f5 (hpaused : s.console.paused = true) :
    s.handle (.keyDown .f5) = s.follow (s.console.reset.andThen fun _ c => c.start) :=
  if_pos hpaused

/-- With a cartridge it succeeds. -/
theorem handle_f5_of_some (hpaused : s.console.paused = true) {cartridge : Cartridge}
    (h : s.console.cartridge? = some cartridge) :
    (s.handle (.keyDown .f5)).result = .ok () ∧
      s.console.StartedOver (s.handle (.keyDown .f5)).session.console := by
  rw [handle_f5 hpaused, Console.reset_start_of_some h]
  exact ⟨rfl, Console.startedOver_booted h⟩

/-- Without a cartridge the key fails, but the console has been reset. -/
theorem handle_f5_of_none (hpaused : s.console.paused = true) (h : s.console.cartridge? = none) :
    s.handle (.keyDown .f5) =
      ⟨{ s with console := s.console.reset.state }, [], s.printed #["Emulator reset"],
        .error .nothingLoaded⟩ := by
  rw [handle_f5 hpaused, Console.reset_start_of_none h]
  rfl

/-- It is no longer paused then, so something has happened to it. -/
theorem not_allOrNothing_of_none (hpaused : s.console.paused = true)
    (h : s.console.cartridge? = none) : ¬ s.AllOrNothing := by
  have hkey := handle_f5_of_none hpaused h
  rintro (⟨hresult, -⟩ | ⟨-, hconsole⟩)
  · rw [hkey] at hresult
    cases hresult
  · have hafter : s.console.reset.state.paused = false := by
      rw [Console.reset_of_none h]
      rfl
    rw [hkey] at hconsole
    rw [show s.console.reset.state = s.console from hconsole, hpaused] at hafter
    cases hafter

/-! ### Any time -/

/-- **The restart key is all or nothing exactly if there is a cartridge.**  Take a session that the
window system has reported any events to, and whose console is paused.  If there was a cartridge to
begin with, pressing the key succeeds, and the console runs as one does that was just given the
cartridge.  If there was none, the key fails with the error of starting, but it leaves the console
as a reset leaves it, not paused and with all keys up. -/
theorem restart_allOrNothing_iff (s : Session) {events : List Event}
    (hevents : ∀ event ∈ events, event.FromWindow)
    (hpaused : (s.handleAll events).console.paused = true) :
    let t := s.handleAll events
    (t.AllOrNothing ↔ s.console.cartridge?.isSome = true) ∧
    (s.console.cartridge?.isSome = true → (t.handle (.keyDown .f5)).result = .ok () ∧
      t.console.StartedOver (t.handle (.keyDown .f5)).session.console) ∧
    (s.console.cartridge? = none →
      t.handle (.keyDown .f5) =
        ⟨{ t with console := t.console.reset.state }, [], t.printed #["Emulator reset"],
          .error .nothingLoaded⟩ ∧
      t.console.reset.state.paused = false ∧ t.console.reset.state.core.keys = .allUp) := by
  intro t
  have hcartridge : t.console.cartridge? = s.console.cartridge? := cartridge?_handleAll hevents
  cases hs : s.console.cartridge? with
  | some cartridge =>
    rw [hs] at hcartridge
    obtain ⟨hresult, hconsole⟩ := handle_f5_of_some hpaused hcartridge
    have hall : t.AllOrNothing := .all hresult hconsole
    refine ⟨by simp [hall], fun _ => ⟨hresult, hconsole⟩, ?_⟩
    intro h
    cases h
  | none =>
    rw [hs] at hcartridge
    have hneither : ¬ t.AllOrNothing := not_allOrNothing_of_none hpaused hcartridge
    refine ⟨by simp [hneither], ?_, ?_⟩
    · intro h
      cases h
    · intro _
      refine ⟨handle_f5_of_none hpaused hcartridge, ?_⟩
      rw [Console.reset_of_none hcartridge]
      exact ⟨rfl, rfl⟩

/-- A session with a program that does nothing but jump to itself, at ten ticks a frame. -/
def jumping : Session :=
  .new ((Console.new 10 false (.cycle #[])).load [0x12, 0x00]).state.start.state 1 false

/-- With a key down, behind a frame, it is paused and restarted. -/
theorem restart_allOrNothing_jumping :
    (∀ event ∈ [Event.keyDown .q, .frameDue, .keyDown .escape], event.FromWindow) ∧
      (jumping.handleAll [.keyDown .q, .frameDue, .keyDown .escape]).console.paused = true ∧
      (jumping.handleAll [.keyDown .q, .frameDue, .keyDown .escape]).AllOrNothing ∧
      ((jumping.handleAll [.keyDown .q, .frameDue, .keyDown .escape]).handle
        (.keyDown .f5)).session.console.running = true := by
  have hevents : ∀ event ∈ [Event.keyDown .q, .frameDue, .keyDown .escape], event.FromWindow := by
    simp [Event.FromWindow]
  have hpaused :
      (jumping.handleAll [.keyDown .q, .frameDue, .keyDown .escape]).console.paused = true := by
    decide +kernel
  have hloaded : jumping.console.cartridge?.isSome = true := rfl
  obtain ⟨hiff, hstarted, -⟩ := restart_allOrNothing_iff jumping hevents hpaused
  exact ⟨hevents, hpaused, hiff.mpr hloaded, (hstarted hloaded).2.running⟩

/-- A session on a console that was never given a program. -/
def bare : Session := .new (.new 20 false (.cycle #[])) 10 false

/-- With a key down it is paused and restarted.  That fails, but the console is no longer paused and
the key is up. -/
theorem not_allOrNothing_bare :
    let t := bare.handleAll [.keyDown .q, .keyDown .escape]
    (t.console.paused = true ∧ t.console.core.keys.down 4 = true) ∧
      (t.handle (.keyDown .f5)).result = .error .nothingLoaded ∧
      ((t.handle (.keyDown .f5)).session.console.paused = false ∧
        (t.handle (.keyDown .f5)).session.console.core.keys.down 4 = false) ∧
      ¬ t.AllOrNothing := by
  intro t
  have hpaused : t.console.paused = true := rfl
  have hnone : t.console.cartridge? = none := rfl
  refine ⟨⟨hpaused, rfl⟩, ?_, ?_, not_allOrNothing_of_none hpaused hnone⟩
  · rw [handle_f5_of_none hpaused hnone]
  · exact ⟨rfl, rfl⟩

end Session
end Chip8
