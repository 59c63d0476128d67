/-
Starting over.

A cartridge always fits into memory, so starting over from one cannot fail, and it leaves a machine
that depends on what was there before only in its keys, its random bytes and its settings.

* `boot_eq` : starting over, in full;
* `insert_eq`, `load_eq`, `reset_of_some`, `reset_of_none` : the commands that start over, in full;
* `reset_start_of_some`, `reset_start_of_none` : resetting and starting in a row, in full;
* `load_of_idle`, `load_of_tooLarge`, `load_of_running` : which bytes are put in, and which are
  refused;
* `insert_cases`, `load_cases` : a cartridge is refused, or the console starts over from it;
* `obey_state` : what each command leaves;
* `obeyAll_keep_of`, `obeyAll_keep` : what commands keep, rows of them keep.
-/
import Chip8.Console.Command
import Chip8.Proofs.Storage.Loading

namespace Chip8.Console

/-- The console that has started over from a cartridge. -/
def booted (c : Console) (cartridge : Cartridge) : Console :=
  { c with
    core := { c.core with
      registers := { Registers.zero with pc := programStart }
      memory := { Memory.initial with
        ram := Memory.initial.ram.splice programStart cartridge.bytes }
      drawn := false }
    drawNeeded := true
    tone := false }

/-- Programs that fit are loaded, whatever was in memory. -/
theorem load_cartridge (m : Memory) (cartridge : Cartridge) :
    m.load cartridge.bytes programStart =
      ⟨{ Memory.initial with ram := Memory.initial.ram.splice programStart cartridge.bytes },
        .ok (), #[Memory.loadedLine cartridge.bytes programStart]⟩ :=
  Memory.load_of_fits m (by decide) cartridge.fits

/-- Starting over never fails. -/
theorem boot_eq (c : Console) (cartridge : Cartridge) :
    c.boot cartridge = ⟨c.booted cartridge, .ok (),
      #[Memory.loadedLine cartridge.bytes programStart]⟩ := by
  simp only [boot, load_cartridge]
  rfl

theorem insert_eq (c : Console) (cartridge : Cartridge) : c.insert cartridge =
    if c.running then .failed c .alreadyRunning
    else ⟨{ c with cartridge? := some cartridge }.booted cartridge, .ok (),
      #[Memory.loadedLine cartridge.bytes programStart]⟩ := by
  rw [insert, boot_eq]

theorem load_eq (c : Console) (bytes : List UInt8) : c.load bytes =
    if c.running then .failed c .alreadyRunning
    else match Cartridge.ofBytes bytes "" with
      | .error e => .failed c e
      | .ok cartridge => ⟨{ c with cartridge? := some cartridge }.booted cartridge, .ok (),
          #[Memory.loadedLine cartridge.bytes programStart]⟩ := by
  rw [load]
  split
  · rfl
  · next hrunning =>
    cases Cartridge.ofBytes bytes "" with
    | error e => rfl
    | ok cartridge => simp only [insert_eq, if_neg hrunning]

/-- Bytes that are few enough are put into any console that is idle. -/
theorem load_of_idle {c : Console} (hidle : c.running = false) {bytes : List UInt8}
    (h : bytes.length ≤ programRoom) :
    c.load bytes = ⟨{ c with cartridge? := some ⟨bytes, "", h⟩ }.booted ⟨bytes, "", h⟩, .ok (),
      #[Memory.loadedLine bytes programStart]⟩ := by
  rw [load_eq, if_neg (Bool.eq_false_iff.mp hidle), Cartridge.ofBytes_ok h]

/-- Bytes that are too many are refused. -/
theorem load_of_tooLarge {c : Console} (hidle : c.running = false) {bytes : List UInt8}
    (h : programRoom < bytes.length) :
    c.load bytes = .failed c (.tooLarge bytes.length programRoom) := by
  rw [load_eq, if_neg (Bool.eq_false_iff.mp hidle), Cartridge.ofBytes, dif_neg (Nat.not_le.mpr h)]

/-- Nothing is put into a console that runs. -/
theorem load_of_running {c : Console} (hrunning : c.running = true) (bytes : List UInt8) :
    c.load bytes = .failed c .alreadyRunning := by
  rw [load_eq, if_pos hrunning]

/-- A cartridge is refused, or the console starts over from it. -/
theorem insert_cases (c : Console) (cartridge : Cartridge) :
    (∃ e, c.insert cartridge = .failed c e) ∨
      ∃ log, c.insert cartridge =
        ⟨{ c with cartridge? := some cartridge }.booted cartridge, .ok (), log⟩ := by
  rw [insert_eq]
  split
  · exact .inl ⟨_, rfl⟩
  · exact .inr ⟨_, rfl⟩

theorem load_cases (c : Console) (bytes : List UInt8) : (∃ e, c.load bytes = .failed c e) ∨
    ∃ cartridge log, c.load bytes =
      ⟨{ c with cartridge? := some cartridge }.booted cartridge, .ok (), log⟩ := by
  rw [load_eq]
  split
  · exact .inl ⟨_, rfl⟩
  · cases Cartridge.ofBytes bytes "" with
    | error e => exact .inl ⟨e, rfl⟩
    | ok cartridge => exact .inr ⟨cartridge, _, rfl⟩

/-- The console stopped and not paused, with all keys up. -/
def atRest (c : Console) : Console :=
  { c with running := false, paused := false, core := { c.core with keys := .allUp } }

theorem reset_of_some {c : Console} {cartridge : Cartridge} (h : c.cartridge? = some cartridge) :
    c.reset = ⟨c.atRest.booted cartridge, .ok (),
      #[Memory.loadedLine cartridge.bytes programStart, "Emulator reset"]⟩ := by
  simp only [reset, h, boot_eq]
  rw [← h]
  rfl

theorem reset_of_none {c : Console} (h : c.cartridge? = none) :
    c.reset = ⟨{ c.atRest with
      core := { c.atRest.core with registers := .zero, memory := .initial } }, .ok (),
      #["Emulator reset"]⟩ := by
  simp only [reset, h]
  rw [← h]
  rfl

/-- A console with a cartridge is reset and started. -/
theorem reset_start_of_some {c : Console} {cartridge : Cartridge}
    (h : c.cartridge? = some cartridge) :
    (c.reset.andThen fun _ c => c.start) =
      ⟨{ c.atRest.booted cartridge with running := true }, .ok (),
        #[Memory.loadedLine cartridge.bytes programStart, "Emulator reset"]⟩ := by
  have hloaded : (c.atRest.booted cartridge).cartridge? = some cartridge := h
  rw [reset_of_some h, Outcome.andThen]
  simp [start, hloaded, Outcome.done]

/-- A console without one is reset, but not started. -/
theorem reset_start_of_none {c : Console} (h : c.cartridge? = none) :
    (c.reset.andThen fun _ c => c.start) =
      ⟨c.reset.state, .error .nothingLoaded, #["Emulator reset"]⟩ := by
  have hempty : c.atRest.cartridge? = none := h
  rw [reset_of_none h, Outcome.andThen]
  simp [start, hempty, Outcome.failed]

/-- A command that answers nothing leaves what its call left. -/
theorem silent_state (o : Outcome Console Unit) : (silent o).state = o.state := by
  obtain ⟨state, result, log⟩ := o
  cases result <;> rfl

/-- Asking for a frame leaves what the frame left. -/
theorem obey_frame_state (c : Console) : (c.obey .frame).state = c.frame.state := by
  rw [obey]
  obtain ⟨state, result, log⟩ := c.frame
  cases result <;> rfl

/-- What commands leave, their answers apart. -/
theorem obey_state (c : Console) (command : Command) : (c.obey command).state =
    match command with
    | .load bytes => (c.load bytes).state
    | .insert cartridge => (c.insert cartridge).state
    | .start => c.start.state
    | .stop => c.stop
    | .reset => c.reset.state
    | .togglePause => { c with paused := !c.paused }
    | .press key => c.press key
    | .release key => c.release key
    | .tick => c.tick.state
    | .frame => c.frame.state
    | .consumeDraw => c.consumeDraw.1 := by
  cases command with
  | load _ | insert _ | start | reset | tick => exact silent_state _
  | frame => exact obey_frame_state c
  | stop | togglePause | press _ | release _ | consumeDraw => rfl

/-- What all commands of a row keep, the row keeps. -/
theorem obeyAll_keep_of {P : Console → Prop} {commands : List Command}
    (hobey : ∀ {c : Console} {command : Command}, command ∈ commands → P c →
      P (c.obey command).state) {c : Console} (h : P c) : P (c.obeyAll commands) := by
  induction commands generalizing c with
  | nil => exact h
  | cons command rest ih =>
    refine ih ?_ (hobey List.mem_cons_self h)
    intro d command' hmem
    exact hobey (List.mem_cons_of_mem _ hmem)

/-- What every command keeps, rows of commands keep. -/
theorem obeyAll_keep {P : Console → Prop}
    (hobey : ∀ {c : Console} (command : Command), P c → P (c.obey command).state) {c : Console}
    (h : P c) (commands : List Command) : P (c.obeyAll commands) :=
  obeyAll_keep_of (fun {_ command} _ => hobey command) h

end Chip8.Console
