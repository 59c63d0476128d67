/-
The life of a console.

A console gets a cartridge while it is idle, runs once it is started, and goes back to being idle
when it is stopped or a fault ends a tick.  It starts over when a cartridge is put in and when it is
reset, and then all of it does: there is always room for the cartridge, so there is no way to end up
with clear registers and an old program, or with a cartridge that is not in memory.

* `Console.Quiet`, `quiet_frame` : running the machine takes no cartridge out and starts nothing;
* `Console.startsOver`, `obey_of_startsOver` : the commands that start over, and what they leave;
* `cartridge?_of_not_startsOver`, `running_of_obey` : what the others do to the cartridge, and which
  of them let a console run;
* `Console.Lawful` : what a console makes of its next command;
* `life_cycle` : the life of a console, from when it is new on.
-/
import Chip8.Proofs.Console.Run

namespace Chip8

/-- The command lets the machine run instructions. -/
def Command.runs : Command → Bool
  | .tick | .frame => true
  | _ => false

namespace Console

/-! ### Running the machine -/

/-- From `c` to `d` the cartridge has stayed, and nothing has been started. -/
structure Quiet (c d : Console) : Prop where
  cartridge? : d.cartridge? = c.cartridge?
  running : d.running = true → c.running = true

variable {c d : Console}

theorem Quiet.trans {e : Console} (h : c.Quiet d) (h' : d.Quiet e) : c.Quiet e :=
  ⟨h'.cartridge?.trans h.cartridge?, fun he => h.running (h'.running he)⟩

/-- Whatever stops a console starts nothing. -/
theorem quiet_of_idle (hcartridge : d.cartridge? = c.cartridge?) (hidle : d.running = false) :
    c.Quiet d := by
  refine ⟨hcartridge, ?_⟩
  intro hrunning
  rw [hidle] at hrunning
  cases hrunning

theorem quiet_tick (c : Console) : c.Quiet c.tick.state := by
  obtain ⟨drawn, running, drawNeeded, hrunning, h⟩ := c.tick_changes
  rw [h]
  exact ⟨rfl, hrunning⟩

theorem kept_quiet (c : Console) : Kept c.Quiet where
  tick h := h.trans (quiet_tick _)
  timerStep h := h.trans ⟨rfl, id⟩
  signalDraw h := h.trans ⟨rfl, id⟩

/-- Whole frames do no more than their ticks. -/
theorem quiet_frame (c : Console) : c.Quiet c.frame.state :=
  (kept_quiet c).frame ⟨rfl, id⟩

/-! ### Starting over -/

/-- The command makes the console start over. -/
def startsOver (c : Console) : Command → Bool
  | .load bytes => !c.running && decide (bytes.length ≤ programRoom)
  | .insert _ => !c.running
  | .reset => true
  | _ => false

/-- All registers and all of the memory are as they are behind starting over: with the program of
the cartridge in memory and the program counter at it, or clear if there is no cartridge. -/
structure Fresh (c : Console) : Prop where
  registers : c.core.registers =
    { Registers.zero with pc := if c.cartridge?.isSome then programStart else 0 }
  memory : c.core.memory = match c.cartridge? with
    | some cartridge => { Memory.initial with
        ram := Memory.initial.ram.splice programStart cartridge.bytes }
    | none => .initial

theorem fresh_new (ticksPerFrame : Int) (waitForKey : Bool) (noise : Noise) :
    (new ticksPerFrame waitForKey noise).Fresh := ⟨rfl, rfl⟩

theorem fresh_booted {cartridge : Cartridge} (h : c.cartridge? = some cartridge) :
    (c.booted cartridge).Fresh := by
  constructor
  · simp [booted, h]
  · simp [booted, h]

theorem silent_failed (c : Console) (e : Error) : silent (.failed c e) = .failed c e := rfl

theorem startsOver_load {bytes : List UInt8} :
    c.startsOver (.load bytes) = true ↔ c.running = false ∧ bytes.length ≤ programRoom := by
  simp [startsOver]

theorem startsOver_insert {cartridge : Cartridge} :
    c.startsOver (.insert cartridge) = true ↔ c.running = false := by
  simp [startsOver]

/-- Bytes that make a console start over are in it as a cartridge then. -/
theorem obey_load_of_startsOver {bytes : List UInt8} (h : c.startsOver (.load bytes) = true) :
    (c.obey (.load bytes)).result = .ok .nothing ∧ ∃ cartridge, cartridge.bytes = bytes ∧
      (c.obey (.load bytes)).state = { c with cartridge? := some cartridge }.booted cartridge := by
  obtain ⟨hidle, hroom⟩ := startsOver_load.mp h
  rw [obey, load_of_idle hidle hroom]
  exact ⟨rfl, ⟨bytes, "", hroom⟩, rfl, rfl⟩

theorem obey_insert_of_startsOver {cartridge : Cartridge}
    (h : c.startsOver (.insert cartridge) = true) :
    (c.obey (.insert cartridge)).result = .ok .nothing ∧ (c.obey (.insert cartridge)).state =
      { c with cartridge? := some cartridge }.booted cartridge := by
  have hidle := startsOver_insert.mp h
  rw [obey, insert_eq, if_neg (Bool.eq_false_iff.mp hidle)]
  exact ⟨rfl, rfl⟩

/-- A reset never fails, and it keeps the cartridge. -/
theorem obey_reset (c : Console) : (c.obey .reset).result = .ok .nothing ∧
    (c.obey .reset).state.Fresh ∧ c.Quiet (c.obey .reset).state := by
  cases hc : c.cartridge? with
  | some cartridge =>
    rw [obey, reset_of_some hc]
    exact ⟨rfl, fresh_booted hc, quiet_of_idle rfl rfl⟩
  | none =>
    rw [obey, reset_of_none hc]
    refine ⟨rfl, ⟨?_, ?_⟩, quiet_of_idle rfl rfl⟩
    · simp only [silent, Outcome.andThen, Outcome.done, atRest, hc]
      rfl
    · simp [silent, Outcome.andThen, Outcome.done, atRest, hc]

/-- Starting over never fails and never ends half-way. -/
theorem obey_of_startsOver {command : Command} (h : c.startsOver command = true) :
    (c.obey command).result = .ok .nothing ∧ (c.obey command).state.Fresh := by
  cases command with
  | load bytes =>
    obtain ⟨hresult, cartridge, -, hstate⟩ := obey_load_of_startsOver h
    rw [hstate]
    exact ⟨hresult, fresh_booted rfl⟩
  | insert cartridge =>
    obtain ⟨hresult, hstate⟩ := obey_insert_of_startsOver h
    rw [hstate]
    exact ⟨hresult, fresh_booted rfl⟩
  | reset => exact ⟨c.obey_reset.1, c.obey_reset.2.1⟩
  | _ => cases h

/-! ### Refusals -/

/-- Bytes that do not make a console start over are refused, and nothing has happened. -/
theorem obey_load_of_not_startsOver {bytes : List UInt8}
    (h : c.startsOver (.load bytes) = false) :
    c.running = true ∧ c.obey (.load bytes) = .failed c .alreadyRunning ∨
      c.running = false ∧ programRoom < bytes.length ∧
        c.obey (.load bytes) = .failed c (.tooLarge bytes.length programRoom) := by
  cases hrunning : c.running with
  | true =>
    left
    rw [obey, load_of_running hrunning]
    exact ⟨rfl, silent_failed c _⟩
  | false =>
    have hlarge : programRoom < bytes.length := by simpa [startsOver, hrunning] using h
    right
    rw [obey, load_of_tooLarge hrunning hlarge]
    exact ⟨rfl, hlarge, silent_failed c _⟩

theorem obey_insert_of_not_startsOver {cartridge : Cartridge}
    (h : c.startsOver (.insert cartridge) = false) :
    c.running = true ∧ c.obey (.insert cartridge) = .failed c .alreadyRunning := by
  have hrunning : c.running = true := by simpa [startsOver] using h
  rw [obey, insert_eq, if_pos hrunning]
  exact ⟨hrunning, silent_failed c _⟩

theorem obey_start (c : Console) : c.obey .start =
    if c.cartridge?.isNone then .failed c .nothingLoaded
    else .done { c with running := true } .nothing := by
  rw [obey, start]
  split <;> rfl

/-- A command that fails although no instruction has run has been refused. -/
theorem obey_of_error {command : Command} (hruns : command.runs = false) {e : Error}
    (he : (c.obey command).result = .error e) : c.obey command = .failed c e := by
  cases hover : c.startsOver command with
  | true =>
    rw [(obey_of_startsOver hover).1] at he
    cases he
  | false =>
    -- All that can fail now is known in full.
    have hfailed : ∀ e', c.obey command = .failed c e' → c.obey command = .failed c e := by
      intro e' h
      rw [h] at he ⊢
      rw [Except.error.inj he]
    cases command with
    | load bytes =>
      rcases obey_load_of_not_startsOver hover with ⟨-, h⟩ | ⟨-, -, h⟩
      · exact hfailed _ h
      · exact hfailed _ h
    | insert cartridge => exact hfailed _ (obey_insert_of_not_startsOver hover).2
    | start =>
      rw [obey_start] at he hfailed ⊢
      split at he
      · next hnone => exact hfailed _ (if_pos hnone)
      · cases he
    | tick | frame => cases hruns
    | reset => cases hover
    | stop | togglePause | press _ | release _ | consumeDraw => cases he

/-! ### Commands that do not start over -/

/-- Registers and memory change when the machine runs and when it starts over, and at no other
time. -/
theorem obey_untouched {command : Command} (hruns : command.runs = false)
    (hover : c.startsOver command = false) :
    (c.obey command).state.core.registers = c.core.registers ∧
      (c.obey command).state.core.memory = c.core.memory ∧
      (c.obey command).state.cartridge? = c.cartridge? := by
  cases command with
  | load bytes =>
    rcases obey_load_of_not_startsOver hover with ⟨-, h⟩ | ⟨-, -, h⟩
    · rw [h]
      exact ⟨rfl, rfl, rfl⟩
    · rw [h]
      exact ⟨rfl, rfl, rfl⟩
  | insert cartridge =>
    rw [(obey_insert_of_not_startsOver hover).2]
    exact ⟨rfl, rfl, rfl⟩
  | start =>
    rw [obey_start]
    split <;> exact ⟨rfl, rfl, rfl⟩
  | tick | frame => cases hruns
  | reset => cases hover
  | stop | togglePause | press _ | release _ | consumeDraw => exact ⟨rfl, rfl, rfl⟩

theorem quiet_obey_of_runs {command : Command} (hruns : command.runs = true) :
    c.Quiet (c.obey command).state := by
  rw [obey_state]
  cases command with
  | tick => exact quiet_tick c
  | frame => exact quiet_frame c
  | _ => cases hruns

/-- The cartridge is the same as long as nothing starts over. -/
theorem cartridge?_of_not_startsOver {command : Command} (hover : c.startsOver command = false) :
    (c.obey command).state.cartridge? = c.cartridge? := by
  cases hruns : command.runs with
  | true => exact (quiet_obey_of_runs hruns).cartridge?
  | false => exact (obey_untouched hruns hover).2.2

/-- Another cartridge is in the console only if it was put in just now. -/
theorem cartridge?_changed {command : Command}
    (h : (c.obey command).state.cartridge? ≠ c.cartridge?) :
    c.running = false ∧ (c.obey command).result = .ok .nothing ∧
      ∃ cartridge, (c.obey command).state.cartridge? = some cartridge ∧
        (command = .insert cartridge ∨ command = .load cartridge.bytes) := by
  have hover : c.startsOver command = true :=
    Bool.of_not_eq_false fun hover => h (cartridge?_of_not_startsOver hover)
  cases command with
  | load bytes =>
    obtain ⟨hresult, cartridge, rfl, hstate⟩ := obey_load_of_startsOver hover
    refine ⟨(startsOver_load.mp hover).1, hresult, cartridge, ?_, .inr rfl⟩
    rw [hstate]
    rfl
  | insert cartridge =>
    obtain ⟨hresult, hstate⟩ := obey_insert_of_startsOver hover
    refine ⟨startsOver_insert.mp hover, hresult, cartridge, ?_, .inl rfl⟩
    rw [hstate]
    rfl
  | reset => exact absurd c.obey_reset.2.2.cartridge? h
  | _ => cases hover

/-- No command takes the cartridge out. -/
theorem isSome_obey (h : c.cartridge?.isSome = true) (command : Command) :
    (c.obey command).state.cartridge?.isSome = true := by
  by_cases hsame : (c.obey command).state.cartridge? = c.cartridge?
  · rw [hsame]
    exact h
  · obtain ⟨-, -, cartridge, hcartridge, -⟩ := cartridge?_changed hsame
    rw [hcartridge]
    rfl

/-- Nothing but starting lets a console run. -/
theorem running_of_obey {command : Command} (h : (c.obey command).state.running = true) :
    c.running = true ∨ command = .start ∧ c.cartridge?.isSome = true := by
  cases command with
  | load bytes =>
    left
    cases hover : c.startsOver (.load bytes) with
    | true =>
      obtain ⟨-, cartridge, -, hstate⟩ := obey_load_of_startsOver hover
      rw [hstate] at h
      exact h
    | false =>
      rcases obey_load_of_not_startsOver hover with ⟨hrunning, -⟩ | ⟨-, -, hobey⟩
      · exact hrunning
      · rw [hobey] at h
        exact h
  | insert cartridge =>
    left
    cases hover : c.startsOver (.insert cartridge) with
    | true =>
      rw [(obey_insert_of_startsOver hover).2] at h
      exact h
    | false => exact (obey_insert_of_not_startsOver hover).1
  | start =>
    rw [obey_start] at h
    split at h
    · exact .inl h
    · next hsome => exact .inr ⟨rfl, by simpa [Option.isSome_iff_ne_none] using hsome⟩
  | stop => cases h
  | reset => exact .inl (c.obey_reset.2.2.running h)
  | tick => exact .inl ((quiet_obey_of_runs rfl).running h)
  | frame => exact .inl ((quiet_obey_of_runs rfl).running h)
  | togglePause | press _ | release _ | consumeDraw => exact .inl h

/-! ### The next command -/

/-- What a console makes of its next command. -/
structure Lawful (c : Console) : Prop where
  /-- Bytes are refused while the console runs, and if there are too many of them. -/
  load_error : ∀ bytes e, (c.obey (.load bytes)).result = .error e ↔
    c.running = true ∧ e = .alreadyRunning ∨
      c.running = false ∧ 3584 < bytes.length ∧ e = .tooLarge bytes.length 3584
  insert_error : ∀ cartridge e, (c.obey (.insert cartridge)).result = .error e ↔
    c.running = true ∧ e = .alreadyRunning
  start_error : ∀ e, (c.obey .start).result = .error e ↔
    c.cartridge? = none ∧ e = .nothingLoaded
  /-- Where no instruction has run, a failure leaves everything as it was. -/
  failed : ∀ command e, command.runs = false → (c.obey command).result = .error e →
    c.obey command = .failed c e
  /-- Starting over never fails and never ends half-way. -/
  startsOver : ∀ command, c.startsOver command = true →
    (c.obey command).result = .ok .nothing ∧ (c.obey command).state.Fresh
  /-- Other commands that run no instruction leave registers and memory as they are. -/
  untouched : ∀ command, c.startsOver command = false → command.runs = false →
    (c.obey command).state.core.registers = c.core.registers ∧
      (c.obey command).state.core.memory = c.core.memory
  /-- Bytes that are accepted are in the console then. -/
  loaded : ∀ bytes, c.running = false → bytes.length ≤ 3584 →
    ∃ cartridge, (c.obey (.load bytes)).state.cartridge? = some cartridge ∧
      cartridge.bytes = bytes
  inserted : ∀ cartridge, c.running = false →
    (c.obey (.insert cartridge)).state.cartridge? = some cartridge
  /-- The cartridge changes in no other way. -/
  changed : ∀ command, (c.obey command).state.cartridge? ≠ c.cartridge? →
    c.running = false ∧ (c.obey command).result = .ok .nothing ∧
      ∃ cartridge, (c.obey command).state.cartridge? = some cartridge ∧
        (command = .insert cartridge ∨ command = .load cartridge.bytes)
  kept : ∀ command, c.cartridge?.isSome = true →
    (c.obey command).state.cartridge?.isSome = true
  /-- Only starting lets an idle console run. -/
  started : ∀ command, c.running = false → (c.obey command).state.running = true →
    command = .start

theorem load_error_iff (c : Console) (bytes : List UInt8) (e : Error) :
    (c.obey (.load bytes)).result = .error e ↔ c.running = true ∧ e = .alreadyRunning ∨
      c.running = false ∧ programRoom < bytes.length ∧ e = .tooLarge bytes.length programRoom := by
  cases hover : c.startsOver (.load bytes) with
  | true =>
    obtain ⟨hidle, hroom⟩ := startsOver_load.mp hover
    rw [(obey_of_startsOver hover).1]
    simp [hidle, Nat.not_lt.mpr hroom]
  | false =>
    rcases obey_load_of_not_startsOver hover with ⟨hrunning, hobey⟩ | ⟨hidle, hlarge, hobey⟩
    · rw [hobey]
      simp [Outcome.failed, hrunning, eq_comm]
    · rw [hobey]
      simp [Outcome.failed, hidle, hlarge, eq_comm]

theorem insert_error_iff (c : Console) (cartridge : Cartridge) (e : Error) :
    (c.obey (.insert cartridge)).result = .error e ↔ c.running = true ∧ e = .alreadyRunning := by
  cases hover : c.startsOver (.insert cartridge) with
  | true =>
    rw [(obey_of_startsOver hover).1]
    simp [startsOver_insert.mp hover]
  | false =>
    obtain ⟨hrunning, hobey⟩ := obey_insert_of_not_startsOver hover
    rw [hobey]
    simp [Outcome.failed, hrunning, eq_comm]

theorem start_error_iff (c : Console) (e : Error) : (c.obey .start).result = .error e ↔
    c.cartridge? = none ∧ e = .nothingLoaded := by
  rw [obey_start]
  split
  · next hnone =>
    simp [Outcome.failed, Option.isNone_iff_eq_none.mp hnone, eq_comm]
  · next hsome =>
    have hloaded : c.cartridge? ≠ none := fun h => hsome (Option.isNone_iff_eq_none.mpr h)
    simp [Outcome.done, hloaded]

/-- All consoles treat their commands in this way, whatever came before. -/
theorem lawful (c : Console) : c.Lawful where
  load_error := c.load_error_iff
  insert_error := c.insert_error_iff
  start_error := c.start_error_iff
  failed _ _ hruns he := obey_of_error hruns he
  startsOver _ hover := obey_of_startsOver hover
  untouched _ hover hruns := by
    obtain ⟨hregisters, hmemory, -⟩ := obey_untouched hruns hover
    exact ⟨hregisters, hmemory⟩
  loaded bytes hidle hroom := by
    obtain ⟨-, cartridge, hbytes, hstate⟩ :=
      obey_load_of_startsOver (startsOver_load.mpr ⟨hidle, hroom⟩)
    rw [hstate]
    exact ⟨cartridge, rfl, hbytes⟩
  inserted cartridge hidle := by
    rw [(obey_insert_of_startsOver (startsOver_insert.mpr hidle)).2]
    rfl
  changed _ h := cartridge?_changed h
  kept command h := isSome_obey h command
  started command hidle h := by
    rcases running_of_obey h with hrunning | ⟨hstart, -⟩
    · rw [hidle] at hrunning
      cases hrunning
    · exact hstart

/-! ### All commands so far -/

/-- No console runs without a cartridge, if it did not to begin with. -/
theorem isSome_of_running (hc : c.running = true → c.cartridge?.isSome = true)
    (commands : List Command) (h : (c.obeyAll commands).running = true) :
    (c.obeyAll commands).cartridge?.isSome = true := by
  refine obeyAll_keep (P := fun c => c.running = true → c.cartridge?.isSome = true) ?_ hc commands h
  intro c command hc hrunning
  rcases running_of_obey hrunning with hrunning | ⟨-, hloaded⟩
  · exact isSome_obey (hc hrunning) command
  · exact isSome_obey hloaded command

/-- The console does not start over at any of the commands. -/
def GoesOn : Console → List Command → Prop
  | _, [] => True
  | c, command :: commands =>
    c.startsOver command = false ∧ (c.obey command).state.GoesOn commands

theorem GoesOn.cartridge? {commands : List Command} (h : c.GoesOn commands) :
    (c.obeyAll commands).cartridge? = c.cartridge? := by
  induction commands generalizing c with
  | nil => rfl
  | cons command commands ih => exact (ih h.2).trans (cartridge?_of_not_startsOver h.1)

theorem obeyAll_append (c : Console) (earlier later : List Command) :
    c.obeyAll (earlier ++ later) = (c.obeyAll earlier).obeyAll later :=
  List.foldl_append

/-- Either nothing starts over, or there is a last command that does. -/
theorem goesOn_or_exists_fresh (c : Console) (commands : List Command) : c.GoesOn commands ∨
    ∃ earlier later, commands = earlier ++ later ∧ (c.obeyAll earlier).Fresh ∧
      (c.obeyAll earlier).GoesOn later := by
  induction commands generalizing c with
  | nil => exact .inl trivial
  | cons command commands ih =>
    rcases ih (c.obey command).state with hgoesOn | ⟨earlier, later, rfl, hfresh, hlater⟩
    · cases hover : c.startsOver command with
      | false => exact .inl ⟨hover, hgoesOn⟩
      | true => exact .inr ⟨[command], commands, rfl, (obey_of_startsOver hover).2, hgoesOn⟩
    · exact .inr ⟨command :: earlier, later, rfl, hfresh, hlater⟩

/-- **The life of a console.**  After any commands to a new console, it runs only with a cartridge
in it, which is short enough.  At some time all registers and all of the memory were as this
cartridge makes them, and since then it has not started over.  And what it makes of the next command
is lawful. -/
theorem life_cycle (ticksPerFrame : Int) (waitForKey : Bool) (noise : Noise)
    (commands : List Command) :
    let unused := new ticksPerFrame waitForKey noise
    let c := unused.obeyAll commands
    (c.running = true → c.cartridge?.isSome = true) ∧
    (∀ cartridge, c.cartridge? = some cartridge → cartridge.bytes.length ≤ 3584) ∧
    (∃ earlier later, commands = earlier ++ later ∧ (unused.obeyAll earlier).Fresh ∧
      (unused.obeyAll earlier).GoesOn later ∧
      (unused.obeyAll earlier).cartridge? = c.cartridge?) ∧
    c.Lawful := by
  intro unused c
  have hidle : unused.running = true → unused.cartridge?.isSome = true := by
    intro h
    cases h
  refine ⟨isSome_of_running hidle commands, fun cartridge _ => cartridge.fits, ?_, c.lawful⟩
  rcases goesOn_or_exists_fresh unused commands with hgoesOn | ⟨earlier, later, rfl, hfresh, hlater⟩
  · exact ⟨[], commands, rfl, fresh_new ticksPerFrame waitForKey noise, hgoesOn,
      hgoesOn.cartridge?.symm⟩
  · refine ⟨earlier, later, rfl, hfresh, hlater, ?_⟩
    rw [← hlater.cartridge?, ← obeyAll_append]

end Console
end Chip8
