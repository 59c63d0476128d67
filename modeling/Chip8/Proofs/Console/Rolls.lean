/-
The random bytes of a run.

One instruction draws a random byte, and nothing else does: not the other instructions, not a tick
that fails, not the timer step, and no command that runs no instruction.  So the bytes of the source
go one by one, in their order, to the words `Cxkk` that a run executes.

* `Core.roll?`, `tick_past`, `tick_of_roll` : what one tick draws, and where the byte goes;
* `Console.allOnsets` : the consoles from which the ticks of a row of commands start;
* `threaded_allOnsets` : each of these ticks goes on in the source where the one before stopped;
* `Threaded.last_eq`, `Threaded.next_of_getElem?` : so they share out the bytes that lie ahead.
-/
import Chip8.Proofs.Console.LifeCycle
import Chip8.Proofs.Console.Course
import Chip8.Proofs.Core.Periphery
import Chip8.Proofs.Instr.Patterns

namespace Chip8

namespace Noise

/-- The source behind a number of further bytes. -/
def skip (noise : Noise) (n : Nat) : Noise := { noise with drawn := noise.drawn + n }

theorem skip_skip (noise : Noise) (m n : Nat) : (noise.skip m).skip n = noise.skip (m + n) :=
  congrArg (Noise.mk noise.byte) (Nat.add_assoc _ _ _)

end Noise

namespace Core

/-- The register and the mask of the word `Cxkk` at the program counter, if there is one. -/
def roll? (c : Core) : Option (Reg × UInt8) :=
  match c.fetch with
  | .ok (word, _) => if word.family = 0xC then some (word.x, word.kk) else none
  | .error _ => none

variable {c : Core}

theorem noise_of_fetch {word : Word} {after : Core} (h : c.fetch = .ok (word, after)) :
    after.noise = c.noise := by
  rw [of_fetch_eq_ok h]
  rfl

theorem roll?_eq_some_iff {x : Reg} {kk : UInt8} : c.roll? = some (x, kk) ↔
    ∃ word after, c.fetch = .ok (word, after) ∧ Instr.decode word = .random x kk := by
  rw [roll?]
  cases c.fetch with
  | error e => simp
  | ok found =>
    obtain ⟨word, after⟩ := found
    have hword : Instr.decode word = .random x kk ↔ _ := Instr.decode_eq_random_iff
    by_cases hfamily : word.family = 0xC <;> simp_all

/-- Running one instruction draws a byte exactly if it is `Cxkk`. -/
theorem ran_noise (c : Core) : c.ran.noise = c.noise.skip c.roll?.toList.length := by
  rw [ran]
  cases hfetch : c.fetch with
  | error e =>
    rw [roll?, hfetch]
    rfl
  | ok found =>
    obtain ⟨word, after⟩ := found
    dsimp only
    rw [execute_noise, noise_of_fetch hfetch]
    cases hroll : c.roll? with
    | some roll =>
      obtain ⟨word', after', hfetch', hword⟩ := roll?_eq_some_iff.mp hroll
      cases hfetch.symm.trans hfetch'
      rw [hword]
      rfl
    | none =>
      cases hword : Instr.decode word with
      | random x kk =>
        rw [roll?_eq_some_iff.mpr ⟨word, after, hfetch, hword⟩] at hroll
        cases hroll
      | _ => rfl

end Core

namespace Console

variable {c : Console}

/-! ### One tick -/

/-- The counts that a console goes on with: where it is in its source, and how many instructions it
has completed. -/
def past (c : Console) : Noise × Nat := (c.core.noise, c.cycles)

/-- A tick draws a byte if it executes `Cxkk`, and counts its instruction if it succeeds. -/
theorem tick_past (c : Console) : c.tick.state.past =
    (c.core.noise.skip c.core.roll?.toList.length, c.cycles + c.tick.result.isOk.toNat) := by
  obtain ⟨drawn, running, drawNeeded, -, h⟩ := c.tick_changes
  rw [past, h]
  exact congrArg (·, _) c.core.ran_noise

/-- The byte goes to Vx, where the mask lets it through. -/
theorem tick_of_roll {x : Reg} {kk : UInt8} (h : c.core.roll? = some (x, kk)) :
    c.tick.result = .ok () ∧ c.tick.state.core.v x = (c.core.noise.next &&& kk).toNat := by
  obtain ⟨word, after, hfetch, hword⟩ := Core.roll?_eq_some_iff.mp h
  rw [← Core.noise_of_fetch hfetch]
  simp only [tick, hfetch, hword]
  refine ⟨rfl, ?_⟩
  show (after.registers.put x (after.noise.next &&& kk).toNat).get x = _
  rw [Registers.get_put, if_pos rfl]

/-! ### The ticks of a run -/

/-- The consoles from which ticks in a row start, up to the first tick that fails. -/
def onsets : Nat → Console → List Console
  | 0, _ => []
  | n + 1, c => c :: if c.tick.result.isOk then onsets n c.tick.state else []

/-- The consoles from which the ticks of a frame start. -/
def frameOnsets (c : Console) : List Console :=
  if c.running && !c.paused then
    onsets c.half c ++
      if (c.ticks c.half).result.isOk then onsets c.otherHalf (c.ticks c.half).state.timerStep
      else []
  else []

/-- The consoles from which the ticks that a command makes start. -/
def commandOnsets (c : Console) : Command → List Console
  | .tick => [c]
  | .frame => c.frameOnsets
  | _ => []

/-- The consoles from which all the ticks start that a row of commands makes. -/
def allOnsets : Console → List Command → List Console
  | _, [] => []
  | c, command :: rest => c.commandOnsets command ++ (c.obey command).state.allOnsets rest

/-- Those of them that execute a word `Cxkk`. -/
def rolls (onsets : List Console) : List Console := onsets.filter fun c => c.core.roll?.isSome

/-- Those of them that complete an instruction. -/
def completions (onsets : List Console) : List Console := onsets.filter fun c => c.tick.result.isOk

theorem length_rolls_cons (c : Console) (ticked : List Console) :
    (rolls (c :: ticked)).length = c.core.roll?.toList.length + (rolls ticked).length := by
  rw [rolls, List.filter_cons]
  cases c.core.roll? with
  | none => exact (Nat.zero_add _).symm
  | some roll => exact Nat.add_comm _ 1

theorem length_completions_cons (c : Console) (ticked : List Console) :
    (completions (c :: ticked)).length =
      c.tick.result.isOk.toNat + (completions ticked).length := by
  rw [completions, List.filter_cons]
  cases c.tick.result.isOk with
  | false => exact (Nat.zero_add _).symm
  | true => exact Nat.add_comm _ 1

/-- Each tick goes on with the counts that the one before it left. -/
def Threaded : Noise × Nat → List Console → Noise × Nat → Prop
  | first, [], last => last = first
  | first, c :: rest, last => c.past = first ∧ Threaded c.tick.state.past rest last

namespace Threaded

variable {first middle last : Noise × Nat} {ticked later : List Console}

theorem append (h : Threaded first ticked middle) (h' : Threaded middle later last) :
    Threaded first (ticked ++ later) last := by
  induction ticked generalizing first with
  | nil =>
    rw [show middle = first from h] at h'
    exact h'
  | cons c rest ih => exact ⟨h.1, ih h.2⟩

/-- Nothing but these ticks has moved the counts. -/
theorem last_eq (h : Threaded first ticked last) :
    last = (first.1.skip (rolls ticked).length, first.2 + (completions ticked).length) := by
  induction ticked generalizing first with
  | nil => exact h
  | cons c rest ih =>
    obtain ⟨rfl, hrest⟩ := h
    rw [ih hrest, tick_past, Noise.skip_skip, Nat.add_assoc, ← length_rolls_cons,
      ← length_completions_cons]
    rfl

/-- What a tick goes on with is what the ticks before it left. -/
theorem take (h : Threaded first ticked last) {i : Nat} {d : Console} (hd : ticked[i]? = some d) :
    Threaded first (ticked.take i) d.past := by
  induction ticked generalizing first i with
  | nil => cases hd
  | cons c rest ih =>
    cases i with
    | zero =>
      cases hd
      exact h.1
    | succ i => exact ⟨h.1, ih h.2 hd⟩

/-- Random bytes are handed out in their order. -/
theorem next_of_getElem? (h : Threaded first ticked last) {m : Nat} {d : Console}
    (hd : (rolls ticked)[m]? = some d) : d.core.noise = first.1.skip m := by
  induction ticked generalizing first m with
  | nil => cases hd
  | cons c rest ih =>
    obtain ⟨rfl, hrest⟩ := h
    have hnext := congrArg Prod.fst c.tick_past
    -- The first tick draws nothing, or the byte with number zero; the others follow.
    cases hroll : c.core.roll? with
    | none =>
      rw [rolls, List.filter_cons_of_neg (by simp [hroll])] at hd
      rw [hroll] at hnext
      rw [ih hrest hd, hnext]
      rfl
    | some roll =>
      rw [rolls, List.filter_cons_of_pos (by simp [hroll])] at hd
      rw [hroll] at hnext
      cases m with
      | zero =>
        cases hd
        rfl
      | succ m =>
        rw [ih hrest hd, hnext, Noise.skip_skip, Nat.add_comm m 1]
        rfl

end Threaded

theorem threaded_tick (c : Console) : Threaded c.past [c] c.tick.state.past := ⟨rfl, rfl⟩

theorem threaded_onsets (log : Array String) (n : Nat) (c : Console) :
    Threaded c.past (onsets n c) (ticksAfter log n c).state.past := by
  induction n generalizing log c with
  | zero => rfl
  | succ n ih =>
    refine ⟨rfl, ?_⟩
    simp only [ticksAfter]
    cases c.tick.result with
    | ok _ => exact ih _ c.tick.state
    | error e => rfl

theorem frameOnsets_of_active (h : c.Active) : c.frameOnsets = onsets c.half c ++
    if (c.ticks c.half).result.isOk then onsets c.otherHalf (c.ticks c.half).state.timerStep
    else [] :=
  if_pos (active_iff.mp h)

theorem frameOnsets_of_not_active (h : ¬ c.Active) : c.frameOnsets = [] :=
  if_neg fun hactive => h (active_iff.mpr hactive)

/-- The timer step and the signals of a frame move no counts. -/
theorem threaded_frameOnsets (c : Console) : Threaded c.past c.frameOnsets c.frame.state.past := by
  by_cases hactive : c.Active
  · have hfirst := threaded_onsets #[] c.half c
    rw [frameOnsets_of_active hactive, frame_of_active hactive, Outcome.andThen]
    rw [← ticks] at hfirst
    cases hresult : (c.ticks c.half).result with
    | error e => exact hfirst.append rfl
    | ok _ =>
      refine hfirst.append ?_
      have hsecond := threaded_onsets #[] c.otherHalf (c.ticks c.half).state.timerStep
      rw [← ticks] at hsecond
      dsimp only
      rw [Outcome.andThen]
      cases ((c.ticks c.half).state.timerStep.ticks c.otherHalf).result with
      | error e => exact hsecond
      | ok _ => exact hsecond
  · rw [frameOnsets_of_not_active hactive, frame_of_not_active hactive]
    rfl

/-- Neither does a command that runs no instruction, not even if it starts over. -/
theorem obey_past {command : Command} (h : command.runs = false) :
    (c.obey command).state.past = c.past := by
  rw [obey_state]
  -- Starting over clears registers and memory, and goes on in the source.
  cases command with
  | load bytes =>
    show (c.load bytes).state.past = c.past
    rcases c.load_cases bytes with ⟨e, hload⟩ | ⟨cartridge, log, hload⟩ <;> rw [hload] <;> rfl
  | insert cartridge =>
    show (c.insert cartridge).state.past = c.past
    rcases c.insert_cases cartridge with ⟨e, hinsert⟩ | ⟨log, hinsert⟩ <;> rw [hinsert] <;> rfl
  | start =>
    show c.start.state.past = c.past
    rw [start]
    split <;> rfl
  | reset =>
    show c.reset.state.past = c.past
    cases hc : c.cartridge? with
    | some cartridge =>
      rw [reset_of_some hc]
      rfl
    | none =>
      rw [reset_of_none hc]
      rfl
  | tick | frame => cases h
  | stop | togglePause | press _ | release _ | consumeDraw => rfl

theorem threaded_commandOnsets (c : Console) (command : Command) :
    Threaded c.past (c.commandOnsets command) (c.obey command).state.past := by
  cases hruns : command.runs with
  | true =>
    rw [obey_state]
    cases command with
    | tick => exact c.threaded_tick
    | frame => exact c.threaded_frameOnsets
    | _ => cases hruns
  | false =>
    rw [obey_past hruns]
    cases command with
    | tick | frame => cases hruns
    | _ => rfl

theorem threaded_allOnsets (c : Console) (commands : List Command) :
    Threaded c.past (c.allOnsets commands) (c.obeyAll commands).past := by
  induction commands generalizing c with
  | nil => rfl
  | cons command rest ih =>
    exact (c.threaded_commandOnsets command).append (ih (c.obey command).state)

end Console
end Chip8
