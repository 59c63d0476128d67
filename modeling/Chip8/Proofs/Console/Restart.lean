/-
A reset is a clean start.

Resetting a console leaves nothing behind of what was done with it before, but for two counts: of
the instructions completed, and of the random bytes drawn.  Neither can be seen.  So a console that
was reset and a new one with the same cartridge go on in the same way for ever, if the same random
bytes lie ahead of them.

* `lockstep_past` : the two counts are never seen, and their differences never change;
* `reset_state` : a reset console, compared with a new one;
* `reset_like_new` : they answer the same to whatever comes after it.
-/
import Chip8.Proofs.Console.Lockstep
import Chip8.Proofs.Core.Periphery

namespace Chip8

namespace Noise

/-- The same bytes lie ahead, however many have been drawn. -/
def SameAhead (noise noise' : Noise) : Prop :=
  ∀ k, noise.byte (noise.drawn + k) = noise'.byte (noise'.drawn + k)

/-- A fresh stream of the bytes that lie ahead. -/
def ahead (noise : Noise) : Noise := ⟨fun k => noise.byte (noise.drawn + k), 0⟩

theorem sameAhead_ahead (noise : Noise) : noise.SameAhead noise.ahead := by
  intro k
  show noise.byte (noise.drawn + k) = noise.byte (noise.drawn + (0 + k))
  rw [Nat.zero_add]

variable {noise noise' : Noise}

theorem SameAhead.next (h : noise.SameAhead noise') : noise'.next = noise.next := (h 0).symm

theorem SameAhead.rest (h : noise.SameAhead noise') : noise.rest.SameAhead noise'.rest := by
  intro k
  have hk := h (1 + k)
  rw [← Nat.add_assoc, ← Nat.add_assoc] at hk
  exact hk

theorem SameAhead.after (h : noise.SameAhead noise') (i : Instr) :
    (noise.after i).SameAhead (noise'.after i) := by
  cases i with
  | random x kk => exact h.rest
  | _ => exact h

/-- An instruction draws as many bytes from the one as from the other. -/
theorem drawn_after (noise noise' : Noise) (i : Instr) :
    ((noise.after i).drawn : Int) - (noise'.after i).drawn =
      noise.drawn - noise'.drawn := by
  cases i with
  | random x kk =>
    show ((noise.drawn + 1 : Nat) : Int) - (noise'.drawn + 1 : Nat) = _
    omega
  | _ => rfl

end Noise

namespace Console

/-- The console with another count of instructions and another source of random bytes. -/
def withPast (c : Console) (cycles : Nat) (noise : Noise) : Console :=
  { c with core := c.core.withNoise noise, cycles := cycles }

/-- Two consoles that are the same but for the two counts.  The first is ahead of the second by
`cycles` instructions and by `bytes` random bytes, and the same bytes lie ahead of both. -/
structure SameButPast (cycles bytes : Int) (c d : Console) : Prop where
  rest : d = c.withPast d.cycles d.core.noise
  ahead : c.core.noise.SameAhead d.core.noise
  cycles : (c.cycles : Int) - d.cycles = cycles
  bytes : (c.core.noise.drawn : Int) - d.core.noise.drawn = bytes

variable {cycles bytes : Int} {c d : Console}

theorem SameButPast.exists_past (h : SameButPast cycles bytes c d) :
    ∃ n noise, d = c.withPast n noise ∧ c.core.noise.SameAhead noise ∧
      (c.cycles : Int) - n = cycles ∧ (c.core.noise.drawn : Int) - noise.drawn = bytes :=
  ⟨_, _, h.rest, h.ahead, h.cycles, h.bytes⟩

/-- A tick that faults leaves both counts alone. -/
theorem tick_withPast_of_fault (hc : c.core.WellFormed) {f : Fault} (hf : c.core.fault? = some f)
    (n : Nat) (noise : Noise) :
    (c.withPast n noise).tick = c.tick.within fun d => d.withPast n noise := by
  have hf' : (c.withPast n noise).core.fault? = some f :=
    (Core.fault?_withNoise noise).trans hf
  rw [tick_of_fault hc hf, tick_of_fault (c := c.withPast n noise) hc hf']
  by_cases hpc : c.core.registers.pc < 0xFFF
  · rw [if_pos hpc, if_pos (show (c.withPast n noise).core.registers.pc < 0xFFF from hpc)]
    rfl
  · rw [if_neg hpc, if_neg (show ¬ (c.withPast n noise).core.registers.pc < 0xFFF from hpc)]
    rfl

/-- Any other tick completes one instruction, and goes on in the source as the instruction does. -/
theorem tick_withPast_of_clear (hc : c.core.WellFormed) (hf : c.core.fault? = none)
    (n : Nat) {noise : Noise} (hnext : noise.next = c.core.noise.next) :
    (c.withPast n noise).tick =
      c.tick.within fun d => d.withPast (n + 1) (noise.after c.core.instr) := by
  have hf' : (c.withPast n noise).core.fault? = none := (Core.fault?_withNoise noise).trans hf
  have hexec : (c.withPast n noise).core.advanced.execute c.core.instr =
      (c.core.advanced.execute c.core.instr).within fun d =>
        d.withNoise (noise.after c.core.instr) :=
    Core.execute_withNoise (c := c.core.advanced) fun _ _ _ => hnext
  rw [tick_of_clear hc hf, tick_of_clear (c := c.withPast n noise) hc hf']
  rw [show (c.withPast n noise).core.instr = c.core.instr from rfl, hexec]
  refine congrArg (Outcome.mk _ _) ?_
  exact congrArg Option.toArray (Core.trace_withNoise _ _ _)

theorem tick_sameButPast (hc : c.core.WellFormed) (h : SameButPast cycles bytes c d) :
    c.tick.Alike (SameButPast cycles bytes) d.tick := by
  obtain ⟨n, noise, rfl, hahead, hcycles, hbytes⟩ := h.exists_past
  cases hf : c.core.fault? with
  | some f =>
    have hnoise : c.tick.state.core.noise = c.core.noise := by
      rw [tick_of_fault hc hf]
      split <;> rfl
    have hcount : c.tick.state.cycles = c.cycles := by
      rw [tick_of_fault hc hf]
      rfl
    rw [← hnoise] at hahead hbytes
    rw [← hcount] at hcycles
    rw [tick_withPast_of_fault hc hf]
    exact ⟨⟨rfl, hahead, hcycles, hbytes⟩, rfl, rfl⟩
  | none =>
    have hnoise : c.tick.state.core.noise = c.core.noise.after c.core.instr := by
      rw [tick_of_clear hc hf]
      exact Core.execute_noise _ _
    have hcount : c.tick.state.cycles = c.cycles + 1 := by
      rw [tick_of_clear hc hf]
    have hahead' := hahead.after c.core.instr
    have hbytes' := (Noise.drawn_after c.core.noise noise c.core.instr).trans hbytes
    have hcycles' : (c.tick.state.cycles : Int) - (n + 1 : Nat) = cycles := by omega
    rw [← hnoise] at hahead' hbytes'
    rw [tick_withPast_of_clear hc hf n hahead.next]
    exact ⟨⟨rfl, hahead', hcycles', hbytes'⟩, rfl, rfl⟩

/-! ### All commands -/

/-- Commands that do not run the program change neither count. -/
theorem undisturbed_past : Undisturbed (SameButPast cycles bytes) where
  setting h := by
    obtain ⟨n, noise, rfl, -⟩ := h.exists_past
    exact ⟨rfl, rfl, rfl, rfl⟩
  running h _ := by
    obtain ⟨n, noise, rfl, hahead, hcycles, hbytes⟩ := h.exists_past
    exact ⟨rfl, hahead, hcycles, hbytes⟩
  paused h _ := by
    obtain ⟨n, noise, rfl, hahead, hcycles, hbytes⟩ := h.exists_past
    exact ⟨rfl, hahead, hcycles, hbytes⟩
  keys h _ := by
    obtain ⟨n, noise, rfl, hahead, hcycles, hbytes⟩ := h.exists_past
    exact ⟨rfl, hahead, hcycles, hbytes⟩
  booted h _ := by
    obtain ⟨n, noise, rfl, hahead, hcycles, hbytes⟩ := h.exists_past
    exact ⟨rfl, hahead, hcycles, hbytes⟩
  cleared h := by
    obtain ⟨n, noise, rfl, hahead, hcycles, hbytes⟩ := h.exists_past
    exact ⟨rfl, hahead, hcycles, hbytes⟩

/-- Nobody sees how many instructions were completed, or how many random bytes were drawn. -/
theorem lockstep_past :
    Lockstep fun c d => c.core.WellFormed ∧ SameButPast cycles bytes c d := by
  refine undisturbed_past.lockstep (fun h => ?_) tick_sameButPast (fun h => ?_) (fun h => ?_)
    (fun h => ?_)
  all_goals obtain ⟨n, noise, rfl, hahead, hcycles, hbytes⟩ := h.exists_past
  · exact ⟨rfl, rfl, rfl, rfl, rfl⟩
  · exact ⟨rfl, hahead, hcycles, hbytes⟩
  · exact ⟨rfl, hahead, hcycles, hbytes⟩
  · exact ⟨rfl, rfl, hahead, hcycles, hbytes⟩

/-! ### Starting over -/

/-- A new console with the speed and the setting for keys of `c`, and the cartridge put in. -/
def unused (c : Console) (noise : Noise) (cartridge : Cartridge) : Outcome Console Unit :=
  (new c.ticksPerFrame c.core.waitForKey noise).insert cartridge

theorem unused_eq (c : Console) (noise : Noise) (cartridge : Cartridge) :
    c.unused noise cartridge =
      ⟨{ new c.ticksPerFrame c.core.waitForKey noise with
          cartridge? := some cartridge }.booted cartridge, .ok (),
        #[Memory.loadedLine cartridge.bytes programStart]⟩ := by
  rw [unused, insert_eq]
  exact if_neg Bool.false_ne_true

/-- Nothing but the two counts tells a reset console from a new one. -/
theorem reset_state {cartridge : Cartridge} (hc : c.cartridge? = some cartridge) (noise : Noise) :
    c.reset.state = (c.unused noise cartridge).state.withPast c.cycles c.core.noise := by
  rw [reset_of_some hc, unused_eq, withPast, atRest, hc]
  rfl

/-- **A reset is a clean start.**  Resetting a console with a cartridge in it succeeds in any state,
and so does putting the cartridge into a new console.  What this leaves is the same but for the
counts of instructions and of random bytes.  If the same random bytes lie ahead, then all commands
are answered the same from then on, and fail and log the same, and after each of them the consoles
are the same but for the counts, which are as far apart as they were. -/
theorem reset_like_new {cartridge : Cartridge} (hc : c.cartridge? = some cartridge)
    (noise : Noise) :
    c.reset.result = .ok () ∧ (c.unused noise cartridge).result = .ok () ∧
      c.reset.state = (c.unused noise cartridge).state.withPast c.cycles c.core.noise ∧
      (c.core.noise.SameAhead noise → ∀ commands : List Command,
        c.reset.state.replies commands = (c.unused noise cartridge).state.replies commands ∧
          SameButPast c.cycles (c.core.noise.drawn - noise.drawn)
            (c.reset.state.obeyAll commands)
            ((c.unused noise cartridge).state.obeyAll commands)) := by
  have hstate := reset_state hc noise
  have hreset := congrArg Outcome.result (reset_of_some hc)
  have hunused := unused_eq c noise cartridge
  refine ⟨hreset, congrArg Outcome.result hunused, hstate, fun hahead commands => ?_⟩
  have hwf : c.reset.state.core.WellFormed := by
    rw [reset_of_some hc]
    exact (orderly_booted _ cartridge).wellFormed
  have hstart : SameButPast c.cycles (c.core.noise.drawn - noise.drawn) c.reset.state
      (c.unused noise cartridge).state := by
    rw [hstate, hunused]
    exact ⟨rfl, hahead, Int.sub_zero _, rfl⟩
  obtain ⟨hreplies, -, hafter⟩ := lockstep_past.replies ⟨hwf, hstart⟩ commands
  exact ⟨hreplies, hafter⟩

/-- A program that draws a random byte and then returns from nowhere, stopped by that fault with a
key down. -/
def afterFault : Console := (started [0xC0, 0xFF, 0x00, 0xEE]).obeyAll [.press 3, .frame]

/-- The console behind the fault answers like a new one whose source starts with the bytes that lie
ahead. -/
theorem reset_like_new_after_fault :
    ∃ cartridge, afterFault.cartridge? = some cartridge ∧ afterFault.cycles = 1 ∧
      afterFault.core.noise.drawn = 1 ∧
      afterFault.core.noise.SameAhead afterFault.core.noise.ahead ∧
      afterFault.reset.state.replies [.start, .frame] =
        (afterFault.unused afterFault.core.noise.ahead cartridge).state.replies
          [.start, .frame] := by
  obtain ⟨hloaded, hcycles, hdrawn⟩ : afterFault.cartridge?.isSome = true ∧
      afterFault.cycles = 1 ∧ afterFault.core.noise.drawn = 1 := by
    decide +kernel
  obtain ⟨cartridge, hc⟩ := Option.isSome_iff_exists.mp hloaded
  have hahead := afterFault.core.noise.sameAhead_ahead
  exact ⟨cartridge, hc, hcycles, hdrawn, hahead, ((reset_like_new hc _).2.2.2 hahead _).1⟩

end Console
end Chip8
