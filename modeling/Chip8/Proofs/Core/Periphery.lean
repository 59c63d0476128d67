/-
What is around the processor.

The two timers, the source of random bytes and the mark that the display was drawn on are parts of
the machine that programs hardly get to see.  One instruction reads a timer and one draws a random
byte; all others do the same whatever these parts are, and so does the fetch.  Nothing reads the
mark.

* `execute_withPeriphery` : an instruction does not depend on what it does not read;
* `execute_periphery` : what each instruction does to these parts;
* `fault?_withPeriphery` : whether a tick faults, and how, does not depend on them at all.
-/
import Chip8.Core.Trace
import Chip8.Proofs.Core.Drawing
import Chip8.Proofs.Core.Fetch

namespace Chip8

/-- The timers, the source of random bytes, and the mark that the display was drawn on. -/
structure Periphery where
  delay : Int
  sound : Int
  noise : Noise
  drawn : Bool

/-- What an instruction that runs through does to it, on a machine with the registers of `c`. -/
def Instr.stir (c : Core) (p : Periphery) : Instr → Periphery
  | .setDelay x => { p with delay := c.v x }
  | .setSound x => { p with sound := c.v x }
  | .random _ _ => { p with noise := p.noise.rest }
  | .clear | .draw _ _ _ => { p with drawn := true }
  | _ => p

/-- The source of random bytes behind an instruction. -/
def Noise.after (noise : Noise) : Instr → Noise
  | .random _ _ => noise.rest
  | _ => noise

namespace Core

def periphery (c : Core) : Periphery :=
  ⟨c.registers.delay, c.registers.sound, c.noise, c.drawn⟩

/-- The machine with other timers, another source of random bytes and another mark. -/
def withPeriphery (c : Core) (p : Periphery) : Core :=
  { c with
    registers := { c.registers with delay := p.delay, sound := p.sound }
    noise := p.noise
    drawn := p.drawn }

@[simp] theorem withPeriphery_periphery (c : Core) : c.withPeriphery c.periphery = c := rfl

variable {c d : Core} {p : Periphery} {i : Instr}

/-- What an instruction does to the periphery, which is nothing if it fails. -/
def stirred (c : Core) (p : Periphery) (i : Instr) : Periphery :=
  match (c.execute i).result with
  | .ok () => i.stir c p
  | .error _ => p

theorem skipIf_withPeriphery (condition : Bool) :
    (c.withPeriphery p).skipIf condition = (c.skipIf condition).withPeriphery p := by
  cases condition <;> rfl

theorem awaitKey_withPeriphery (x : Reg) :
    (c.withPeriphery p).awaitKey x = (c.awaitKey x).withPeriphery p := by
  rcases c.awaitKey_cases x with ⟨key, hkey, h⟩ | ⟨hkey, hwait, h⟩ | ⟨hkey, hwait, h⟩
  · rw [h, awaitKey, show (c.withPeriphery p).keys.first? = some key from hkey]
    rfl
  · rw [h, awaitKey_of_none (c := c.withPeriphery p) x hkey hwait]
    rfl
  · rw [h, awaitKey, show (c.withPeriphery p).keys.first? = none from hkey]
    exact if_neg (by simp [withPeriphery, hwait])

theorem ret_withPeriphery :
    (c.withPeriphery p).ret = c.ret.within fun d => d.withPeriphery p := by
  by_cases hsp : c.registers.sp = 0
  · rw [ret, ret, if_pos hsp, if_pos (by exact hsp)]
    rfl
  · rw [ret, ret, if_neg hsp, if_neg (by exact hsp)]
    have hread : (c.withPeriphery p).memory.stack.read (c.withPeriphery p).registers.sp =
        c.memory.stack.read c.registers.sp := rfl
    rw [hread]
    cases c.memory.stack.read c.registers.sp <;> rfl

theorem call_withPeriphery (addr : Addr) :
    (c.withPeriphery p).call addr = (c.call addr).within fun d => d.withPeriphery p := by
  by_cases hsp : 16 ≤ c.registers.sp + 1
  · rw [call, call, if_pos hsp, if_pos (by exact hsp)]
    rfl
  · rw [call, call, if_neg hsp, if_neg (by exact hsp)]
    have hwrite : (c.withPeriphery p).memory.stack.write ((c.withPeriphery p).registers.sp + 1)
        (c.withPeriphery p).registers.pc =
          c.memory.stack.write (c.registers.sp + 1) c.registers.pc := rfl
    rw [hwrite]
    cases c.memory.stack.write (c.registers.sp + 1) c.registers.pc <;> rfl

/-- Most instructions leave it alone. -/
theorem stirred_of_stir (h : i.stir c p = p) : c.stirred p i = p := by
  rw [stirred]
  split
  · exact h
  · rfl

/-- Drawing is refused if the sprite is not all there; one of no rows always is. -/
theorem execute_draw (c : Core) (x y : Reg) (n : Fin 16) : c.execute (.draw x y n) =
    .guarded c (if n.val = 0 then .ok () else c.reach n.val) (c.draw x y n.val) := by
  rw [execute]
  split <;> rfl

theorem execute_withPeriphery (hdelay : ∀ x, i = .readDelay x → p.delay = c.registers.delay)
    (hnext : ∀ x kk, i = .random x kk → p.noise.next = c.noise.next) :
    (c.withPeriphery p).execute i =
      (c.execute i).within fun d => d.withPeriphery (c.stirred p i) := by
  cases i with
  | ret =>
    rw [stirred_of_stir rfl]
    exact ret_withPeriphery
  | call addr =>
    rw [stirred_of_stir rfl]
    exact call_withPeriphery addr
  | skipEqByte x kk | skipNeByte x kk =>
    exact congrArg (Outcome.done · ()) (skipIf_withPeriphery _)
  | skipEq x y | skipNe x y => exact congrArg (Outcome.done · ()) (skipIf_withPeriphery _)
  | skipKey x | skipNoKey x => exact congrArg (Outcome.done · ()) (skipIf_withPeriphery _)
  | awaitKey x => exact congrArg (Outcome.done · ()) (awaitKey_withPeriphery x)
  | readDelay x =>
    show Outcome.done ((c.withPeriphery p).put x p.delay) () = _
    rw [hdelay x rfl]
    rfl
  | random x kk =>
    show Outcome.done { (c.withPeriphery p).put x (p.noise.next &&& kk).toNat with
      noise := p.noise.rest } () = _
    rw [hnext x kk rfl]
    rfl
  | draw x y n =>
    rw [stirred, execute_draw, execute_draw]
    show Outcome.guarded _ (if n.val = 0 then .ok () else c.reach n.val) _ = _
    cases (if n.val = 0 then .ok () else c.reach n.val : Except Error Unit) <;> rfl
  | storeDecimal x | storeRegs x =>
    rw [stirred_of_stir rfl]
    simp only [execute, storeAll]
    rw [Outcome.guarded_within]
    rfl
  | loadRegs x =>
    rw [stirred_of_stir rfl]
    simp only [execute]
    rw [Outcome.guarded_within]
    rfl
  | _ => rfl

/-- What an instruction does to the periphery. -/
theorem execute_periphery (c : Core) (i : Instr) :
    (c.execute i).state.periphery = c.stirred c.periphery i := by
  have h := execute_withPeriphery (c := c) (p := c.periphery) (i := i) (fun _ _ => rfl)
    (fun _ _ _ => rfl)
  rw [withPeriphery_periphery] at h
  rw [h]
  rfl

/-! ### Around an instruction -/

theorem instr_withPeriphery : (c.withPeriphery p).instr = c.instr := rfl

theorem obstacle?_withPeriphery : (c.withPeriphery p).obstacle? i = c.obstacle? i := by
  cases i <;> rfl

/-- Whether a tick faults, and how, does not depend on the periphery. -/
theorem fault?_withPeriphery : (c.withPeriphery p).fault? = c.fault? := by
  rw [fault?, fault?, instr_withPeriphery, obstacle?_withPeriphery]
  rfl

/-- The line that is logged does not tell of it either. -/
theorem trace_withPeriphery (after : Core) (q : Periphery) :
    i.trace (c.withPeriphery p) (after.withPeriphery q) = i.trace c after := by
  cases i <;> rfl

/-! ### Random bytes -/

/-- The machine with another source of random bytes. -/
def withNoise (c : Core) (noise : Noise) : Core := { c with noise := noise }

theorem stirred_noise (c : Core) (p : Periphery) (i : Instr) :
    (c.stirred p i).noise = p.noise.after i := by
  cases i with
  | random x kk => rfl
  | _ =>
    rw [stirred]
    split <;> rfl

/-- An instruction does the same to the rest of the periphery whatever the source is. -/
theorem stirred_withNoise (noise : Noise) : c.stirred { p with noise := noise } i =
    { c.stirred p i with noise := noise.after i } := by
  cases i with
  | random x kk => rfl
  | _ =>
    simp only [stirred]
    split <;> rfl

theorem execute_noise (c : Core) (i : Instr) :
    (c.execute i).state.noise = c.noise.after i := by
  rw [show (c.execute i).state.noise = (c.execute i).state.periphery.noise from rfl,
    execute_periphery, stirred_noise]
  rfl

theorem fault?_withNoise (noise : Noise) : (c.withNoise noise).fault? = c.fault? :=
  fault?_withPeriphery (p := { c.periphery with noise := noise })

theorem trace_withNoise (after : Core) (noise noise' : Noise) :
    i.trace (c.withNoise noise) (after.withNoise noise') = i.trace c after :=
  trace_withPeriphery (p := { c.periphery with noise := noise }) after
    { after.periphery with noise := noise' }

/-- From a source that has the same next byte, where that is drawn, an instruction does the same,
and goes on in it. -/
theorem execute_withNoise {noise : Noise}
    (hnext : ∀ x kk, i = .random x kk → noise.next = c.noise.next) :
    (c.withNoise noise).execute i =
      (c.execute i).within fun d => d.withNoise (noise.after i) := by
  have hexec := execute_withPeriphery (c := c) (p := { c.periphery with noise := noise }) (i := i)
    (fun _ _ => rfl) hnext
  rw [stirred_withNoise, ← execute_periphery] at hexec
  exact hexec

end Core
end Chip8
