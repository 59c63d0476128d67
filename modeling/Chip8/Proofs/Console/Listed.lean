/-
The call stack as a bounded list.

A console with sixteen slots and a stack pointer is taken for one that has a list of at most fifteen
return addresses instead.  Slots that a return leaves behind keep their values, and slot 0 is never
used; the list knows nothing of them, and neither does anyone who looks at what the console answers.

* `execute_listed` : each instruction does to the list what it does to the slots;
* `lockstep_deadSlots` : what is in the other slots is never seen;
* `tick_listed` : the same for ticks, and for two consoles that differ in such slots.
-/
import Chip8.Proofs.Console.Lockstep
import Chip8.Proofs.Core.Calls

namespace Chip8.Console

/-- A console that keeps the addresses to return to in a list, the newest last.  The call stack in
`console` is empty and stays so. -/
@[ext] structure Listed where
  console : Console
  calls : List Word
  length_le : calls.length ≤ 15

namespace Listed

def withCore (a : Listed) (core : Core) : Listed :=
  { a with console := { a.console with core := core } }

def withConsole (a : Listed) (console : Console) : Listed := { a with console := console }

/-- Add the address behind the call to the list; there is no room for a sixteenth. -/
def call (a : Listed) (addr : Addr) : Outcome Listed Unit :=
  if h : a.calls.length = 15 then .failed a (Cause.stackOverflow 15).raise
  else .done
    { a.withCore (a.console.core.jump addr.val) with
      calls := a.calls ++ [Word.ofInt a.console.core.registers.pc]
      length_le := by
        have := a.length_le
        rw [List.length_append, List.length_singleton]
        omega } ()

/-- Take the last address off the list and go there. -/
def ret (a : Listed) : Outcome Listed Unit :=
  match a.calls.getLast? with
  | none => .failed a (Cause.stackUnderflow 0).raise
  | some address => .done
    { a.withCore (a.console.core.jump address.toNat) with
      calls := a.calls.dropLast
      length_le := by
        have := a.length_le
        rw [List.length_dropLast]
        omega } ()

/-- What an instruction does; none but calls and returns has to do with the list. -/
def execute (a : Listed) : Instr → Outcome Listed Unit
  | .call addr => a.call addr
  | .ret => a.ret
  | i => (a.console.core.execute i).within a.withCore

/-- Fetch an instruction and run it; a fault stops the console. -/
def tick (a : Listed) : Outcome Listed Unit :=
  let pc := a.console.core.registers.pc
  match a.console.core.fetch with
  | .error e => (a.console.halt (.fetching pc) e).within a.withConsole
  | .ok (word, core) =>
    let i := Instr.decode word
    let o := (a.withCore core).execute i
    match o.result with
    | .error e => (o.state.console.halt (.instruction pc word) e).within o.state.withConsole
    | .ok () =>
      ⟨o.state.withConsole { o.state.console with cycles := a.console.cycles + 1 }, .ok (),
        (i.trace core o.state.console.core).toArray⟩

end Listed

/-- A console with its slots from 1 to the stack pointer as a list. -/
def listed (c : Console) : Listed where
  console := { c with core := c.core.withCalls .empty 0 }
  calls := c.core.memory.stack.live c.core.registers.sp
  length_le := CallStack.length_live_le _ _

def withStack (c : Console) (stack : CallStack) : Console :=
  { c with core := { c.core with memory := { c.core.memory with stack := stack } } }

/-- Two consoles that are the same but for what is in slot 0 and in the slots above the stack
pointer. -/
structure SameButDeadSlots (c d : Console) : Prop where
  rest : d = c.withStack d.core.memory.stack
  live : ∀ k, 1 ≤ k → k ≤ c.core.registers.sp →
    d.core.memory.stack.slot? k = c.core.memory.stack.slot? k

variable {c d : Console}

/-! ### One step -/

theorem call_listed (h : c.core.WellFormed) (addr : Addr) :
    (c.core.call addr).within (fun core => { c with core := core }.listed) =
      c.listed.call addr := by
  have hlen : c.listed.calls.length = c.core.registers.sp.toNat := CallStack.length_live _ h.sp
  rcases Core.call_cases h addr with ⟨hsp, hcall⟩ | ⟨hslot, stack, hput, hcall⟩
  · rw [hcall, Listed.call, dif_pos (by omega), hsp]
    rfl
  · rw [hcall, Listed.call, dif_neg (by omega)]
    refine congrArg (Outcome.done · ()) ?_
    apply Listed.ext
    · rfl
    · exact CallStack.live_push h.sp.1 hslot hput

theorem ret_listed (h : c.core.WellFormed) :
    c.core.ret.within (fun core => { c with core := core }.listed) = c.listed.ret := by
  have hslot := h.sp
  rcases Core.ret_cases h with ⟨hsp, hret⟩ | ⟨hsp, address, htop, hret⟩
  · have hnone : c.listed.calls.getLast? = none := by
      show (c.core.memory.stack.live c.core.registers.sp).getLast? = none
      rw [hsp]
      rfl
    rw [hret, Listed.ret, hnone, hsp]
    rfl
  · have hlast : c.listed.calls.getLast? = some address :=
      (CallStack.getLast?_live _ hsp hslot.2).trans htop
    rw [hret, Listed.ret, hlast]
    refine congrArg (Outcome.done · ()) ?_
    apply Listed.ext
    · rfl
    · exact CallStack.live_pop _ hsp hslot.2

/-- An instruction does to the list what it does to the slots that the list stands for. -/
theorem execute_listed (h : c.core.WellFormed) (i : Instr) :
    (c.core.execute i).within (fun core => { c with core := core }.listed) =
      c.listed.execute i := by
  by_cases hcall : ∃ addr, i = .call addr
  · obtain ⟨addr, rfl⟩ := hcall
    exact call_listed h addr
  by_cases hret : i = .ret
  · subst hret
    exact ret_listed h
  -- All others do the same with the empty stack, and leave the calls in progress alone.
  have hcall' : ∀ addr, i ≠ .call addr := fun addr hi => hcall ⟨addr, hi⟩
  have hsame := Core.execute_sameCalls c.core hcall' hret
  have hexec : c.listed.execute i =
      ((c.core.withCalls .empty 0).execute i).within c.listed.withCore := by
    cases i with
    | call addr => exact absurd rfl (hcall' addr)
    | ret => exact absurd rfl hret
    | _ => rfl
  rw [hexec, Core.execute_withCalls _ _ _ hcall' hret]
  simp only [Outcome.within, Outcome.mk.injEq, and_true]
  apply Listed.ext
  · rfl
  · show CallStack.live _ _ = CallStack.live _ _
    rw [hsame.stack, hsame.sp]

theorem halt_listed (c : Console) (place : Place) (e : Error) :
    (c.halt place e).within listed =
      (c.listed.console.halt place e).within c.listed.withConsole := by
  rw [halt, halt]
  cases e.at place <;> rfl

/-- Ticks of the console and of the list go together. -/
theorem tick_within_listed (h : c.core.WellFormed) : c.tick.within listed = c.listed.tick := by
  have hfetch : c.listed.console.core.fetch = c.core.fetch.map fun found =>
      (found.1, found.2.withCalls .empty 0) := Core.fetch_withCalls _ _ _
  rw [tick, Listed.tick, hfetch]
  cases hf : c.core.fetch with
  | error e => exact halt_listed c _ e
  | ok found =>
    obtain ⟨word, core⟩ := found
    obtain ⟨hpc, rfl, rfl⟩ := (Core.fetch_eq_ok_iff h).mp hf
    have hexec := execute_listed (c := { c with core := c.core.advanced }) (h.advanced hpc)
      c.core.instr
    dsimp only [Except.map]
    rw [show c.listed.withCore (c.core.advanced.withCalls .empty 0) =
      { c with core := c.core.advanced }.listed from rfl]
    rw [show Instr.decode c.core.word = c.core.instr from rfl, ← hexec]
    dsimp only
    obtain ⟨core, result, log⟩ := c.core.advanced.execute c.core.instr
    cases result with
    | error e => exact halt_listed { c with core := core } _ e
    | ok _ =>
      show Outcome.mk _ _ _ = Outcome.mk _ _ _
      rw [Outcome.mk.injEq]
      refine ⟨rfl, rfl, ?_⟩
      exact congrArg Option.toArray (Core.trace_withCalls _ _ _ _ _).symm

/-! ### Two runs -/

theorem SameButDeadSlots.refl : c.SameButDeadSlots c := ⟨rfl, fun _ _ _ => rfl⟩

theorem SameButDeadSlots.exists_stack (h : c.SameButDeadSlots d) :
    ∃ stack, d = c.withStack stack ∧
      ∀ k, 1 ≤ k → k ≤ c.core.registers.sp → stack.slot? k = c.core.memory.stack.slot? k :=
  ⟨_, h.rest, h.live⟩

theorem SameButDeadSlots.wellFormed (h : c.SameButDeadSlots d) (hc : c.core.WellFormed) :
    d.core.WellFormed := by
  obtain ⟨stack, rfl, -⟩ := h.exists_stack
  exact hc

/-- Consoles with the same list differ in dead slots only, and the other way round. -/
theorem listed_eq_iff (hc : c.core.WellFormed) (hd : d.core.WellFormed) :
    c.listed = d.listed ↔ c.SameButDeadSlots d := by
  constructor
  · intro h
    have hcalls := congrArg Listed.calls h
    -- The lists are as long as the stack pointers say.
    have hsp : c.core.registers.sp = d.core.registers.sp := by
      have hlen := congrArg List.length hcalls
      simp only [listed, CallStack.length_live _ hc.sp, CallStack.length_live _ hd.sp] at hlen
      have := hc.sp
      have := hd.sp
      omega
    refine ⟨?_, ?_⟩
    · have hback : d = { d.listed.console with
          core := d.listed.console.core.withCalls d.core.memory.stack d.core.registers.sp } := rfl
      rw [← h, ← hsp] at hback
      exact hback
    · simp only [listed, ← hsp] at hcalls
      exact CallStack.live_eq_iff.mp hcalls
  · intro h
    obtain ⟨stack, rfl, hlive⟩ := h.exists_stack
    apply Listed.ext
    · rfl
    · exact CallStack.live_eq_iff.mpr hlive

theorem tick_alike (hc : c.core.WellFormed) (h : c.SameButDeadSlots d) :
    c.tick.Alike SameButDeadSlots d.tick := by
  have hd := h.wellFormed hc
  have hlisted := (listed_eq_iff hc hd).mpr h
  have hticks : c.tick.within listed = d.tick.within listed := by
    rw [tick_within_listed hc, tick_within_listed hd, hlisted]
  have hstates : c.tick.state.listed = d.tick.state.listed := congrArg (·.state) hticks
  exact ⟨(listed_eq_iff (tick_wellFormed hc) (tick_wellFormed hd)).mp hstates,
    congrArg (·.result) hticks, congrArg (·.log) hticks⟩

/-- Commands that do not run the program do not look at the call stack. -/
theorem undisturbed_deadSlots : Undisturbed SameButDeadSlots where
  setting h := by
    obtain ⟨stack, rfl, -⟩ := h.exists_stack
    exact ⟨rfl, rfl, rfl, rfl⟩
  running h _ := by
    obtain ⟨stack, rfl, hlive⟩ := h.exists_stack
    exact ⟨rfl, hlive⟩
  paused h _ := by
    obtain ⟨stack, rfl, hlive⟩ := h.exists_stack
    exact ⟨rfl, hlive⟩
  keys h _ := by
    obtain ⟨stack, rfl, hlive⟩ := h.exists_stack
    exact ⟨rfl, hlive⟩
  -- Starting over clears all slots.
  booted h _ := by
    obtain ⟨stack, rfl, -⟩ := h.exists_stack
    exact .refl
  cleared h := by
    obtain ⟨stack, rfl, -⟩ := h.exists_stack
    exact .refl

/-- Nobody sees what is in the slots of no calls in progress. -/
theorem lockstep_deadSlots : Lockstep fun c d => c.core.WellFormed ∧ c.SameButDeadSlots d := by
  refine undisturbed_deadSlots.lockstep (fun h => ?_) tick_alike (fun h => ?_) (fun h => ?_)
    (fun h => ?_)
  all_goals obtain ⟨stack, rfl, hlive⟩ := h.exists_stack
  · exact ⟨rfl, rfl, rfl, rfl, rfl⟩
  · exact ⟨rfl, hlive⟩
  · exact ⟨rfl, hlive⟩
  · exact ⟨rfl, rfl, hlive⟩

/-- **The slots and the stack pointer are a list of at most fifteen addresses.**  A tick does to
the one what a tick of the other does, and two consoles that differ only in slot 0 and in the slots
above the stack pointer answer the same and fail in the same way for ever, and go on to differ in
such slots only. -/
theorem tick_listed (h : c.core.WellFormed) :
    c.tick.within listed = c.listed.tick ∧
      ∀ d : Console, c.SameButDeadSlots d → ∀ commands : List Command,
        c.replies commands = d.replies commands ∧
          (c.obeyAll commands).SameButDeadSlots (d.obeyAll commands) := by
  refine ⟨tick_within_listed h, fun d hdead commands => ?_⟩
  obtain ⟨hreplies, -, hafter⟩ := lockstep_deadSlots.replies ⟨h, hdead⟩ commands
  exact ⟨hreplies, hafter⟩

/-- In a subroutine called from `0x000`, all slots but that of the call are overwritten; the return
and two frames behind it do not show it. -/
theorem tick_listed_overwritten :
    (holding [0x20, 0x04, 0, 0, 0, 0xEE]).tick.state.core.WellFormed ∧
      (holding [0x20, 0x04, 0, 0, 0, 0xEE]).tick.state.SameButDeadSlots
        ((holding [0x20, 0x04, 0, 0, 0, 0xEE]).tick.state.withStack
          ⟨(Vector.replicate 16 0x123).set 1 0x002⟩) ∧
      (holding [0x20, 0x04, 0, 0, 0, 0xEE]).tick.state.replies [.tick, .frame, .frame] =
        ((holding [0x20, 0x04, 0, 0, 0, 0xEE]).tick.state.withStack
          ⟨(Vector.replicate 16 0x123).set 1 0x002⟩).replies [.tick, .frame, .frame] := by
  have h : (holding [0x20, 0x04, 0, 0, 0, 0xEE]).tick.state.core.WellFormed := by decide +kernel
  have hsp : (holding [0x20, 0x04, 0, 0, 0, 0xEE]).tick.state.core.registers.sp = 1 := by
    decide +kernel
  have hdead : (holding [0x20, 0x04, 0, 0, 0, 0xEE]).tick.state.SameButDeadSlots
      ((holding [0x20, 0x04, 0, 0, 0, 0xEE]).tick.state.withStack
        ⟨(Vector.replicate 16 0x123).set 1 0x002⟩) := by
    refine ⟨rfl, fun k h1 hk => ?_⟩
    rw [hsp] at hk
    obtain rfl : k = 1 := by omega
    decide +kernel
  exact ⟨h, hdead, ((tick_listed h).2 _ hdead _).1⟩

end Chip8.Console
