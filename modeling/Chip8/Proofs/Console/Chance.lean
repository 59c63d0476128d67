/-
Random bytes as the only chance in a run.

A run cannot tell two sources apart that have the same bytes for it, until it draws one more.  This
is shown tick by tick: up to a limit of bytes, a tick, a frame and a command do the same on both
sources, so the ticks of the one run start from the same consoles as those of the other.

* `tick_withStream`, `frame_withStream`, `obeyAll_withStream` : the same run on another source;
* `InStep`, `inStep_allOnsets` : the same ticks, in a run that asks for too many bytes as well;
* `rolls_in_order` : what random bytes do in a run, and what they cannot do.
-/
import Chip8.Proofs.Console.Rolls
import Chip8.Proofs.Console.Lockstep

namespace Chip8

/-- A source goes on alike from other bytes. -/
theorem Noise.after_stream (noise : Noise) (bytes : Nat → UInt8) (i : Instr) :
    (⟨bytes, noise.drawn⟩ : Noise).after i = ⟨bytes, (noise.after i).drawn⟩ := by
  cases i <;> rfl

namespace Core

variable {c : Core}

/-- The machine with other random bytes in its source. -/
def withStream (c : Core) (bytes : Nat → UInt8) : Core := c.withNoise ⟨bytes, c.noise.drawn⟩

variable {bytes : Nat → UInt8}

theorem fetch_withStream : (c.withStream bytes).fetch =
    c.fetch.map fun (word, after) => (word, after.withStream bytes) := by
  rw [fetch, fetch]
  show (c.memory.ram.readWord c.registers.pc).map _ = _
  cases c.memory.ram.readWord c.registers.pc <;> rfl

theorem execute_withStream {i : Instr}
    (hnext : ∀ x kk, i = .random x kk → bytes c.noise.drawn = c.noise.next) :
    (c.withStream bytes).execute i = (c.execute i).within fun d => d.withStream bytes := by
  let noise : Noise := ⟨bytes, c.noise.drawn⟩
  have hexec : (c.withNoise noise).execute i = _ := execute_withNoise hnext
  rw [Noise.after_stream, ← execute_noise] at hexec
  exact hexec

end Core

/-- Outcomes that look the same, with states one of which is made from the other. -/
theorem Outcome.Alike.eq_within {σ τ α : Type} {put : σ → τ} {o : Outcome σ α} {p : Outcome τ α}
    (h : o.Alike (fun s t => t = put s) p) : p = o.within put := by
  obtain ⟨t, r, log⟩ := p
  obtain ⟨rfl, rfl, rfl⟩ := h
  rfl

/-- Going on with a part that was put into a whole. -/
theorem Outcome.within_andThen {σ τ α β : Type} {o : Outcome σ α} {put : σ → τ}
    {f : α → τ → Outcome τ β} {g : α → σ → Outcome σ β}
    (hnext : ∀ a, o.result = .ok a → f a (put o.state) = (g a o.state).within put) :
    (o.within put).andThen f = (o.andThen g).within put := by
  obtain ⟨s, r, log⟩ := o
  cases r with
  | error e => rfl
  | ok a =>
    have ha := hnext a rfl
    dsimp only at ha
    simp only [within, andThen, ha]

namespace Console

variable {c : Console}

/-! ### Another source -/

/-- The console with other random bytes in its source. -/
def withStream (c : Console) (bytes : Nat → UInt8) : Console :=
  { c with core := c.core.withStream bytes }

variable {bytes : Nat → UInt8} {limit : Nat}

/-- From where the console is, its source has the same bytes up to a number. -/
def Agrees (bytes : Nat → UInt8) (limit : Nat) (past : Noise × Nat) : Prop :=
  ∀ k < limit, past.1.drawn ≤ k → past.1.byte k = bytes k

/-- The sources still agree behind more ticks. -/
theorem Threaded.agrees {first last : Noise × Nat} {ticked : List Console}
    (h : Threaded first ticked last) (hagrees : Agrees bytes limit first) :
    Agrees bytes limit last := by
  intro k hk hdrawn
  rw [h.last_eq] at hdrawn ⊢
  exact hagrees k hk (Nat.le_trans (Nat.le_add_right _ _) hdrawn)

theorem Threaded.drawn_le {first last : Noise × Nat} {ticked : List Console}
    (h : Threaded first ticked last) : first.1.drawn ≤ last.1.drawn := by
  rw [h.last_eq]
  exact Nat.le_add_right _ _

theorem halt_withStream (place : Place) (e : Error) : (c.withStream bytes).halt place e =
    (c.halt place e).within fun d => d.withStream bytes := by
  rw [halt, halt]
  cases e.at place <;> rfl

/-- A tick does the same on another source if that has the byte that it draws. -/
theorem tick_withStream (hagrees : Agrees bytes limit c.past)
    (hlimit : c.tick.state.core.noise.drawn ≤ limit) :
    (c.withStream bytes).tick = c.tick.within fun d => d.withStream bytes := by
  have hnoise := congrArg Prod.fst c.tick_past
  -- If it draws a byte, the limit lies behind that.
  have hnext : ∀ x kk, c.core.roll? = some (x, kk) →
      bytes c.core.noise.drawn = c.core.noise.next := by
    intro x kk hroll
    rw [hroll] at hnoise
    rw [show c.tick.state.core.noise = c.core.noise.skip 1 from hnoise] at hlimit
    exact (hagrees _ hlimit (Nat.le_refl _)).symm
  have hfetch : (c.core.withStream bytes).fetch = _ := Core.fetch_withStream
  cases hc : c.core.fetch with
  | error e =>
    rw [hc] at hfetch
    simp only [tick, hc, show (c.withStream bytes).core.fetch = .error e from hfetch]
    exact halt_withStream _ e
  | ok found =>
    obtain ⟨word, after⟩ := found
    rw [hc] at hfetch
    have hexec : (after.withStream bytes).execute (Instr.decode word) =
        (after.execute (Instr.decode word)).within fun d => d.withStream bytes := by
      refine Core.execute_withStream fun x kk hword => ?_
      rw [Core.noise_of_fetch hc]
      exact hnext x kk (Core.roll?_eq_some_iff.mpr ⟨word, after, hc, hword⟩)
    simp only [tick, hc,
      show (c.withStream bytes).core.fetch = .ok (word, after.withStream bytes) from hfetch, hexec]
    cases hresult : (after.execute (Instr.decode word)).result with
    | error e =>
      simp only [Outcome.within, hresult]
      exact halt_withStream (c := { c with core := (after.execute (Instr.decode word)).state })
        (.instruction c.core.registers.pc word) e
    | ok _ =>
      simp only [Outcome.within, hresult]
      refine congrArg (Outcome.mk _ _) ?_
      exact congrArg Option.toArray (Core.trace_withNoise _ _ _)

theorem ticksAfter_withStream (log : Array String) (n : Nat) (hagrees : Agrees bytes limit c.past)
    (hlimit : (ticksAfter log n c).state.core.noise.drawn ≤ limit) :
    ticksAfter log n (c.withStream bytes) =
      (ticksAfter log n c).within fun d => d.withStream bytes := by
  induction n generalizing log c with
  | zero => rfl
  | succ n ih =>
    -- What the first tick has drawn has been drawn in the end.
    have hthread := (threaded_onsets log (n + 1) c).2
    have htick := tick_withStream hagrees (Nat.le_trans hthread.drawn_le hlimit)
    have hnext : Agrees bytes limit c.tick.state.past := c.threaded_tick.agrees hagrees
    simp only [ticksAfter] at hlimit ⊢
    rw [htick]
    cases hresult : c.tick.result with
    | ok _ =>
      rw [hresult] at hlimit
      simp only [Outcome.within, hresult]
      exact ih _ hnext hlimit
    | error e =>
      simp only [Outcome.within, hresult]

theorem ticks_withStream (n : Nat) (hagrees : Agrees bytes limit c.past)
    (hlimit : (c.ticks n).state.core.noise.drawn ≤ limit) :
    (c.withStream bytes).ticks n = (c.ticks n).within fun d => d.withStream bytes :=
  ticksAfter_withStream #[] n hagrees hlimit

theorem active_withStream : (c.withStream bytes).Active ↔ c.Active :=
  ⟨fun h => ⟨h.running, h.paused⟩, fun h => ⟨h.running, h.paused⟩⟩

theorem frame_withStream (hagrees : Agrees bytes limit c.past)
    (hlimit : c.frame.state.core.noise.drawn ≤ limit) :
    (c.withStream bytes).frame = c.frame.within fun d => d.withStream bytes := by
  by_cases hactive : c.Active
  · have hfirst := threaded_onsets #[] c.half c
    rw [← ticks] at hfirst
    rw [frame_of_active hactive, Outcome.andThen] at hlimit
    rw [frame_of_active hactive, frame_of_active (active_withStream.mpr hactive)]
    show ((c.withStream bytes).ticks c.half).andThen _ = _
    cases hresult : (c.ticks c.half).result with
    | error e =>
      rw [hresult] at hlimit
      rw [ticks_withStream c.half hagrees hlimit]
      simp only [Outcome.andThen, Outcome.within, hresult]
    | ok _ =>
      have hsecond := threaded_onsets #[] c.otherHalf (c.ticks c.half).state.timerStep
      rw [← ticks] at hsecond
      -- The signals at the end of the frame draw nothing.
      have hlast : ((c.ticks c.half).state.timerStep.ticks c.otherHalf).state.core.noise.drawn ≤
          limit := by
        rw [hresult] at hlimit
        dsimp only at hlimit
        rw [Outcome.andThen] at hlimit
        cases hresult' : ((c.ticks c.half).state.timerStep.ticks c.otherHalf).result with
        | error e | ok _ => rwa [hresult'] at hlimit
      rw [ticks_withStream c.half hagrees (Nat.le_trans hsecond.drawn_le hlast)]
      refine Outcome.within_andThen fun _ _ => ?_
      have hmiddle : Agrees bytes limit (c.ticks c.half).state.timerStep.past :=
        hfirst.agrees hagrees
      show (((c.ticks c.half).state.timerStep.withStream bytes).ticks c.otherHalf).andThen _ = _
      rw [ticks_withStream c.otherHalf hmiddle hlast]
      exact Outcome.within_andThen fun _ _ => rfl
  · rw [frame_of_not_active hactive,
      frame_of_not_active fun h => hactive (active_withStream.mp h)]
    rfl

/-- Commands that run no instruction do not look at the source. -/
theorem undisturbed_stream (bytes : Nat → UInt8) :
    Undisturbed fun c d => d = c.withStream bytes where
  setting h := by
    subst h
    exact ⟨rfl, rfl, rfl, rfl⟩
  running h _ := by rw [h]; rfl
  paused h _ := by rw [h]; rfl
  keys h _ := by rw [h]; rfl
  booted h _ := by rw [h]; rfl
  cleared h := by rw [h]; rfl

theorem obey_withStream {command : Command} (hagrees : Agrees bytes limit c.past)
    (hlimit : (c.obey command).state.core.noise.drawn ≤ limit) :
    (c.withStream bytes).obey command = (c.obey command).within fun d => d.withStream bytes := by
  rw [obey_state] at hlimit
  by_cases htick : command = .tick
  · subst htick
    rw [obey, obey, tick_withStream hagrees hlimit]
    exact Outcome.within_andThen fun _ _ => rfl
  by_cases hframe : command = .frame
  · subst hframe
    rw [obey, obey, frame_withStream hagrees hlimit]
    exact Outcome.within_andThen fun _ _ => rfl
  by_cases hconsume : command = .consumeDraw
  · rw [hconsume]
    rfl
  · exact ((undisturbed_stream bytes).obey rfl htick hframe hconsume).eq_within

/-- A row of commands is answered alike by another source that has the bytes which the row draws. -/
theorem obeyAll_withStream {commands : List Command} (hagrees : Agrees bytes limit c.past)
    (hlimit : (c.obeyAll commands).core.noise.drawn ≤ limit) :
    (c.withStream bytes).replies commands = c.replies commands ∧
      (c.withStream bytes).obeyAll commands = (c.obeyAll commands).withStream bytes := by
  induction commands generalizing c with
  | nil => exact ⟨rfl, rfl⟩
  | cons command rest ih =>
    have hrest := threaded_allOnsets (c.obey command).state rest
    have hobey := obey_withStream hagrees (Nat.le_trans hrest.drawn_le hlimit)
    obtain ⟨hreplies, hafter⟩ := ih ((c.threaded_commandOnsets command).agrees hagrees) hlimit
    constructor
    · rw [replies, replies, hobey]
      exact congrArg _ hreplies
    · show ((c.withStream bytes).obey command).state.obeyAll rest = _
      rw [hobey]
      exact hafter

/-! ### Its ticks -/

/-- The second row of ticks is the first on another source, as long as that is not asked for more
bytes than the limit. -/
def InStep (bytes : Nat → UInt8) (limit : Nat) : List Console → List Console → Prop
  | [], others => others = []
  | c :: rest, others => ∃ later, others = c.withStream bytes :: later ∧
      (c.tick.state.core.noise.drawn ≤ limit → InStep bytes limit rest later)

namespace InStep

variable {first middle last : Noise × Nat} {ticked others ticked' others' : List Console}

theorem append (h : InStep bytes limit ticked others) (hthread : Threaded first ticked middle)
    (hfirst : first.1.drawn ≤ limit)
    (h' : middle.1.drawn ≤ limit → InStep bytes limit ticked' others') :
    InStep bytes limit (ticked ++ ticked') (others ++ others') := by
  -- Once a tick goes over the limit, nothing is said about what is appended.
  induction ticked generalizing first others with
  | nil =>
    rw [show others = [] from h]
    rw [show middle = first from hthread] at h'
    exact h' hfirst
  | cons c rest ih =>
    obtain ⟨later, rfl, hlater⟩ := h
    exact ⟨later ++ others', rfl, fun hlimit => ih (hlater hlimit) hthread.2 hlimit⟩

/-- The rows are the same up to the tick that asks for too much. -/
theorem getElem? (h : InStep bytes limit ticked others) (hthread : Threaded first ticked last)
    {i : Nat} (hlimit : first.1.drawn + (rolls (ticked.take i)).length ≤ limit) :
    others[i]? = ticked[i]?.map fun d => d.withStream bytes := by
  induction ticked generalizing first others i with
  | nil =>
    rw [show others = [] from h]
    rfl
  | cons c rest ih =>
    obtain ⟨later, rfl, hlater⟩ := h
    obtain ⟨rfl, hrest⟩ := hthread
    cases i with
    | zero => rfl
    | succ i =>
      have hdrawn : c.tick.state.core.noise.drawn =
          c.core.noise.drawn + c.core.roll?.toList.length :=
        congrArg (fun past => past.1.drawn) c.tick_past
      rw [List.take_succ_cons, length_rolls_cons, ← Nat.add_assoc] at hlimit
      change c.core.noise.drawn + _ + _ ≤ limit at hlimit
      rw [← hdrawn] at hlimit
      exact ih (hlater (Nat.le_trans (Nat.le_add_right _ _) hlimit)) hrest hlimit

end InStep

theorem inStep_onsets (n : Nat) (hagrees : Agrees bytes limit c.past) :
    InStep bytes limit (onsets n c) (onsets n (c.withStream bytes)) := by
  induction n generalizing c with
  | zero => rfl
  | succ n ih =>
    refine ⟨_, rfl, fun hlimit => ?_⟩
    rw [tick_withStream hagrees hlimit]
    by_cases hok : c.tick.result.isOk = true
    · rw [if_pos hok, Outcome.within, if_pos hok]
      exact ih (c.threaded_tick.agrees hagrees)
    · rw [if_neg hok, Outcome.within, if_neg hok]
      rfl

theorem inStep_frameOnsets (hagrees : Agrees bytes limit c.past)
    (hdrawn : c.core.noise.drawn ≤ limit) :
    InStep bytes limit c.frameOnsets (c.withStream bytes).frameOnsets := by
  by_cases hactive : c.Active
  · have hthread := threaded_onsets #[] c.half c
    rw [frameOnsets_of_active hactive, frameOnsets_of_active (active_withStream.mpr hactive)]
    refine (inStep_onsets c.half hagrees).append hthread hdrawn fun hlimit => ?_
    rw [show (c.withStream bytes).half = c.half from rfl, ticks_withStream c.half hagrees hlimit]
    by_cases hok : (c.ticks c.half).result.isOk = true
    · rw [if_pos hok, Outcome.within, if_pos hok]
      exact inStep_onsets c.otherHalf (hthread.agrees hagrees)
    · rw [if_neg hok, Outcome.within, if_neg hok]
      rfl
  · rw [frameOnsets_of_not_active hactive,
      frameOnsets_of_not_active fun h => hactive (active_withStream.mp h)]
    rfl

theorem inStep_commandOnsets (command : Command) (hagrees : Agrees bytes limit c.past)
    (hdrawn : c.core.noise.drawn ≤ limit) :
    InStep bytes limit (c.commandOnsets command) ((c.withStream bytes).commandOnsets command) := by
  cases command with
  | tick => exact ⟨[], rfl, fun _ => rfl⟩
  | frame => exact inStep_frameOnsets hagrees hdrawn
  | _ => rfl

/-- On another source, the ticks of a row of commands start from the same consoles until one draws
a byte that the source does not have. -/
theorem inStep_allOnsets (commands : List Command) (hagrees : Agrees bytes limit c.past)
    (hdrawn : c.core.noise.drawn ≤ limit) :
    InStep bytes limit (c.allOnsets commands) ((c.withStream bytes).allOnsets commands) := by
  induction commands generalizing c with
  | nil => rfl
  | cons command rest ih =>
    have hthread := c.threaded_commandOnsets command
    refine (inStep_commandOnsets command hagrees hdrawn).append hthread hdrawn fun hlimit => ?_
    rw [obey_withStream hagrees hlimit]
    exact ih (hthread.agrees hagrees) hlimit

/-! ### All together -/

/-- **Random bytes are drawn by `Cxkk` alone, in their order.**  A row of commands, in which ticks
may fail, draws as many bytes as its ticks execute words `Cxkk`, and counts as many instructions as
its ticks complete.  The word `Cxkk` with number `m` among them succeeds and sets its register to
byte number `m` that lies ahead, where the mask lets it through.  On another source that has the
same next `m` bytes, the ticks start from the same consoles up to the one that executes a further
`Cxkk`, and do the same before it; if there is none, all commands are answered alike. -/
theorem rolls_in_order (c : Console) (commands : List Command) :
    let source := c.core.noise
    let ticked := c.allOnsets commands
    (c.obeyAll commands).core.noise = source.skip (rolls ticked).length ∧
    (c.obeyAll commands).cycles = c.cycles + (completions ticked).length ∧
    (∀ (m : Nat) (d : Console), (rolls ticked)[m]? = some d →
      ∃ x kk, d.core.roll? = some (x, kk) ∧ d.tick.result = .ok () ∧
        d.tick.state.core.v x = (source.byte (source.drawn + m) &&& kk).toNat ∧
        ∀ j, (d.tick.state.core.v x).toNat.testBit j = true → kk.toNat.testBit j = true) ∧
    ∀ (m : Nat) (bytes : Nat → UInt8),
      (∀ k < m, source.byte (source.drawn + k) = bytes (source.drawn + k)) →
      (∀ i, (rolls (ticked.take i)).length ≤ m →
        ((c.withStream bytes).allOnsets commands)[i]? =
          ticked[i]?.map fun d => d.withStream bytes) ∧
      (∀ i d, ticked[i]? = some d → (rolls (ticked.take (i + 1))).length ≤ m →
        (d.withStream bytes).tick = d.tick.within fun d => d.withStream bytes) ∧
      ((rolls ticked).length ≤ m →
        (c.withStream bytes).replies commands = c.replies commands ∧
          (c.withStream bytes).obeyAll commands = (c.obeyAll commands).withStream bytes) := by
  intro source ticked
  have hthread : Threaded c.past ticked (c.obeyAll commands).past :=
    c.threaded_allOnsets commands
  have hlast := hthread.last_eq
  refine ⟨congrArg Prod.fst hlast, congrArg Prod.snd hlast, ?_, ?_⟩
  · intro m d hd
    have hrolls : d.core.roll?.isSome = true :=
      (List.mem_filter.mp (List.mem_of_getElem? hd)).2
    obtain ⟨⟨x, kk⟩, hroll⟩ := Option.isSome_iff_exists.mp hrolls
    obtain ⟨hresult, hv⟩ := tick_of_roll hroll
    have hnext : d.core.noise.next = source.byte (source.drawn + m) :=
      congrArg Noise.next (hthread.next_of_getElem? hd)
    rw [hnext] at hv
    refine ⟨x, kk, hroll, hresult, hv, fun j hj => ?_⟩
    rw [hv, Int.toNat_natCast, UInt8.toNat_and, Nat.testBit_and, Bool.and_eq_true] at hj
    exact hj.2
  · intro m bytes hbytes
    have hagrees : Agrees bytes (source.drawn + m) c.past := by
      intro k hk hdrawn
      obtain ⟨k, rfl⟩ := Nat.exists_eq_add_of_le hdrawn
      exact hbytes k (Nat.lt_of_add_lt_add_left hk)
    refine ⟨?_, ?_, ?_⟩
    · intro i hi
      have hinStep := inStep_allOnsets commands hagrees (Nat.le_add_right _ m)
      exact hinStep.getElem? hthread (Nat.add_le_add_left hi _)
    · intro i d hd hi
      have hbefore := hthread.take hd
      have htick := hbefore.append d.threaded_tick
      have hdrawn : d.tick.state.core.noise = source.skip (rolls (ticked.take i ++ [d])).length :=
        congrArg Prod.fst htick.last_eq
      rw [List.take_add_one, hd] at hi
      refine tick_withStream (hbefore.agrees hagrees) ?_
      rw [hdrawn]
      exact Nat.add_le_add_left hi _
    · intro hm
      refine obeyAll_withStream hagrees ?_
      rw [show (c.obeyAll commands).core.noise = source.skip (rolls ticked).length from
        congrArg Prod.fst hlast]
      exact Nat.add_le_add_left hm _

/-- A program that draws two random bytes and then returns from nowhere. -/
def dicing : Console :=
  (new 10 false (.cycle #[0xAB, 0xCD])).obeyAll [.load [0xC0, 0x0F, 0xC1, 0xF0, 0x00, 0xEE], .start]

/-- The frame draws both bytes, and the tick that fails draws none.  A source with another second
byte leads up to the same console, and to another V1 behind it. -/
theorem rolls_in_order_dicing :
    (dicing.obeyAll [.frame]).core.noise.drawn = 2 ∧ (dicing.obeyAll [.frame]).cycles = 2 ∧
      (dicing.allOnsets [.frame]).length = 3 ∧
      ((dicing.withStream fun _ => 0xAB).allOnsets [.frame])[1]? =
        (dicing.allOnsets [.frame])[1]?.map (fun d => d.withStream fun _ => 0xAB) ∧
      (dicing.obeyAll [.frame]).core.v 1 = 0xC0 ∧
      ((dicing.withStream fun _ => 0xAB).obeyAll [.frame]).core.v 1 = 0xA0 := by
  obtain ⟨hlength, hrolls, hcompletions, hfirst, hv, hv'⟩ :
      (dicing.allOnsets [.frame]).length = 3 ∧ (rolls (dicing.allOnsets [.frame])).length = 2 ∧
        (completions (dicing.allOnsets [.frame])).length = 2 ∧
        (rolls ((dicing.allOnsets [.frame]).take 1)).length ≤ 1 ∧
        (dicing.obeyAll [.frame]).core.v 1 = 0xC0 ∧
        ((dicing.withStream fun _ => 0xAB).obeyAll [.frame]).core.v 1 = 0xA0 := by
    decide +kernel
  obtain ⟨hnoise, hcycles, -, hother⟩ := rolls_in_order dicing [.frame]
  obtain ⟨hinStep, -, -⟩ := hother 1 (fun _ => 0xAB) (by decide)
  rw [hrolls] at hnoise
  rw [hcompletions] at hcycles
  exact ⟨congrArg Noise.drawn hnoise, hcycles, hlength, hinStep 1 hfirst, hv, hv'⟩

end Console
end Chip8
