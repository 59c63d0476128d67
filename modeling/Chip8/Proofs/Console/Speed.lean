/-
What the speed does not change.

A faster console makes more ticks from one timer step to the next, and that is all there is to it.
Two consoles that start with the same program at different speeds are compared with one that makes
nothing but ticks.  Until a timer is read, all three do the same instruction by instruction.

* `Moment.interleaved` : a run by frames is a row of ticks, with timer steps and signals in between;
* `reaches_or_ends` : it goes on for any number of instructions, or ends with an error;
* `Beside.moment_iff`, `Beside.endsIn_iff` : it gets as far as ticks alone do, and ends as they do;
* `same_at_any_speed` : so the speed does not matter.
-/
import Chip8.Proofs.Console.Interleaving
import Chip8.Proofs.Console.Interruption

namespace Chip8.Console

variable {b c d : Console} {e : Error} {n k : Nat}

/-! ### Runs by frames -/

/-- The console after a number of frames. -/
def framed (c : Console) : Nat → Console
  | 0 => c
  | n + 1 => (c.framed n).frame.state

/-- In a run by frames, `n` frames and the first `k` ticks of the next one succeed. -/
structure Reaches (c : Console) (n k : Nat) : Prop where
  frames : ∀ m < n, (c.framed m).frame.result.isOk = true
  le : k ≤ (c.framed n).frameTicks
  ticks : ∀ i < k, ((c.framed n).inFrame i).tick.result = .ok ()

/-- The consoles that there are in a run by frames, between two ticks or two frames.  Where the
timer step comes between two ticks, there is one before it and one behind it. -/
def Moment (c d : Console) : Prop :=
  ∃ n k, c.Reaches n k ∧
    (d = (c.framed n).inFrame k ∨ k ≤ (c.framed n).half ∧ d = (c.framed n).ticked k)

/-- A run by frames ends with the error `e`, and leaves `d`. -/
def EndsIn (c : Console) (e : Error) (d : Console) : Prop :=
  ∃ n, (∀ m < n, (c.framed m).frame.result.isOk = true) ∧ (c.framed n).frame.result = .error e ∧
    d = (c.framed n).frame.state

theorem Interleaved.active (hc : c.core.WellFormed) (hactive : c.Active) (h : Interleaved c n d) :
    d.Active :=
  ⟨(h.course hc).running.trans hactive.running, (h.course hc).paused.trans hactive.paused⟩

theorem Interleaved.frameTicks (hc : c.core.WellFormed) (h : Interleaved c n d) :
    d.frameTicks = c.frameTicks := by
  rw [Console.frameTicks, Console.frameTicks, (h.course hc).ticksPerFrame]

theorem ticked_interleaved (h : Interleaved b n c)
    (hok : ∀ i < k, (c.ticked i).tick.result = .ok ()) : Interleaved b (n + k) (c.ticked k) := by
  induction k with
  | zero => exact h
  | succ k ih =>
    have hbefore := ih fun i hi => hok i (Nat.lt_succ_of_lt hi)
    exact hbefore.tick (hok k (Nat.lt_succ_self k))

theorem inFrame_interleaved (h : Interleaved b n c)
    (hok : ∀ i < k, (c.inFrame i).tick.result = .ok ()) : Interleaved b (n + k) (c.inFrame k) := by
  induction k with
  | zero =>
    rw [inFrame_zero]
    split
    · exact h.timerStep
    · exact h
  | succ k ih =>
    have htick := (ih fun i hi => hok i (Nat.lt_succ_of_lt hi)).tick (hok k (Nat.lt_succ_self k))
    rw [inFrame_succ]
    split
    · exact htick.timerStep
    · exact htick

/-- Ticks of a frame before the timer step are ticks in a row. -/
theorem ticked_interleaved_of_le_half (h : Interleaved b n c) (hk : k ≤ c.half)
    (hok : ∀ i < k, (c.inFrame i).tick.result = .ok ()) : Interleaved b (n + k) (c.ticked k) := by
  refine ticked_interleaved h fun i hi => ?_
  rw [← inFrame_of_lt (Nat.lt_of_lt_of_le hi hk)]
  exact hok i hi

/-- All ticks of a frame that succeeds do. -/
theorem ticks_of_isOk (hactive : c.Active) (hframe : c.frame.result.isOk = true) :
    ∀ i < c.frameTicks, (c.inFrame i).tick.result = .ok () := by
  rcases ok_or_stopsAt c with hok | ⟨j, e, hstop⟩
  · exact hok
  · rw [(frame_of_stopsAt hactive hstop).2] at hframe
    cases hframe

theorem framed_interleaved (hc : c.core.WellFormed) (hactive : c.Active)
    (hframes : ∀ m < n, (c.framed m).frame.result.isOk = true) :
    Interleaved c (n * c.frameTicks) (c.framed n) := by
  induction n with
  | zero =>
    rw [Nat.zero_mul]
    exact .start
  | succ n ih =>
    have hn := ih fun m hm => hframes m (Nat.lt_succ_of_lt hm)
    have hactive' := hn.active hc hactive
    have hok := ticks_of_isOk hactive' (hframes n (Nat.lt_succ_self n))
    have hframe := (inFrame_interleaved hn hok).signalDraw
    rw [← (frame_of_ok hactive' hok).1, hn.frameTicks hc, ← Nat.succ_mul] at hframe
    exact hframe

/-- All that there is in a run by frames comes about by ticks, timer steps and signals. -/
theorem Moment.interleaved (hc : c.core.WellFormed) (hactive : c.Active) (h : c.Moment d) :
    ∃ N, d.cycles = c.cycles + N ∧ Interleaved c N d := by
  obtain ⟨n, k, hreach, hd⟩ := h
  have hframes := framed_interleaved hc hactive hreach.frames
  have hrun : Interleaved c (n * c.frameTicks + k) d := by
    rcases hd with rfl | ⟨hk, rfl⟩
    · exact inFrame_interleaved hframes hreach.ticks
    · exact ticked_interleaved_of_le_half hframes hk hreach.ticks
  exact ⟨_, (hrun.course hc).cycles, hrun⟩

theorem Reaches.moment (h : c.Reaches n k) : c.Moment ((c.framed n).inFrame k) :=
  ⟨n, k, h, .inl rfl⟩

theorem Reaches.cycles (hc : c.core.WellFormed) (hactive : c.Active) (h : c.Reaches n k) :
    ((c.framed n).inFrame k).cycles = c.cycles + (n * c.frameTicks + k) :=
  ((inFrame_interleaved (framed_interleaved hc hactive h.frames) h.ticks).course hc).cycles

theorem Reaches.frameTicks (hc : c.core.WellFormed) (hactive : c.Active) (h : c.Reaches n k) :
    (c.framed n).frameTicks = c.frameTicks :=
  (framed_interleaved hc hactive h.frames).frameTicks hc

/-- Behind a tick that succeeds there is a next one, in the same frame or in another. -/
theorem Reaches.next (hc : c.core.WellFormed) (hactive : c.Active) (h : c.Reaches n k)
    (hk : k < c.frameTicks) (hok : ((c.framed n).inFrame k).tick.result = .ok ()) :
    ∃ n' k', c.Reaches n' k' ∧ k' < c.frameTicks ∧
      n' * c.frameTicks + k' = n * c.frameTicks + k + 1 := by
  have hticks := h.frameTicks hc hactive
  have hall : ∀ i < k + 1, ((c.framed n).inFrame i).tick.result = .ok () :=
    Nat.forall_lt_succ_right.mpr ⟨h.ticks, hok⟩
  by_cases hlast : k + 1 < c.frameTicks
  · exact ⟨n, k + 1, ⟨h.frames, hticks ▸ hk, hall⟩, hlast, rfl⟩
  · -- That was the last tick of its frame.
    obtain hk' : k + 1 = c.frameTicks := by omega
    rw [hk', ← hticks] at hall
    have hactive' := (framed_interleaved hc hactive h.frames).active hc hactive
    have hframe : (c.framed n).frame.result.isOk = true := by
      rw [(frame_of_ok hactive' hall).2]
      rfl
    have hframes : ∀ m < n + 1, (c.framed m).frame.result.isOk = true :=
      Nat.forall_lt_succ_right.mpr ⟨h.frames, hframe⟩
    refine ⟨n + 1, 0, ⟨hframes, Nat.zero_le _, nofun⟩, by omega, ?_⟩
    rw [Nat.succ_mul]
    omega

/-- A run by frames goes on for any number of instructions, or ends before that. -/
theorem reaches_or_ends (hc : c.core.WellFormed) (hactive : c.Active) (hpos : 0 < c.frameTicks)
    (N : Nat) :
    (∃ n k, c.Reaches n k ∧ k < c.frameTicks ∧ n * c.frameTicks + k = N) ∨
      ∃ n k e, c.Reaches n k ∧ (c.framed n).StopsAt k e ∧ n * c.frameTicks + k < N := by
  induction N with
  | zero => exact .inl ⟨0, 0, ⟨nofun, Nat.zero_le _, nofun⟩, hpos, by omega⟩
  | succ N ih =>
    rcases ih with ⟨n, k, hreach, hk, rfl⟩ | ⟨n, k, e, hreach, hstop, hlt⟩
    · cases hresult : ((c.framed n).inFrame k).tick.result with
      | ok _ => exact .inl (hreach.next hc hactive hk hresult)
      | error e =>
        have hticks := hreach.frameTicks hc hactive
        have hstop : (c.framed n).StopsAt k e := ⟨hticks ▸ hk, hreach.ticks, hresult⟩
        exact .inr ⟨n, k, e, hreach, hstop, Nat.lt_succ_self _⟩
    · exact .inr ⟨n, k, e, hreach, hstop, Nat.lt_succ_of_lt hlt⟩

theorem tick_cycles_of_error (he : c.tick.result = .error e) :
    c.tick.state.cycles = c.cycles := by
  rw [tick_cycles, he]
  rfl

/-- A run by frames ends with the first tick that fails. -/
theorem endsIn_iff_stopsAt (hc : c.core.WellFormed) (hactive : c.Active) :
    c.EndsIn e d ↔ ∃ n k, c.Reaches n k ∧ (c.framed n).StopsAt k e ∧
      d = ((c.framed n).inFrame k).tick.state := by
  constructor
  · rintro ⟨n, hframes, herror, rfl⟩
    have hactive' := (framed_interleaved hc hactive hframes).active hc hactive
    rcases ok_or_stopsAt (c.framed n) with hok | ⟨k, e', hstop⟩
    · rw [(frame_of_ok hactive' hok).2] at herror
      cases herror
    · obtain ⟨hstate, hresult⟩ := frame_of_stopsAt hactive' hstop
      rw [hresult] at herror
      obtain rfl := Except.error.inj herror
      exact ⟨n, k, ⟨hframes, Nat.le_of_lt hstop.lt, hstop.before⟩, hstop, hstate⟩
  · rintro ⟨n, k, hreach, hstop, rfl⟩
    have hactive' := (framed_interleaved hc hactive hreach.frames).active hc hactive
    obtain ⟨hstate, hresult⟩ := frame_of_stopsAt hactive' hstop
    exact ⟨n, hreach.frames, hresult, hstate.symm⟩

/-! ### Ticks alone -/

/-- `c` has the same program and the same data as `d`, which runs by frames of some ticks. -/
structure Beside (c d : Console) : Prop where
  wellFormed : c.core.WellFormed
  same : c.core.SameButTimers d.core
  wellFormed' : d.core.WellFormed
  active : d.Active
  pos : 0 < d.frameTicks

namespace Beside

variable {c d : Console} {N : Nat}

theorem wellFormed_of_moment (beside : Beside c d) {d' : Console} (h : d.Moment d') :
    d'.core.WellFormed := by
  obtain ⟨N, -, hrun⟩ := h.interleaved beside.wellFormed' beside.active
  exact (hrun.course beside.wellFormed').wellFormed

/-- Behind as many instructions the two are the same. -/
theorem of_moment (beside : Beside c d) (hread : c.ReadsNoTimer N) {d' : Console} (h : d.Moment d')
    (hcycles : d'.cycles = d.cycles + N) :
    (∀ k < N, (c.ticked k).tick.result = .ok ()) ∧ (c.ticked N).core.SameButTimers d'.core := by
  obtain ⟨N', hcycles', hrun⟩ := h.interleaved beside.wellFormed' beside.active
  obtain rfl : N' = N := by omega
  exact ticked_of_interleaved beside.wellFormed beside.wellFormed' beside.same hread hrun

theorem tick_result_of_moment (beside : Beside c d) (hread : c.ReadsNoTimer N) {d' : Console}
    (h : d.Moment d') (hcycles : d'.cycles = d.cycles + N) :
    d'.tick.result = (c.ticked N).tick.result :=
  tick_result_sameButTimers (ticked_wellFormed beside.wellFormed N) (beside.wellFormed_of_moment h)
    (beside.of_moment hread h hcycles).2

/-- Where a frame ends early, ticks alone end too. -/
theorem error_of_stopsAt (beside : Beside c d) (h : d.Reaches n k)
    (hstop : (d.framed n).StopsAt k e) (hread : c.ReadsNoTimer (n * d.frameTicks + k)) :
    (∀ i < n * d.frameTicks + k, (c.ticked i).tick.result = .ok ()) ∧
      (c.ticked (n * d.frameTicks + k)).tick.result = .error e ∧
      (c.ticked (n * d.frameTicks + k)).tick.state.core.SameButTimers
        ((d.framed n).inFrame k).tick.state.core := by
  have hcycles := h.cycles beside.wellFormed' beside.active
  have hwf := ticked_wellFormed beside.wellFormed (n * d.frameTicks + k)
  have hwf' := beside.wellFormed_of_moment h.moment
  obtain ⟨hbefore, hsame⟩ := beside.of_moment hread h.moment hcycles
  have herror := (beside.tick_result_of_moment hread h.moment hcycles).symm.trans hstop.error
  refine ⟨hbefore, herror, tick_sameButTimers hwf hwf' hsame fun hok => ?_⟩
  rw [herror] at hok
  cases hok

/-- The run by frames goes on for as long as ticks alone do. -/
theorem reaches (beside : Beside c d) (hread : c.ReadsNoTimer N)
    (hok : ∀ k < N, (c.ticked k).tick.result = .ok ()) :
    ∃ n k, d.Reaches n k ∧ k < d.frameTicks ∧ n * d.frameTicks + k = N := by
  rcases reaches_or_ends beside.wellFormed' beside.active beside.pos N with
    hreach | ⟨n, k, e, hreach, hstop, hlt⟩
  · exact hreach
  · obtain ⟨-, herror, -⟩ := beside.error_of_stopsAt hreach hstop (hread.mono (Nat.le_of_lt hlt))
    rw [hok _ hlt] at herror
    cases herror

theorem moment_iff (beside : Beside c d) (hread : c.ReadsNoTimer N) :
    (∃ d', d.Moment d' ∧ d'.cycles = d.cycles + N) ↔
      ∀ k < N, (c.ticked k).tick.result = .ok () := by
  constructor
  · rintro ⟨d', h, hcycles⟩
    exact (beside.of_moment hread h hcycles).1
  · intro hok
    obtain ⟨n, k, hreach, -, rfl⟩ := beside.reaches hread hok
    exact ⟨_, hreach.moment, hreach.cycles beside.wellFormed' beside.active⟩

/-- Where it ends, ticks alone end, and leave the same but for the timers. -/
theorem of_endsIn (beside : Beside c d) (hread : c.ReadsNoTimer N) {d' : Console}
    (h : d.EndsIn e d') (hcycles : d'.cycles = d.cycles + N) :
    (∀ k < N, (c.ticked k).tick.result = .ok ()) ∧ (c.ticked N).tick.result = .error e ∧
      (c.ticked N).tick.state.core.SameButTimers d'.core := by
  obtain ⟨n, k, hreach, hstop, rfl⟩ :=
    (endsIn_iff_stopsAt beside.wellFormed' beside.active).mp h
  rw [tick_cycles_of_error hstop.error,
    hreach.cycles beside.wellFormed' beside.active] at hcycles
  obtain rfl := Nat.add_left_cancel hcycles
  exact beside.error_of_stopsAt hreach hstop hread

theorem endsIn_iff (beside : Beside c d) (hread : c.ReadsNoTimer N) :
    (∃ d', d.EndsIn e d' ∧ d'.cycles = d.cycles + N) ↔
      (∀ k < N, (c.ticked k).tick.result = .ok ()) ∧ (c.ticked N).tick.result = .error e := by
  constructor
  · rintro ⟨d', h, hcycles⟩
    obtain ⟨hbefore, herror, -⟩ := beside.of_endsIn hread h hcycles
    exact ⟨hbefore, herror⟩
  · rintro ⟨hbefore, herror⟩
    obtain ⟨n, k, hreach, hk, rfl⟩ := beside.reaches hread hbefore
    have hcycles := hreach.cycles beside.wellFormed' beside.active
    have hticks := hreach.frameTicks beside.wellFormed' beside.active
    have herror' := (beside.tick_result_of_moment hread hreach.moment hcycles).trans herror
    have hstop : (d.framed n).StopsAt k e := ⟨hticks ▸ hk, hreach.ticks, herror'⟩
    refine ⟨((d.framed n).inFrame k).tick.state, ?_, ?_⟩
    · exact (endsIn_iff_stopsAt beside.wellFormed' beside.active).mpr ⟨n, k, hreach, hstop, rfl⟩
    · rw [tick_cycles_of_error herror', hcycles]

/-- Ticks alone read no timer if and only if the run by frames reads none. -/
theorem readsNoTimer_iff (beside : Beside c d) : c.ReadsNoTimer N ↔
    ∀ d', d.Moment d' → d'.cycles < d.cycles + N → d'.tick.result = .ok () →
      ∀ x, d'.core.instr ≠ .readDelay x := by
  constructor
  · intro hread d' h hlt hok x
    obtain ⟨m, hm⟩ : ∃ m, d'.cycles = d.cycles + m := by
      obtain ⟨m, hm, -⟩ := h.interleaved beside.wellFormed' beside.active
      exact ⟨m, hm⟩
    have hlast : c.ReadsNoTimer m := hread.mono (by omega)
    obtain ⟨hbefore, hsame⟩ := beside.of_moment hlast h hm
    have hresult := beside.tick_result_of_moment hlast h hm
    rw [hsame.instr]
    refine hread m (by omega) (fun j hj => ?_) x
    rcases Nat.lt_or_eq_of_le hj with hlt | rfl
    · exact hbefore j hlt
    · exact hresult.symm.trans hok
  · intro hread
    induction N with
    | zero => exact nofun
    | succ N ih =>
      have hbelow : c.ReadsNoTimer N := ih fun d' h hlt => hread d' h (by omega)
      intro k hk hok x
      rcases Nat.lt_succ_iff_lt_or_eq.mp hk with hlt | rfl
      · exact hbelow k hlt hok x
      · -- The run by frames has come to the same instruction.
        obtain ⟨d', h, hcycles⟩ :=
          (beside.moment_iff hbelow).mpr fun i hi => hok i (Nat.le_of_lt hi)
        obtain ⟨-, hsame⟩ := beside.of_moment hbelow h hcycles
        have hresult := beside.tick_result_of_moment hbelow h hcycles
        rw [← hsame.instr]
        exact hread d' h (by omega) (hresult.trans (hok k (Nat.le_refl k))) x

end Beside

/-! ### Two speeds -/

/-- What a run starts from, its speed apart. -/
structure Setup where
  cartridge : Cartridge
  keys : Keys
  waitForKey : Bool
  noise : Noise

/-- A new console with the keys held down and the cartridge in it, started. -/
def Setup.launched (setup : Setup) (ticksPerFrame : Int) : Console :=
  let c := new ticksPerFrame setup.waitForKey setup.noise
  ({ c with core := { c.core with keys := setup.keys } }.insert setup.cartridge).state.start.state

namespace Setup

variable (setup : Setup)

theorem launched_eq (ticksPerFrame : Int) : setup.launched ticksPerFrame =
    { ({ new ticksPerFrame setup.waitForKey setup.noise with
        core := { (new ticksPerFrame setup.waitForKey setup.noise).core with keys := setup.keys }
        cartridge? := some setup.cartridge }.booted setup.cartridge) with running := true } := by
  rw [launched, insert_eq]
  rfl

theorem launched_cycles (ticksPerFrame : Int) : (setup.launched ticksPerFrame).cycles = 0 := by
  rw [launched_eq]
  rfl

theorem beside_launched (fast : Int) {slow : Int} (hslow : 1 ≤ slow) :
    Beside (setup.launched fast) (setup.launched slow) := by
  have hwf : ∀ t, (setup.launched t).core.WellFormed := by
    intro t
    rw [launched_eq]
    exact (orderly_booted _ setup.cartridge).wellFormed
  refine ⟨hwf fast, ?_, hwf slow, ?_, ?_⟩
  · rw [launched_eq, launched_eq]
    exact .refl
  · rw [launched_eq]
    exact ⟨rfl, rfl⟩
  · rw [launched_eq]
    show 0 < slow.toNat
    omega

/-- **The speed does not change what a program does.**  Two new consoles with the same cartridge,
keys and random bytes run by frames, at any two speeds.  If the first `N` instructions of the one do
not read a timer, then one comes to complete `N` instructions if and only if the other does, and
whenever both have, in a frame or between two, they are the same but for the timers.  The one ends
with an error after `N` instructions if and only if the other ends with that error after as many,
and then they are the same but for the timers too. -/
theorem same_at_any_speed {fast slow : Int} (hfast : 1 ≤ fast) (hslow : 1 ≤ slow) {N : Nat}
    (hread : ∀ d, (setup.launched fast).Moment d → d.cycles < N → d.tick.result = .ok () →
      ∀ x, d.core.instr ≠ .readDelay x) :
    ((∃ d, (setup.launched fast).Moment d ∧ d.cycles = N) ↔
      ∃ d', (setup.launched slow).Moment d' ∧ d'.cycles = N) ∧
    (∀ d d', (setup.launched fast).Moment d → (setup.launched slow).Moment d' →
      d.cycles = N → d'.cycles = N → d.core.SameButTimers d'.core) ∧
    (∀ e, (∃ d, (setup.launched fast).EndsIn e d ∧ d.cycles = N) ↔
      ∃ d', (setup.launched slow).EndsIn e d' ∧ d'.cycles = N) ∧
    ∀ e e' d d', (setup.launched fast).EndsIn e d → (setup.launched slow).EndsIn e' d' →
      d.cycles = N → d'.cycles = N → d.core.SameButTimers d'.core := by
  have hcycles : ∀ t, N = (setup.launched t).cycles + N := fun t => by
    rw [launched_cycles, Nat.zero_add]
  -- Both are compared with ticks alone, from where the first one starts.
  have beside := setup.beside_launched fast hfast
  have beside' := setup.beside_launched fast hslow
  have hnone : (setup.launched fast).ReadsNoTimer N :=
    beside.readsNoTimer_iff.mpr fun d h hlt => hread d h (by rwa [← hcycles] at hlt)
  refine ⟨?_, fun d d' h h' hd hd' => ?_, fun e => ?_, fun e e' d d' h h' hd hd' => ?_⟩
  · have hmoment := beside.moment_iff hnone
    have hmoment' := beside'.moment_iff hnone
    rw [← hcycles] at hmoment hmoment'
    exact hmoment.trans hmoment'.symm
  · obtain ⟨-, hsame⟩ := beside.of_moment hnone h (hd.trans (hcycles fast))
    obtain ⟨-, hsame'⟩ := beside'.of_moment hnone h' (hd'.trans (hcycles slow))
    exact hsame.symm.trans hsame'
  · have hends := beside.endsIn_iff (e := e) hnone
    have hends' := beside'.endsIn_iff (e := e) hnone
    rw [← hcycles] at hends hends'
    exact hends.trans hends'.symm
  · obtain ⟨-, -, hsame⟩ := beside.of_endsIn hnone h (hd.trans (hcycles fast))
    obtain ⟨-, -, hsame'⟩ := beside'.of_endsIn hnone h' (hd'.trans (hcycles slow))
    exact hsame.symm.trans hsame'

/-- A program that sets the delay timer and then returns from nowhere. -/
def setsTimer : Setup :=
  ⟨⟨[0x60, 0x05, 0xF0, 0x15, 0x00, 0xEE], "", by decide⟩, .allUp, false, .cycle #[]⟩

/-- At one tick a frame the fault comes in the third frame, so at three ticks a frame it comes
too. -/
theorem same_at_any_speed_setsTimer :
    (∀ d, (setsTimer.launched 1).Moment d → d.cycles < 2 → d.tick.result = .ok () →
      ∀ x, d.core.instr ≠ .readDelay x) ∧
    (∃ d, (setsTimer.launched 1).EndsIn
      (.fault ⟨.stackUnderflow 0, .instruction 0x204 0x00EE⟩) d ∧ d.cycles = 2) ∧
    ∃ d', (setsTimer.launched 3).EndsIn
      (.fault ⟨.stackUnderflow 0, .instruction 0x204 0x00EE⟩) d' ∧ d'.cycles = 2 := by
  have beside := setsTimer.beside_launched 1 (Int.le_refl 1)
  have hwf := ticked_wellFormed beside.wellFormed
  obtain ⟨hinstr, hclear, hfault⟩ :
      (∀ k < 2, ∀ x : Reg, ((setsTimer.launched 1).ticked k).core.instr ≠ .readDelay x) ∧
      (∀ k < 2, ((setsTimer.launched 1).ticked k).core.fault? = none) ∧
      ((setsTimer.launched 1).ticked 2).core.fault? =
        some ⟨.stackUnderflow 0, .instruction 0x204 0x00EE⟩ := by
    decide +kernel
  have hnone : (setsTimer.launched 1).ReadsNoTimer 2 := fun k hk _ => hinstr k hk
  have hread := beside.readsNoTimer_iff.mp hnone
  have hends := (beside.endsIn_iff hnone).mpr ⟨fun k hk => by rw [tick_result (hwf k), hclear k hk],
    by rw [tick_result (hwf 2), hfault]⟩
  rw [launched_cycles] at hread hends
  obtain ⟨-, -, hboth, -⟩ :=
    same_at_any_speed setsTimer (Int.le_refl 1) (show (1 : Int) ≤ 3 by decide) hread
  exact ⟨hread, hends, (hboth _).mp hends⟩

end Setup

end Chip8.Console
