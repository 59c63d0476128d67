/-
Consoles in lockstep.

Two consoles may differ in something that nobody sees.  If every part of a frame keeps the
difference unseen, then frames do, and so do rows of commands: both consoles answer the same, fail
with the same errors and log the same lines.

* `FrameLockstep.frame` : frames of related consoles look the same and leave related consoles;
* `Undisturbed.obey` : so do commands that do not run the program, if they keep what they touch;
* `Undisturbed.lockstep` : so it takes little to show that a difference is never seen;
* `Lockstep.replies` : then rows of commands of any length, those that fail included, do not show
  it.
-/
import Chip8.Proofs.Console.Reach

namespace Chip8

/-- Two outcomes that look the same: they have the same answer or error, and log the same lines.
Their states are related. -/
structure Outcome.Alike {σ τ α : Type} (R : σ → τ → Prop) (o : Outcome σ α) (p : Outcome τ α) :
    Prop where
  state : R o.state p.state
  result : o.result = p.result
  log : o.log = p.log

theorem Outcome.alike_done {σ τ α : Type} {R : σ → τ → Prop} {s : σ} {t : τ} (h : R s t) (a : α) :
    (done s a).Alike R (done t a) :=
  ⟨h, rfl, rfl⟩

/-- Outcomes that look the same and go on in ways that look the same still look the same. -/
theorem Outcome.Alike.andThen {σ τ α β : Type} {R : σ → τ → Prop} {o : Outcome σ α}
    {p : Outcome τ α} (h : o.Alike R p) {f : α → σ → Outcome σ β} {g : α → τ → Outcome τ β}
    (hnext : ∀ a s t, R s t → (f a s).Alike R (g a t)) : (o.andThen f).Alike R (p.andThen g) := by
  obtain ⟨s, r, log⟩ := o
  obtain ⟨t, r', log'⟩ := p
  obtain ⟨hstate, rfl, rfl⟩ := h
  cases r with
  | error e => exact ⟨hstate, rfl, rfl⟩
  | ok a =>
    have ha := hnext a s t hstate
    exact ⟨ha.state, ha.result, congrArg (log ++ ·) ha.log⟩

namespace Console

/-- What each command of a row answers or fails with, and what it logs. -/
def replies (c : Console) : List Command → List (Except Error Reply × Array String)
  | [] => []
  | command :: rest =>
    ((c.obey command).result, (c.obey command).log) :: (c.obey command).state.replies rest

/-- Two consoles have the same switches and the same pending signals. -/
structure SameFront (c d : Console) : Prop where
  running : c.running = d.running
  paused : c.paused = d.paused
  ticksPerFrame : c.ticksPerFrame = d.ticksPerFrame
  tone : c.tone = d.tone
  drawn : c.core.drawn = d.core.drawn

/-- A difference between consoles that cannot be seen in a frame, and that everything which a frame
is made of keeps so. -/
structure FrameLockstep (R : Console → Console → Prop) : Prop where
  front : ∀ {c d : Console}, R c d → c.SameFront d
  tick : ∀ {c d : Console}, R c d → c.tick.Alike R d.tick
  timerStep : ∀ {c d : Console}, R c d → R c.timerStep d.timerStep
  signalDraw : ∀ {c d : Console}, R c d → R c.signalDraw d.signalDraw

/-- A difference that cannot be seen by any command. -/
structure Lockstep (R : Console → Console → Prop) : Prop extends FrameLockstep R where
  /-- Commands that do not run the program. -/
  other : ∀ {c d : Console}, R c d → ∀ command, command ≠ .tick → command ≠ .frame →
    (c.obey command).Alike R (d.obey command)

variable {R : Console → Console → Prop} {c d : Console}

/-! ### Frames -/

namespace FrameLockstep

theorem ticksAfter (lockstep : FrameLockstep R) (log : Array String) (n : Nat) (h : R c d) :
    (ticksAfter log n c).Alike R (ticksAfter log n d) := by
  induction n generalizing log c d with
  | zero => exact ⟨h, rfl, rfl⟩
  | succ n ih =>
    have hstep := lockstep.tick h
    simp only [Console.ticksAfter, ← hstep.result, ← hstep.log]
    cases c.tick.result with
    | ok _ => exact ih _ hstep.state
    | error e => exact ⟨hstep.state, rfl, rfl⟩

theorem ticks (lockstep : FrameLockstep R) (n : Nat) (h : R c d) :
    (c.ticks n).Alike R (d.ticks n) :=
  lockstep.ticksAfter #[] n h

theorem frame (lockstep : FrameLockstep R) (h : R c d) : c.frame.Alike R d.frame := by
  have hfront := lockstep.front h
  simp only [Console.frame, ← hfront.running, ← hfront.paused, ← hfront.ticksPerFrame,
    ← hfront.tone]
  split
  · exact Outcome.alike_done h _
  · refine (lockstep.ticks _ h).andThen fun _ c₁ d₁ h₁ => ?_
    refine (lockstep.ticks _ (lockstep.timerStep h₁)).andThen fun _ c₂ d₂ h₂ => ?_
    have hfront₂ := lockstep.front h₂
    rw [hfront₂.drawn, hfront₂.tone]
    exact Outcome.alike_done (lockstep.signalDraw h₂) _

end FrameLockstep

/-! ### Other commands -/

/-- Two consoles have the same cartridge, switches and keys. -/
structure SameSetting (c d : Console) : Prop where
  running : c.running = d.running
  paused : c.paused = d.paused
  cartridge? : c.cartridge? = d.cartridge?
  keys : c.core.keys = d.core.keys

/-- A difference that is kept by all that commands do which neither run the program nor ask for a
redraw. -/
structure Undisturbed (R : Console → Console → Prop) : Prop where
  setting : ∀ {c d : Console}, R c d → c.SameSetting d
  running : ∀ {c d : Console}, R c d → ∀ b, R { c with running := b } { d with running := b }
  paused : ∀ {c d : Console}, R c d → ∀ b, R { c with paused := b } { d with paused := b }
  keys : ∀ {c d : Console}, R c d → ∀ keys,
    R { c with core := { c.core with keys := keys } }
      { d with core := { d.core with keys := keys } }
  booted : ∀ {c d : Console}, R c d → ∀ cartridge,
    R ({ c with cartridge? := some cartridge }.booted cartridge)
      ({ d with cartridge? := some cartridge }.booted cartridge)
  cleared : ∀ {c d : Console}, R c d →
    R { c with core := { c.core with registers := .zero, memory := .initial } }
      { d with core := { d.core with registers := .zero, memory := .initial } }

namespace Undisturbed

theorem insert (undisturbed : Undisturbed R) (h : R c d) (cartridge : Cartridge) :
    (c.insert cartridge).Alike R (d.insert cartridge) := by
  have hsame := (undisturbed.setting h).running
  rw [insert_eq, insert_eq]
  by_cases hrunning : c.running = true
  · rw [if_pos hrunning, if_pos (hsame ▸ hrunning)]
    exact ⟨h, rfl, rfl⟩
  · rw [if_neg hrunning, if_neg (hsame ▸ hrunning)]
    exact ⟨undisturbed.booted h cartridge, rfl, rfl⟩

theorem load (undisturbed : Undisturbed R) (h : R c d) (bytes : List UInt8) :
    (c.load bytes).Alike R (d.load bytes) := by
  have hsame := (undisturbed.setting h).running
  rw [load_eq, load_eq]
  by_cases hrunning : c.running = true
  · rw [if_pos hrunning, if_pos (hsame ▸ hrunning)]
    exact ⟨h, rfl, rfl⟩
  · rw [if_neg hrunning, if_neg (hsame ▸ hrunning)]
    cases Cartridge.ofBytes bytes "" with
    | error e => exact ⟨h, rfl, rfl⟩
    | ok cartridge => exact ⟨undisturbed.booted h cartridge, rfl, rfl⟩

theorem start (undisturbed : Undisturbed R) (h : R c d) : c.start.Alike R d.start := by
  have hsame := (undisturbed.setting h).cartridge?
  rw [Console.start, Console.start]
  by_cases hnone : c.cartridge?.isNone = true
  · rw [if_pos hnone, if_pos (hsame ▸ hnone)]
    exact ⟨h, rfl, rfl⟩
  · rw [if_neg hnone, if_neg (hsame ▸ hnone)]
    exact ⟨undisturbed.running h true, rfl, rfl⟩

theorem atRest (undisturbed : Undisturbed R) (h : R c d) : R c.atRest d.atRest :=
  undisturbed.keys (undisturbed.paused (undisturbed.running h false) false) .allUp

theorem reset (undisturbed : Undisturbed R) (h : R c d) : c.reset.Alike R d.reset := by
  have hsame := (undisturbed.setting h).cartridge?
  have hrest := undisturbed.atRest h
  cases hc : c.cartridge? with
  | some cartridge =>
    have hbooted := undisturbed.booted hrest cartridge
    -- The cartridge that is put in is the one that is there.
    rw [show { c.atRest with cartridge? := some cartridge } = c.atRest by rw [← hc]; rfl,
      show { d.atRest with cartridge? := some cartridge } = d.atRest by
        rw [← hc, hsame]; rfl] at hbooted
    rw [reset_of_some hc, reset_of_some (hsame ▸ hc)]
    exact ⟨hbooted, rfl, rfl⟩
  | none =>
    rw [reset_of_none hc, reset_of_none (hsame ▸ hc)]
    exact ⟨undisturbed.cleared hrest, rfl, rfl⟩

theorem togglePause (undisturbed : Undisturbed R) (h : R c d) :
    c.togglePause.Alike R d.togglePause := by
  have hsame := (undisturbed.setting h).paused
  rw [Console.togglePause, Console.togglePause, ← hsame]
  exact ⟨undisturbed.paused h (!c.paused), rfl, rfl⟩

/-- Commands that do not run the program, and do not ask for a redraw either. -/
theorem obey (undisturbed : Undisturbed R) (h : R c d) {command : Command}
    (htick : command ≠ .tick) (hframe : command ≠ .frame) (hconsume : command ≠ .consumeDraw) :
    (c.obey command).Alike R (d.obey command) := by
  have silent : ∀ {o p : Outcome Console Unit}, o.Alike R p →
      (Console.silent o).Alike R (Console.silent p) :=
    fun hop => hop.andThen fun _ _ _ h' => Outcome.alike_done h' _
  have hkeys := (undisturbed.setting h).keys
  cases command with
  | load bytes => exact silent (undisturbed.load h bytes)
  | insert cartridge => exact silent (undisturbed.insert h cartridge)
  | start => exact silent (undisturbed.start h)
  | stop => exact Outcome.alike_done (undisturbed.running h false) _
  | reset => exact silent (undisturbed.reset h)
  | togglePause =>
    exact (undisturbed.togglePause h).andThen fun b _ _ h' => Outcome.alike_done h' (Reply.flag b)
  | press key =>
    have hpress := undisturbed.keys h (c.core.keys.press key)
    rw [Console.obey, Console.obey, Console.press, Console.press, ← hkeys]
    exact Outcome.alike_done hpress _
  | release key =>
    have hrelease := undisturbed.keys h (c.core.keys.release key)
    rw [Console.obey, Console.obey, Console.release, Console.release, ← hkeys]
    exact Outcome.alike_done hrelease _
  | tick => exact absurd rfl htick
  | frame => exact absurd rfl hframe
  | consumeDraw => exact absurd rfl hconsume

/-- A difference between well-formed consoles is never seen if it is not seen in a tick, in taking a
request for a redraw, or in the switches. -/
theorem lockstep (undisturbed : Undisturbed R)
    (hfront : ∀ {c d : Console}, R c d → c.SameFront d)
    (htick : ∀ {c d : Console}, c.core.WellFormed → R c d → c.tick.Alike R d.tick)
    (htimer : ∀ {c d : Console}, R c d → R c.timerStep d.timerStep)
    (hsignal : ∀ {c d : Console}, R c d → R c.signalDraw d.signalDraw)
    (hconsume : ∀ {c d : Console}, R c d → c.drawNeeded = d.drawNeeded ∧
      R c.consumeDraw.1 d.consumeDraw.1) :
    Lockstep fun c d => c.core.WellFormed ∧ R c d where
  front h := hfront h.2
  tick := by
    rintro c d ⟨hc, h⟩
    have hstep := htick hc h
    exact ⟨⟨tick_wellFormed hc, hstep.state⟩, hstep.result, hstep.log⟩
  timerStep h := ⟨h.1.countDown, htimer h.2⟩
  signalDraw h := ⟨h.1, hsignal h.2⟩
  other := by
    rintro c d ⟨hc, h⟩ command hntick hnframe
    have hwf : (c.obey command).state.core.WellFormed := lasting_wellFormed.obey hc command
    have hobey : (c.obey command).Alike R (d.obey command) := by
      by_cases hnconsume : command = .consumeDraw
      · subst hnconsume
        obtain ⟨hneeded, hrest⟩ := hconsume h
        exact ⟨hrest, congrArg (fun needed => Except.ok (Reply.flag needed)) hneeded, rfl⟩
      · exact undisturbed.obey h hntick hnframe hnconsume
    exact ⟨⟨hwf, hobey.state⟩, hobey.result, hobey.log⟩

end Undisturbed

/-! ### Rows of commands -/

namespace Lockstep

theorem obey (lockstep : Lockstep R) (h : R c d) (command : Command) :
    (c.obey command).Alike R (d.obey command) := by
  by_cases htick : command = .tick
  · subst htick
    exact (lockstep.tick h).andThen fun _ _ _ h' => Outcome.alike_done h' Reply.nothing
  by_cases hframe : command = .frame
  · subst hframe
    exact (lockstep.frame h).andThen fun f _ _ h' => Outcome.alike_done h' (Reply.frame f)
  · exact lockstep.other h command htick hframe

/-- Rows of commands are answered the same, and leave consoles that differ in the same way. -/
theorem replies (lockstep : Lockstep R) (h : R c d) (commands : List Command) :
    c.replies commands = d.replies commands ∧ R (c.obeyAll commands) (d.obeyAll commands) := by
  induction commands generalizing c d with
  | nil => exact ⟨rfl, h⟩
  | cons command rest ih =>
    have hstep := lockstep.obey h command
    obtain ⟨hreplies, hrest⟩ := ih hstep.state
    refine ⟨?_, hrest⟩
    rw [Console.replies, Console.replies, hstep.result, hstep.log, hreplies]

end Lockstep
end Console
end Chip8
