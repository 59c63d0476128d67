/-
How a session ends.

A session whose console was given a program goes on whatever the window system reports, until a
frame faults.  That frame reports the fault and asks for the window to be closed, and no other event
ever does either: the session has ended then, and further frames do nothing at all.  Pausing and
restarting the console does not bring it back.

* `Console.Supplied`, `Console.frame_cases` : such a console fails in frames only, and with faults
  only;
* `Session.hasExit_handle`, `Session.handle_counts` : what each event has to do with the end;
* `Session.ends_once` : sessions with a program end once, if at all.
-/
import Chip8.Proofs.Console.Interruption
import Chip8.Proofs.Console.LifeCycle
import Chip8.Proofs.Console.Logging
import Chip8.Proofs.Desktop.Observers

namespace Chip8

namespace Console

/-- Consoles that were given a program at some time, whatever they were before and have done
since. -/
inductive Supplied : Console → Prop
  | load {c : Console} {bytes : List UInt8} (hload : (c.load bytes).result = .ok ()) :
      Supplied (c.load bytes).state
  | insert {c : Console} {cartridge : Cartridge} (hinsert : (c.insert cartridge).result = .ok ()) :
      Supplied (c.insert cartridge).state
  | obey {c : Console} (command : Command) (h : Supplied c) : Supplied (c.obey command).state

variable {c : Console}

/-- The program is there, and all registers are in range. -/
theorem Supplied.sound (h : c.Supplied) : c.core.WellFormed ∧ c.cartridge?.isSome = true := by
  induction h with
  | @load c bytes hload =>
    rcases c.load_cases bytes with ⟨e, h⟩ | ⟨cartridge, log, h⟩
    · rw [h] at hload
      cases hload
    · rw [h]
      exact ⟨lasting_wellFormed.booted _ cartridge, rfl⟩
  | @insert c cartridge hinsert =>
    rcases c.insert_cases cartridge with ⟨e, h⟩ | ⟨log, h⟩
    · rw [h] at hinsert
      cases hinsert
    · rw [h]
      exact ⟨lasting_wellFormed.booted _ cartridge, rfl⟩
  | obey command _ ih => exact ⟨lasting_wellFormed.obey ih.1 command, isSome_obey ih.2 command⟩

/-- A frame of a well-formed machine gives its signals or ends with a fault. -/
theorem frame_cases (h : c.core.WellFormed) :
    (∃ f, c.frame.result = .ok f) ∨ ∃ f, c.frame.result = .error (.fault f) := by
  by_cases hactive : c.Active
  · rcases ok_or_stopsAt c with hok | ⟨j, e, hstop⟩
    · exact .inl ⟨_, (frame_of_ok hactive hok).2⟩
    · obtain ⟨f, rfl, -⟩ := interrupted h hactive hstop
      exact .inr ⟨f, (frame_of_stopsAt hactive hstop).2⟩
  · rw [frame_of_not_active hactive]
    exact .inl ⟨_, rfl⟩

/-- A console that has its program can be reset and started. -/
theorem reset_start_result (hsome : c.cartridge?.isSome = true) :
    (c.reset.andThen fun _ c => c.start).result = .ok () := by
  obtain ⟨cartridge, hcartridge⟩ := Option.isSome_iff_exists.mp hsome
  rw [reset_start_of_some hcartridge]

theorem frameFaults_iff : c.frameFaults = true ↔ ∃ f, c.frame.result = .error (.fault f) := by
  rw [frameFaults]
  split
  · next f hf => exact ⟨fun _ => ⟨f, hf⟩, fun _ => rfl⟩
  · next hf =>
    refine ⟨fun h => absurd h Bool.false_ne_true, ?_⟩
    rintro ⟨f, h⟩
    exact absurd h (hf f)

/-- A frame gives its signals, faults, or fails in another way. -/
theorem frame_result_cases (c : Console) :
    (∃ f, c.frame.result = .ok f ∧ c.frameFaults = false) ∨
      (∃ f, c.frame.result = .error (.fault f) ∧ c.frameFaults = true) ∨
      ∃ e, c.frame.result = .error e ∧ c.frameFaults = false := by
  cases hfaults : c.frameFaults with
  | true =>
    obtain ⟨f, hf⟩ := frameFaults_iff.mp hfaults
    exact .inr (.inl ⟨f, hf, rfl⟩)
  | false =>
    cases c.frame.result with
    | ok f => exact .inl ⟨f, rfl, rfl⟩
    | error e => exact .inr (.inr ⟨e, rfl, rfl⟩)

end Console

/-! ### Counting -/

/-- How often the window is asked to be closed. -/
def closings (requests : List Request) : Nat :=
  requests.countP fun
    | .close => true
    | _ => false

theorem closings_append (first second : List Request) :
    closings (first ++ second) = closings first + closings second := List.countP_append

/-- How many lines report a fault. -/
def reports (lines : List String) : Nat := lines.countP isReport

theorem reports_append (first second : List String) :
    reports (first ++ second) = reports first + reports second := List.countP_append

theorem reports_singleton {line : String} (h : Strays line) : reports [line] = 0 := by
  rw [reports, List.countP_singleton, h.isReport]
  rfl

theorem closings_of_isForPlayer {requests : List Request}
    (h : ∀ r ∈ requests, r.isForPlayer = true) : closings requests = 0 := by
  refine List.countP_eq_zero.mpr fun r hr => ?_
  have hplayer := h r hr
  cases r with
  | close => cases hplayer
  | _ => exact Bool.false_ne_true

namespace Session

variable {s : Session}

/-- A fault ends the session at the event. -/
def endsAt (s : Session) : Event → Bool
  | .frameDue => !s.hasExit && s.console.frameFaults
  | _ => false

theorem endsAt_iff {event : Event} : s.endsAt event = true ↔
    event = .frameDue ∧ s.hasExit = false ∧ ∃ f, s.console.frame.result = .error (.fault f) := by
  rw [← Console.frameFaults_iff]
  cases event <;> simp [endsAt]

theorem endsAt_of_ne {event : Event} (hevent : event ≠ .frameDue) : s.endsAt event = false := by
  cases event with
  | frameDue => exact absurd rfl hevent
  | _ => rfl

/-- What a session prints in a row of events. -/
def told (s : Session) : List Event → List String
  | [] => []
  | event :: rest => (s.handle event).printed ++ (s.handle event).session.told rest

theorem reports_printed (s : Session) {log : Array String} (h : Plain log) :
    reports (s.printed log) = 0 := by
  rw [printed]
  split
  · refine List.countP_eq_zero.mpr fun line hline => ?_
    rw [h line (Array.mem_toList_iff.mp hline)]
    exact Bool.false_ne_true
  · rfl

/-- The frame that ends a session, in full. -/
theorem frameDue_of_fault (hexit : s.hasExit = false) {f : Fault}
    (hf : s.console.frame.result = .error (.fault f)) :
    s.frameDue = ⟨{ s with
        console := s.console.frame.state, buzzer := s.buzzer.stop.1, hasExit := true },
      s.buzzer.stop.2 ++ [.close],
      s.printed s.console.frame.log ++ ["Emulation error: " ++ f.message], .ok ()⟩ := by
  rw [frameDue, if_neg (Bool.eq_false_iff.mp hexit)]
  simp only [hf]

theorem frameDue_of_ok (hexit : s.hasExit = false) {f : Frame}
    (hf : s.console.frame.result = .ok f) :
    s.frameDue = ⟨{ s with
        console := s.console.frame.state
        buzzer := (s.buzzer.set (f.tone && !s.console.frame.state.paused)).1 },
      (s.buzzer.set (f.tone && !s.console.frame.state.paused)).2,
      s.printed s.console.frame.log, .ok ()⟩ := by
  rw [frameDue, if_neg (Bool.eq_false_iff.mp hexit)]
  simp only [hf]

/-- A frame that fails without a fault, as those of well-formed machines never do. -/
theorem frameDue_of_error (hexit : s.hasExit = false) {e : Error}
    (he : s.console.frame.result = .error e) (hfaults : s.console.frameFaults = false) :
    s.frameDue = ⟨{ s with console := s.console.frame.state }, [], s.printed s.console.frame.log,
      .error e⟩ := by
  have hfault : ∀ f, e ≠ .fault f := by
    intro f hf
    rw [Console.frameFaults, he, hf] at hfaults
    cases hfaults
  rw [frameDue, if_neg (Bool.eq_false_iff.mp hexit)]
  simp only [he]

theorem frameDue_of_hasExit (hexit : s.hasExit = true) : s.frameDue = s.ignore := if_pos hexit

/-! ### One event -/

/-- A session has ended behind an event if it had before, or if the event ends it. -/
theorem hasExit_handle (s : Session) (event : Event) :
    (s.handle event).session.hasExit = (s.hasExit || s.endsAt event) := by
  rw [handle_hasExit]
  cases event with
  | frameDue =>
    rw [endsAt]
    cases s.hasExit <;> rfl
  | _ => exact (Bool.or_false _).symm

/-- It ends at most once. -/
theorem toNat_hasExit_handle (s : Session) (event : Event) :
    (s.handle event).session.hasExit.toNat = s.hasExit.toNat + (s.endsAt event).toNat := by
  rw [hasExit_handle]
  cases hends : s.endsAt event with
  | false => rw [Bool.or_false, Bool.toNat_false, Nat.add_zero]
  | true =>
    obtain ⟨-, hexit, -⟩ := endsAt_iff.mp hends
    rw [hexit]
    rfl

/-- In a reaction the window is asked to be closed `n` times, and as many faults are reported. -/
structure Counts (r : Reaction) (n : Nat) : Prop where
  closings : closings r.requests = n
  reports : reports r.printed = n

theorem frameDue_counts (s : Session) : Counts s.frameDue (s.endsAt .frameDue).toNat := by
  cases hexit : s.hasExit with
  | true =>
    rw [frameDue_of_hasExit hexit, endsAt, hexit]
    exact ⟨rfl, rfl⟩
  | false =>
    have hlog := s.reports_printed s.console.frame_plain
    rw [endsAt, hexit]
    rcases s.console.frame_result_cases with
      ⟨f, hf, hfaults⟩ | ⟨f, hf, hfaults⟩ | ⟨e, he, hfaults⟩
    · rw [frameDue_of_ok hexit hf, hfaults]
      exact ⟨closings_of_isForPlayer (s.buzzer.isForPlayer_set _), hlog⟩
    · rw [frameDue_of_fault hexit hf, hfaults]
      refine ⟨?_, ?_⟩
      · rw [closings_append, closings_of_isForPlayer s.buzzer.isForPlayer_stop]
        rfl
      · rw [reports_append, hlog, Chip8.reports, List.countP_singleton, isReport_append]
        rfl
    · rw [frameDue_of_error hexit he hfaults, hfaults]
      exact ⟨rfl, hlog⟩

theorem togglePause_counts (s : Session) : Counts s.togglePause 0 := by
  refine ⟨?_, s.reports_printed s.console.togglePause_plain⟩
  show Chip8.closings (if s.console.togglePause.state.paused then s.buzzer.stop
    else (s.buzzer, [])).2 = 0
  split
  · exact closings_of_isForPlayer s.buzzer.isForPlayer_stop
  · rfl

theorem follow_counts (s : Session) {o : Outcome Console Unit} (h : Plain o.log) :
    Counts (s.follow o) 0 := ⟨rfl, s.reports_printed h⟩

theorem paint_counts (s : Session) : Counts s.paint 0 := by
  have hlabel : Chip8.closings s.label = 0 := by
    rw [label]
    split <;> rfl
  cases hneeded : s.console.drawNeeded with
  | true =>
    rw [s.paint_of_needed hneeded]
    refine ⟨?_, rfl⟩
    rw [closings_append, hlabel]
    rfl
  | false =>
    rw [s.paint_of_not_needed hneeded]
    refine ⟨?_, rfl⟩
    rw [closings_append, hlabel]
    rfl

theorem close_counts (s : Session) : Counts s.close 0 := by
  refine ⟨?_, ?_⟩
  · show Chip8.closings ([.unschedule] ++ s.buzzer.stop.2 ++ [.defaultClose]) = 0
    rw [closings_append, closings_append, closings_of_isForPlayer s.buzzer.isForPlayer_stop]
    rfl
  · exact s.reports_printed (plain_singleton (.of_toList fun _ => rfl))

/-- Only the fault that ends a session is reported, and only then is the window closed. -/
theorem handle_counts (s : Session) (event : Event) :
    Counts (s.handle event) (s.endsAt event).toNat := by
  cases event with
  | keyDown key =>
    cases key with
    | escape => exact s.togglePause_counts
    | f1 =>
      have hline : Strays ("logs_on: " ++ Console.truthText (!s.logsOn)) :=
        .append (.of_toList fun _ => rfl) _
      exact ⟨rfl, reports_singleton hline⟩
    | f5 =>
      show Counts s.restart 0
      rw [restart]
      split
      · refine s.follow_counts (Outcome.plain_andThen s.console.reset_plain fun _ c => ?_)
        exact c.start_plain
      · exact ⟨rfl, rfl⟩
    | _ => exact ⟨rfl, rfl⟩
  | keyUp key => cases key <;> exact ⟨rfl, rfl⟩
  | frameDue => exact s.frameDue_counts
  | paint => exact s.paint_counts
  | toneEnded player => exact ⟨closings_of_isForPlayer (s.buzzer.isForPlayer_ended player), rfl⟩
  | close => exact s.close_counts
  | command command =>
    exact s.follow_counts (Outcome.plain_andThen (s.console.obey_plain command) fun _ _ =>
      plain_empty)

/-- Nothing that the window system reports makes a session with a program fail. -/
theorem handle_result (h : s.console.Supplied) {event : Event}
    (hevent : ∀ command, event ≠ .command command) : (s.handle event).result = .ok () := by
  obtain ⟨hwellFormed, hsome⟩ := h.sound
  cases event with
  | keyDown key =>
    cases key with
    | f5 =>
      show s.restart.result = .ok ()
      rw [restart]
      split
      · exact Console.reset_start_result hsome
      · rfl
    | _ => rfl
  | keyUp key => cases key <;> rfl
  | frameDue =>
    show s.frameDue.result = .ok ()
    cases hexit : s.hasExit with
    | true =>
      rw [frameDue_of_hasExit hexit]
      rfl
    | false =>
      rcases Console.frame_cases hwellFormed with ⟨f, hf⟩ | ⟨f, hf⟩
      · rw [frameDue_of_ok hexit hf]
      · rw [frameDue_of_fault hexit hf]
  | command command => exact absurd rfl (hevent command)
  | paint | toneEnded player | close => rfl

/-- What a session with a program makes of its next event. -/
structure Steady (s : Session) : Prop where
  result : ∀ event, (∀ command, event ≠ .command command) → (s.handle event).result = .ok ()
  /-- A frame that faults ends the session: the fault is reported and the window is closed. -/
  fault : ∀ f, s.hasExit = false → s.console.frame.result = .error (.fault f) →
    (s.handle .frameDue).session.hasExit = true ∧
      closings (s.handle .frameDue).requests = 1 ∧ reports (s.handle .frameDue).printed = 1 ∧
      (s.handle .frameDue).printed.getLast? = some ("Emulation error: " ++ f.message)
  /-- Nothing else does any of this. -/
  others : ∀ event, ¬ (event = .frameDue ∧ s.hasExit = false ∧
      ∃ f, s.console.frame.result = .error (.fault f)) →
    (s.handle event).session.hasExit = s.hasExit ∧
      closings (s.handle event).requests = 0 ∧ reports (s.handle event).printed = 0
  /-- Once it has ended it stays so, and no frame does anything. -/
  ended : s.hasExit = true →
    (∀ event, (s.handle event).session.hasExit = true) ∧ s.handle .frameDue = s.ignore

theorem steady (h : s.console.Supplied) : s.Steady where
  result _ := handle_result h
  fault f hexit hf := by
    have hends : s.endsAt .frameDue = true := endsAt_iff.mpr ⟨rfl, hexit, f, hf⟩
    have hcounts := s.handle_counts .frameDue
    rw [hends] at hcounts
    refine ⟨?_, hcounts.closings, hcounts.reports, ?_⟩
    · rw [handle, frameDue_of_fault hexit hf]
    · rw [handle, frameDue_of_fault hexit hf]
      exact List.getLast?_concat
  others event hevent := by
    have hends : s.endsAt event = false := by
      rw [← endsAt_iff, Bool.not_eq_true] at hevent
      exact hevent
    have hcounts := s.handle_counts event
    rw [hends] at hcounts
    exact ⟨by rw [hasExit_handle, hends, Bool.or_false], hcounts.closings, hcounts.reports⟩
  ended hexit := by
    refine ⟨fun event => ?_, frameDue_of_hasExit hexit⟩
    rw [hasExit_handle, hexit, Bool.true_or]

/-! ### Rows of events -/

theorem handleAll_supplied (h : s.console.Supplied) (events : List Event) :
    (s.handleAll events).console.Supplied :=
  handleAll_keep s (fun command h => h.obey command) h events

/-- A row of events closes the window and reports a fault as often as it ends the session. -/
theorem closings_asked (s : Session) (events : List Event) :
    s.hasExit.toNat + closings (s.asked events) = (s.handleAll events).hasExit.toNat ∧
      s.hasExit.toNat + reports (s.told events) = (s.handleAll events).hasExit.toNat := by
  induction events generalizing s with
  | nil => exact ⟨rfl, rfl⟩
  | cons event rest ih =>
    -- The session of the rest of the row counts as ended if the first event has ended it.
    have hcounts := s.handle_counts event
    obtain ⟨hclosings, hreports⟩ := ih (s.handle event).session
    rw [toNat_hasExit_handle] at hclosings hreports
    rw [asked, told, closings_append, reports_append, hcounts.closings, hcounts.reports,
      ← Nat.add_assoc, ← Nat.add_assoc]
    exact ⟨hclosings, hreports⟩

/-- **A fault ends a session once.**  Whatever events a session on a console with a program gets, no
report of the window system makes it fail.  If a frame faults, that is reported and the window is
closed, and neither happens again, nor in any other way; further frames do nothing. -/
theorem ends_once (h : s.console.Supplied) (events : List Event) :
    (s.handleAll events).Steady ∧
      closings (s.asked events) ≤ 1 ∧ reports (s.told events) ≤ 1 ∧
      (s.hasExit = false → closings (s.asked events) = (s.handleAll events).hasExit.toNat ∧
        reports (s.told events) = (s.handleAll events).hasExit.toNat) := by
  obtain ⟨hclosings, hreports⟩ := s.closings_asked events
  have hle := Bool.toNat_le (s.handleAll events).hasExit
  refine ⟨steady (handleAll_supplied h events), by omega, by omega, fun hexit => ?_⟩
  rw [hexit] at hclosings hreports
  simp only [Bool.toNat_false, Nat.zero_add] at hclosings hreports
  exact ⟨hclosings, hreports⟩

/-- A session with a program that returns from nowhere, at one tick a frame. -/
def returning : Session :=
  .new ((Console.new 1 false (.cycle #[])).load [0x00, 0xEE]).state.start.state 1 false

/-- The first frame ends it.  The console can be paused and restarted, and it runs then, but there
are no frames any more. -/
theorem ends_once_returning :
    returning.console.Supplied ∧
      closings (returning.asked [.frameDue, .keyDown .escape, .keyDown .f5]) = 1 ∧
      reports (returning.told [.frameDue, .keyDown .escape, .keyDown .f5]) = 1 ∧
      (returning.handleAll [.frameDue, .keyDown .escape, .keyDown .f5]).console.running = true ∧
      (returning.handleAll [.frameDue, .keyDown .escape, .keyDown .f5]).handle .frameDue =
        (returning.handleAll [.frameDue, .keyDown .escape, .keyDown .f5]).ignore := by
  have hload : ((Console.new 1 false (.cycle #[])).load [0x00, 0xEE]).result = .ok () := rfl
  have h : returning.console.Supplied := by
    have hstart := (Console.Supplied.load hload).obey .start
    rwa [Console.obey_state] at hstart
  have hended :
      (returning.handleAll [.frameDue, .keyDown .escape, .keyDown .f5]).hasExit = true ∧
      (returning.handleAll [.frameDue, .keyDown .escape, .keyDown .f5]).console.running = true := by
    decide +kernel
  obtain ⟨hsteady, -, -, hcount⟩ := ends_once h [.frameDue, .keyDown .escape, .keyDown .f5]
  obtain ⟨hclosings, hreports⟩ := hcount rfl
  rw [hended.1] at hclosings hreports
  exact ⟨h, hclosings, hreports, hended.2, (hsteady.ended hended.1).2⟩

end Session
end Chip8
