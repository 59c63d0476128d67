/-
Keys of the keyboard.

Sixteen keys of the keyboard stand for the keys of the keypad, one for each.  Pressing or releasing
one of them changes its own key, paused or not, and no other.  A restart from pause lifts all keys.
Nothing else that a window system reports changes any: not the other keys, not a pause, and not a
frame, even if it ends with a fault.

* `handle_keys_of_pad`, `handle_keys_of_restart`, `handle_keys_of_other` : what one event does to
  the keys;
* `down_handle` : the same, for one key;
* `down_handleAll` : where nothing restarts, the last event on a key decides;
* `down_iff_pressed_last` : so a key is down exactly if it was pressed last, since the last
  restart.
-/
import Chip8.Proofs.Console.Steering
import Chip8.Proofs.Desktop.Observers
import Chip8.Proofs.Desktop.Restarting
import Chip8.Proofs.Desktop.Sounding

namespace Chip8

namespace Keys

theorem down_allUp (k : Int) : allUp.down k = false := by
  rw [down, allUp, Vector.getElem?_replicate]
  split <;> simp

/-- Pressing and releasing one of the sixteen keys. -/
theorem down_set_of_lt (keys : Keys) {key : Nat} (hkey : key < 16) (other : Int) (down : Bool) :
    (keys.set key down).down other = if other = key then down else keys.down other := by
  rw [down_set]
  by_cases h : other = key
  · rw [if_pos (by omega), if_pos h]
  · rw [if_neg (by omega), if_neg h]

end Keys

/-- The event is about a key of the keyboard, which goes down or up. -/
def Event.isOn (key : Key) : Event → Bool
  | .keyDown other | .keyUp other => other = key
  | _ => false

theorem Event.isOn_iff {key : Key} {event : Event} :
    event.isOn key = true ↔ event = .keyDown key ∨ event = .keyUp key := by
  cases event <;> simp [isOn]

namespace Session

variable {s : Session} {event : Event}

/-- The event makes the console start over: the restart key goes down during a pause. -/
def Restarts (s : Session) (event : Event) : Prop :=
  event = .keyDown .f5 ∧ s.console.paused = true

/-! ### One event -/

/-- The keys that stand for keys of the keypad press and release them, whether the console is paused
or not. -/
theorem handle_keys_of_pad (s : Session) {key : Key} {k : Nat} (h : key.pad? = some k) :
    (s.handle (.keyDown key)).session.console.core.keys = s.console.core.keys.press k ∧
      (s.handle (.keyUp key)).session.console.core.keys = s.console.core.keys.release k := by
  have hdown : s.commands (.keyDown key) = [.press k] := by
    cases key <;> simp_all [Key.pad?, commands]
  have hup : s.commands (.keyUp key) = [.release k] := by
    rw [commands, h]
    rfl
  constructor
  · rw [handle_console, hdown]
    rfl
  · rw [handle_console, hup]
    rfl

/-- A restart lifts all keys, even if it fails. -/
theorem handle_keys_of_restart (h : s.Restarts event) :
    (s.handle event).session.console.core.keys = .allUp := by
  obtain ⟨rfl, hpaused⟩ := h
  rw [handle_f5 hpaused]
  cases hc : s.console.cartridge? with
  | some cartridge =>
    rw [Console.reset_start_of_some hc]
    rfl
  | none =>
    rw [Console.reset_start_of_none hc, Console.reset_of_none hc]
    rfl

/-- A command that has nothing to do with keys, or with starting over. -/
theorem obey_keys {c : Console} {command : Command}
    (h : command = .togglePause ∨ command = .consumeDraw ∨ command = .stop ∨ command = .frame) :
    (c.obey command).state.core.keys = c.core.keys := by
  rw [Console.obey_state]
  rcases h with rfl | rfl | rfl | rfl
  · rfl
  · rfl
  · rfl
  · exact c.frame_keys

/-- No other event of a window system changes a key. -/
theorem handle_keys_of_other (hevent : event.FromWindow) (hrestart : ¬ s.Restarts event)
    (hpad : ∀ key, event.isOn key = true → key.pad? = none) :
    (s.handle event).session.console.core.keys = s.console.core.keys := by
  -- All commands that it comes down to have nothing to do with keys.
  have hcommands : ∀ command ∈ s.commands event,
      command = .togglePause ∨ command = .consumeDraw ∨ command = .stop ∨ command = .frame := by
    intro command hmem
    cases event with
    | keyDown key =>
      have hkey := hpad key (by simp [Event.isOn])
      cases key <;> simp_all [Key.pad?, commands, Restarts]
    | keyUp key =>
      rw [commands, hpad key (by simp [Event.isOn])] at hmem
      cases hmem
    | frameDue =>
      rw [commands] at hmem
      split at hmem <;> simp_all
    | paint | toneEnded _ | close => simp_all [commands]
    | command given => exact absurd rfl (hevent given)
  rw [handle_console]
  refine Console.obeyAll_keep_of (P := fun c => c.core.keys = s.console.core.keys) ?_ rfl
  intro c command hmem h
  rw [obey_keys (hcommands command hmem), h]

/-- Whether a key of the keypad is down after an event is up to the one key that stands for it,
unless all keys are lifted. -/
theorem down_handle (hevent : event.FromWindow) (hrestart : ¬ s.Restarts event) {key : Key}
    {k : Nat} (hkey : key.pad? = some k) :
    (s.handle event).session.console.core.keys.down k = true ↔
      event = .keyDown key ∨ event.isOn key = false ∧ s.console.core.keys.down k = true := by
  by_cases hpad : ∃ other j, event.isOn other = true ∧ other.pad? = some j
  · obtain ⟨other, j, hon, hother⟩ := hpad
    obtain ⟨hdown, hup⟩ := s.handle_keys_of_pad hother
    have hsame : other = key ↔ j = k := by
      constructor
      · rintro rfl
        exact Option.some_inj.mp (hother.symm.trans hkey)
      · rintro rfl
        exact Key.pad?_inj hother hkey
    have hset := fun down => s.console.core.keys.down_set_of_lt (Key.lt_of_pad? hother) k down
    rcases Event.isOn_iff.mp hon with rfl | rfl
    · rw [hdown, Keys.press, hset]
      by_cases hj : j = k
      · simp [Event.isOn, hsame.mpr hj, hj]
      · have hne : (k : Int) ≠ j := by omega
        simp [Event.isOn, hsame, hj, hne]
    · rw [hup, Keys.release, hset]
      by_cases hj : j = k
      · simp [Event.isOn, hsame.mpr hj, hj]
      · have hne : (k : Int) ≠ j := by omega
        simp [Event.isOn, hsame, hj, hne]
  · -- The event is on none of the sixteen keys.
    have hnone : ∀ other, event.isOn other = true → other.pad? = none := by
      intro other hon
      cases hother : other.pad? with
      | none => rfl
      | some j => exact absurd ⟨other, j, hon, hother⟩ hpad
    have hoff : event.isOn key = false := by
      rw [Bool.eq_false_iff]
      intro hon
      rw [hnone key hon] at hkey
      cases hkey
    have hne : event ≠ .keyDown key := by
      rintro rfl
      simp [Event.isOn] at hoff
    rw [handle_keys_of_other hevent hrestart hnone]
    simp [hoff, hne]

/-! ### Rows of events -/

/-- None of the events makes the console start over. -/
def NoRestart : Session → List Event → Prop
  | _, [] => True
  | s, event :: rest => ¬ s.Restarts event ∧ (s.handle event).session.NoRestart rest

/-- The last restart is where the earlier events end, if there has been one at all. -/
structure SinceRestart (s : Session) (earlier later : List Event) : Prop where
  ends : earlier = [] ∨
    ∃ before, earlier = before ++ [.keyDown .f5] ∧ (s.handleAll before).console.paused = true
  noRestart : (s.handleAll earlier).NoRestart later

/-- Either nothing starts over, or there is a last restart. -/
theorem exists_sinceRestart (s : Session) (events : List Event) :
    ∃ earlier later, events = earlier ++ later ∧ s.SinceRestart earlier later := by
  induction events generalizing s with
  | nil => exact ⟨[], [], rfl, .inl rfl, trivial⟩
  | cons event rest ih =>
    obtain ⟨earlier, later, rfl, hends, hlater⟩ := ih (s.handle event).session
    rcases hends with rfl | ⟨before, rfl, hpaused⟩
    · by_cases hrestart : s.Restarts event
      · obtain ⟨rfl, hpaused⟩ := hrestart
        exact ⟨[.keyDown .f5], later, rfl, .inr ⟨[], rfl, hpaused⟩, hlater⟩
      · exact ⟨[], event :: later, rfl, .inl rfl, hrestart, hlater⟩
    · refine ⟨event :: before ++ [Event.keyDown .f5], later, rfl, ?_⟩
      exact ⟨.inr ⟨event :: before, rfl, hpaused⟩, hlater⟩

/-- Right behind the last restart all keys are up, and so they are at first. -/
theorem SinceRestart.up {earlier later : List Event} (h : s.SinceRestart earlier later)
    (hup : ∀ k, s.console.core.keys.down k = false) (k : Int) :
    (s.handleAll earlier).console.core.keys.down k = false := by
  rcases h.ends with rfl | ⟨before, rfl, hpaused⟩
  · exact hup k
  · have hrestart : (s.handleAll before).Restarts (.keyDown .f5) := ⟨rfl, hpaused⟩
    rw [handleAll_append]
    show ((s.handleAll before).handle (.keyDown .f5)).session.console.core.keys.down k = false
    rw [handle_keys_of_restart hrestart, Keys.down_allUp]

/-- Where nothing restarts, the last event on a key decides; with no event on it, it stays. -/
theorem down_handleAll {later : List Event} (hevents : ∀ event ∈ later, event.FromWindow)
    (hlater : s.NoRestart later) {key : Key} {k : Nat} (hkey : key.pad? = some k) :
    (s.handleAll later).console.core.keys.down k = true ↔
      (later.filter (·.isOn key)).getLast? = some (.keyDown key) ∨
      later.filter (·.isOn key) = [] ∧ s.console.core.keys.down k = true := by
  induction later generalizing s with
  | nil => simp [handleAll]
  | cons event rest ih =>
    obtain ⟨hrestart, hrest⟩ := hlater
    obtain ⟨hevent, hevents⟩ := List.forall_mem_cons.mp hevents
    have hstep := down_handle hevent hrestart hkey
    show ((s.handle event).session.handleAll rest).console.core.keys.down k = true ↔ _
    rw [ih hevents hrest, hstep]
    cases hon : event.isOn key with
    | false =>
      have hne : event ≠ .keyDown key := by
        rintro rfl
        simp [Event.isOn] at hon
      rw [List.filter_cons_of_neg (by simp [hon])]
      simp [hne]
    | true =>
      rw [List.filter_cons_of_pos hon]
      -- A later event on the key takes the place of this one.
      cases rest.filter (·.isOn key) with
      | nil => simp
      | cons next others => simp [List.getLast?_cons_cons]

/-- **A key is down exactly if it was pressed last.**  Take a session with all keys up, as they are
when it has just been opened on a new console, and any events that the window system reports.  Up to
the last restart from pause nothing counts.  A number is the number of a key that is down exactly if
it is one of 0 to 15, and of the events since then on the one key of the keyboard that stands for it
there is a last one and it is a press.  Of further events, each press and each release of a key that
stands for one of the keypad, paused or not, changes that one and no other, and all that is no
restart changes none. -/
theorem down_iff_pressed_last (hup : ∀ k, s.console.core.keys.down k = false) {events : List Event}
    (hevents : ∀ event ∈ events, event.FromWindow) :
    let t := s.handleAll events
    (∀ k < 16, ∃ key : Key, ∀ other : Key, other.pad? = some k ↔ other = key) ∧
    (∃ earlier later, events = earlier ++ later ∧ s.SinceRestart earlier later) ∧
    (∀ earlier later, events = earlier ++ later → s.SinceRestart earlier later → ∀ k : Int,
      (t.console.core.keys.down k = true ↔ (0 ≤ k ∧ k ≤ 15) ∧ ∃ key : Key, key.pad? = some k.toNat ∧
        (later.filter (·.isOn key)).getLast? = some (.keyDown key))) ∧
    (∀ (key : Key) (k : Nat), key.pad? = some k → ∀ other : Int,
      (t.handle (.keyDown key)).session.console.core.keys.down other =
        (if other = k then true else t.console.core.keys.down other) ∧
      (t.handle (.keyUp key)).session.console.core.keys.down other =
        (if other = k then false else t.console.core.keys.down other)) ∧
    (∀ event : Event, event.FromWindow → ¬ t.Restarts event →
      (∀ key, event.isOn key = true → key.pad? = none) →
      (t.handle event).session.console.core.keys = t.console.core.keys) := by
  intro t
  refine ⟨?_, s.exists_sinceRestart events, ?_, ?_, ?_⟩
  · intro k hk
    obtain ⟨key, -, hkey⟩ := Key.exists_pad? hk
    refine ⟨key, fun other => ⟨fun hother => Key.pad?_inj hother hkey, ?_⟩⟩
    rintro rfl
    exact hkey
  · rintro earlier later rfl hsince k
    have hlater : ∀ event ∈ later, event.FromWindow :=
      fun event hmem => hevents event (List.mem_append_right _ hmem)
    have hend : ∀ {key : Key} {j : Nat}, key.pad? = some j →
        (t.console.core.keys.down j = true ↔
          (later.filter (·.isOn key)).getLast? = some (.keyDown key)) := by
      intro key j hkey
      show (s.handleAll (earlier ++ later)).console.core.keys.down j = true ↔ _
      rw [handleAll_append, down_handleAll hlater hsince.noRestart hkey, hsince.up hup]
      simp
    constructor
    · intro hdown
      have hlow : 0 ≤ k := by
        rw [Keys.down, Bool.and_eq_true, decide_eq_true_iff] at hdown
        exact hdown.1
      have hhigh : k < 16 := Keys.lt_of_down hdown
      obtain ⟨key, -, hkey⟩ := Key.exists_pad? (k := k.toNat) (by omega)
      rw [← Int.toNat_of_nonneg hlow] at hdown
      exact ⟨by omega, key, hkey, (hend hkey).mp hdown⟩
    · rintro ⟨⟨hlow, -⟩, key, hkey, hlast⟩
      rw [← Int.toNat_of_nonneg hlow]
      exact (hend hkey).mpr hlast
  · intro key k hkey other
    have hset := t.console.core.keys.down_set_of_lt (Key.lt_of_pad? hkey) other
    obtain ⟨hdown, hup⟩ := t.handle_keys_of_pad hkey
    rw [hdown, hup]
    exact ⟨hset true, hset false⟩
  · intro event hevent hrestart hnone
    exact handle_keys_of_other hevent hrestart hnone

/-- With one key down it is paused, gets another key, is restarted, and gets a third one. -/
def retyped : List Event :=
  [.keyDown .q, .frameDue, .keyDown .escape, .keyDown .w] ++ [.keyDown .f5] ++
    [.keyDown .e, .keyDown .f5, .frameDue, .keyUp .q]

/-- Behind the restart, only the key that was pressed since then is down; the second time the
console is not paused, so that nothing restarts. -/
theorem down_iff_pressed_last_retyped :
    (∀ k, jumping.console.core.keys.down k = false) ∧ (∀ event ∈ retyped, event.FromWindow) ∧
      (jumping.handleAll retyped).console.core.keys.down 6 = true ∧
      (jumping.handleAll retyped).console.core.keys.down 5 = false ∧
      (jumping.handleAll retyped).console.core.keys.down 22 = false := by
  have hup : ∀ k, jumping.console.core.keys.down k = false := Keys.down_allUp
  have hevents : ∀ event ∈ retyped, event.FromWindow := by
    simp [retyped, Event.FromWindow]
  have hpause : ∀ s : Session, s.console.paused = false →
      (s.handleAll [.keyDown .q, .frameDue, .keyDown .escape, .keyDown .w]).console.paused =
        true := by
    intro s h
    simp [handleAll, handle_paused, h]
  have hgoesOn : ∀ s : Session,
      ((s.handleAll [.keyDown .f5]).handle (.keyDown .e)).session.console.paused = false := by
    intro s
    simp [handleAll, handle_paused]
  have hsince : jumping.SinceRestart
      ([.keyDown .q, .frameDue, .keyDown .escape, .keyDown .w] ++ [.keyDown .f5])
      [.keyDown .e, .keyDown .f5, .frameDue, .keyUp .q] := by
    refine ⟨.inr ⟨_, rfl, ?_⟩, ?_, ?_, ?_, ?_, trivial⟩
    · exact hpause jumping rfl
    · rintro ⟨h, -⟩
      cases h
    · rintro ⟨-, h⟩
      rw [handleAll_append, hgoesOn] at h
      cases h
    · rintro ⟨h, -⟩
      cases h
    · rintro ⟨h, -⟩
      cases h
  obtain ⟨-, -, hdown, -⟩ := down_iff_pressed_last hup hevents
  have hiff := hdown _ _ rfl hsince
  refine ⟨hup, hevents, (hiff 6).mpr ⟨by decide, .e, rfl, rfl⟩, ?_, ?_⟩
  · rw [← Bool.not_eq_true, hiff 5]
    rintro ⟨-, key, hkey, hlast⟩
    obtain rfl : key = .w := Key.pad?_inj hkey rfl
    cases hlast
  · rw [← Bool.not_eq_true, hiff 22]
    rintro ⟨⟨-, hhigh⟩, -⟩
    exact absurd hhigh (by decide)

end Session
end Chip8
