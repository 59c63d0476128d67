/-
The tones of a buzzer.

A player is stopped when its tone is not needed any more, and another one is made for the next tone.
The end of a tone may be reported late, when its player has been stopped already.  If nothing sounds
then, the report makes no difference.  If another player has taken its place, the buzzer counts as
silent although this player goes on: with the next tone two players sound, and one of them belongs
to nobody.

* `Buzzer.Tidy` : what a buzzer should make of a cue;
* `Buzzer.settled_perform` : as long as no end is belated, the only player that sounds is the
  current one;
* `Buzzer.tidy_iff` : a buzzer is tidy exactly as long as no end is belated.
-/
import Chip8.Desktop.Buzzer
import Mathlib.Data.List.Induction

namespace Chip8

/-- The players that sound behind a request, if `sounding` are those that did before it. -/
def Request.audible (sounding : List Nat) : Request → List Nat
  | .play player => player :: sounding
  | .pause player | .delete player => sounding.filter (· ≠ player)
  | _ => sounding

/-- The players that were told to play and have been neither paused nor deleted since.  One that has
come to the end of its tone is deleted. -/
def audible (requests : List Request) : List Nat := requests.foldl Request.audible []

theorem audible_append (first second : List Request) :
    audible (first ++ second) = second.foldl Request.audible (audible first) :=
  List.foldl_append

namespace Buzzer

/-- What happens to a buzzer. -/
inductive Cue where
  | start
  | stop
  | set (tone : Bool)
  /-- A player reports the end of its tone, be it the current one or not. -/
  | ended (player : Nat)

/-- The buzzer behind a cue, and what it asks for. -/
def on (b : Buzzer) : Cue → Buzzer × List Request
  | .start => b.start
  | .stop => b.stop
  | .set tone => b.set tone
  | .ended player => b.ended player

/-- The buzzer behind a row of cues, and all that was asked for so far. -/
def perform (b : Buzzer) (cues : List Cue) : Buzzer × List Request :=
  cues.foldl (fun p cue => ((p.1.on cue).1, p.2 ++ (p.1.on cue).2)) (b, [])

theorem perform_concat (b : Buzzer) (cues : List Cue) (cue : Cue) : b.perform (cues ++ [cue]) =
    (((b.perform cues).1.on cue).1, (b.perform cues).2 ++ ((b.perform cues).1.on cue).2) :=
  List.foldl_append

/-! ### One player at a time -/

/-- What a buzzer should make of a cue, if `p` is the buzzer with all that it has asked for so
far. -/
structure Tidy (p : Buzzer × List Request) (cue : Cue) : Prop where
  /-- It counts as sounding exactly if it has a player. -/
  sounding : (p.1.on cue).1.sounding = true ↔ (p.1.on cue).1.player? ≠ none
  /-- The end of a tone makes no difference if it is not the one of the current player. -/
  late : ∀ player, cue = .ended player → p.1.player? ≠ some player →
    (p.1.on cue).1.sounding = p.1.sounding ∧ (p.1.on cue).1.player? = p.1.player?
  audible : (audible (p.2 ++ (p.1.on cue).2)).length ≤ 1

/-- The end of a tone is belated: its player is one that there has been, but another one sounds by
now. -/
structure Belated (b : Buzzer) (player : Nat) : Prop where
  player_pos : 0 < player
  player_le : player ≤ b.players
  sounding : b.sounding = true
  other : b.player? ≠ some player

/-- The buzzer counts as sounding exactly if it has a player, and no other player sounds. -/
structure Settled (p : Buzzer × List Request) : Prop where
  sounding : p.1.sounding = p.1.player?.isSome
  audible : audible p.2 = p.1.player?.toList

theorem settled_silent (frequency : Int) (duration : Binary64) :
    Settled (silent frequency duration, []) := ⟨rfl, rfl⟩

section Steps

variable {b : Buzzer} {asked : List Request}

theorem Settled.player?_of_not_sounding (h : Settled (b, asked)) (hsilent : b.sounding = false) :
    b.player? = none := by
  have hsounding := h.sounding
  rw [hsilent] at hsounding
  exact Option.isSome_eq_false_iff.mp hsounding.symm |> Option.isNone_iff_eq_none.mp

theorem Settled.start (h : Settled (b, asked)) : Settled (b.start.1, asked ++ b.start.2) := by
  rw [Buzzer.start]
  cases hsounding : b.sounding with
  | true =>
    rw [if_pos rfl, List.append_nil]
    exact h
  | false =>
    have haudible : Chip8.audible asked = [] := by
      rw [h.audible, h.player?_of_not_sounding hsounding]
      rfl
    refine ⟨rfl, ?_⟩
    show Chip8.audible (asked ++ [.queue _ _ _ _, .play _]) = _
    rw [audible_append, haudible]
    rfl

theorem Settled.stop (h : Settled (b, asked)) : Settled (b.stop.1, asked ++ b.stop.2) := by
  refine ⟨rfl, ?_⟩
  have haudible := h.audible
  show Chip8.audible (asked ++ b.stop.2) = []
  rw [audible_append, haudible, Buzzer.stop]
  cases b.player? with
  | none => rfl
  | some player => simp [Request.audible]

/-- The end of a tone that is neither the current one nor belated does nothing to the buzzer. -/
theorem ended_of_other {player : Nat} (hother : b.player? ≠ some player)
    (htimely : ¬ b.Belated player) : b.ended player = (b, []) ∨
      b.sounding = false ∧ b.ended player = (b, [.delete player]) := by
  by_cases hplayer : player = 0 ∨ b.players < player
  · exact .inl (if_pos hplayer)
  · have hsilent : b.sounding = false :=
      Bool.of_not_eq_true fun hsounding => htimely ⟨by omega, by omega, hsounding, hother⟩
    refine .inr ⟨hsilent, ?_⟩
    rw [Buzzer.ended, if_neg hplayer, if_neg hother, ← hsilent]

theorem Settled.ended (h : Settled (b, asked)) {player : Nat} (htimely : ¬ b.Belated player) :
    Settled ((b.ended player).1, asked ++ (b.ended player).2) := by
  have haudible := h.audible
  by_cases hcurrent : b.player? = some player
  · rw [Buzzer.ended]
    split
    · rw [List.append_nil]
      exact h
    · refine ⟨by simp, ?_⟩
      show Chip8.audible (asked ++ [.delete player]) = _
      rw [audible_append, haudible, hcurrent]
      simp [Request.audible]
  · rcases ended_of_other hcurrent htimely with hended | ⟨hsilent, hended⟩
    · rw [hended, List.append_nil]
      exact h
    · -- Nothing sounds, so there is nothing to delete either.
      rw [hended]
      refine ⟨h.sounding, ?_⟩
      show Chip8.audible (asked ++ [.delete player]) = _
      rw [audible_append, haudible, h.player?_of_not_sounding hsilent]
      rfl

theorem Settled.on (h : Settled (b, asked)) {cue : Cue}
    (htimely : ∀ player, cue = .ended player → ¬ b.Belated player) :
    Settled ((b.on cue).1, asked ++ (b.on cue).2) := by
  cases cue with
  | start => exact h.start
  | stop => exact h.stop
  | set tone =>
    cases tone with
    | false => exact h.stop
    | true => exact h.start
  | ended player => exact h.ended (htimely player rfl)

/-- A belated end silences the buzzer, and its player is still there. -/
theorem Belated.ended {player : Nat} (h : b.Belated player) :
    (b.ended player).1 = { b with sounding := false } := by
  have hplayer : ¬ (player = 0 ∨ b.players < player) := by
    have hpos := h.player_pos
    have hle := h.player_le
    omega
  rw [Buzzer.ended, if_neg hplayer, if_neg h.other]

/-- Whatever happens, a buzzer that counts as sounding has a player. -/
theorem player?_on (h : b.sounding = true → b.player? ≠ none) (cue : Cue)
    (hsounding : (b.on cue).1.sounding = true) : (b.on cue).1.player? ≠ none := by
  have hstart : b.start.1.sounding = true → b.start.1.player? ≠ none := by
    rw [Buzzer.start]
    split
    · exact h
    · simp
  cases cue with
  | start => exact hstart hsounding
  | stop => cases hsounding
  | set tone =>
    cases tone with
    | false => cases hsounding
    | true => exact hstart hsounding
  | ended player =>
    revert hsounding
    show (b.ended player).1.sounding = true → (b.ended player).1.player? ≠ none
    rw [Buzzer.ended]
    split
    · exact h
    · simp

end Steps

/-! ### Rows of cues -/

theorem player?_perform (frequency : Int) (duration : Binary64) (cues : List Cue)
    (hsounding : ((silent frequency duration).perform cues).1.sounding = true) :
    ((silent frequency duration).perform cues).1.player? ≠ none := by
  induction cues using List.reverseRecOn with
  | nil => cases hsounding
  | append_singleton cues cue ih =>
    rw [perform_concat] at hsounding ⊢
    exact player?_on ih cue hsounding

variable {frequency : Int} {duration : Binary64} {cues : List Cue}

/-- As long as no end is belated, the only player that sounds is the current one. -/
theorem settled_perform
    (htimely : ∀ earlier player later, cues = earlier ++ .ended player :: later →
      ¬ ((silent frequency duration).perform earlier).1.Belated player)
    (earlier : List Cue) {later : List Cue} (hcues : cues = earlier ++ later) :
    Settled ((silent frequency duration).perform earlier) := by
  induction earlier using List.reverseRecOn generalizing later with
  | nil => exact settled_silent frequency duration
  | append_singleton earlier cue ih =>
    rw [List.append_assoc] at hcues
    rw [perform_concat]
    refine (ih hcues).on fun player hcue => htimely earlier player later ?_
    rw [hcues, hcue]
    rfl

theorem tidy_of_settled {p : Buzzer × List Request} {cue : Cue}
    (hafter : Settled ((p.1.on cue).1, p.2 ++ (p.1.on cue).2))
    (htimely : ∀ player, cue = .ended player → ¬ p.1.Belated player) : Tidy p cue := by
  refine ⟨?_, fun player hcue hother => ?_, ?_⟩
  · rw [hafter.sounding]
    exact Option.isSome_iff_ne_none
  · subst hcue
    show (p.1.ended player).1.sounding = _ ∧ (p.1.ended player).1.player? = _
    rcases ended_of_other hother (htimely player rfl) with hended | ⟨-, hended⟩
    · rw [hended]
      exact ⟨rfl, rfl⟩
    · rw [hended]
      exact ⟨rfl, rfl⟩
  · rw [hafter.audible]
    cases (p.1.on cue).1.player? <;> simp

/-- **One player at a time**, as long as no end is belated.  A buzzer that counts as sounding has a
player in any case.  It is tidy at all cues of a row exactly if no end of a tone is reported while
another one sounds. -/
theorem tidy_iff (frequency : Int) (duration : Binary64) (cues : List Cue) :
    (((silent frequency duration).perform cues).1.sounding = true →
      ((silent frequency duration).perform cues).1.player? ≠ none) ∧
    ((∀ earlier cue later, cues = earlier ++ cue :: later →
        Tidy ((silent frequency duration).perform earlier) cue) ↔
      ∀ earlier player later, cues = earlier ++ .ended player :: later →
        ¬ ((silent frequency duration).perform earlier).1.Belated player) := by
  refine ⟨player?_perform frequency duration cues, fun htidy => ?_, fun htimely => ?_⟩
  · intro earlier player later hcues hbelated
    obtain ⟨hsilent, -⟩ := (htidy earlier _ later hcues).late player rfl hbelated.other
    have hended : (((silent frequency duration).perform earlier).1.on (.ended player)).1.sounding =
        false := congrArg sounding hbelated.ended
    rw [hsilent, hbelated.sounding] at hended
    cases hended
  · intro earlier cue later hcues
    have hbefore := settled_perform htimely earlier hcues
    have hcue : ∀ player, cue = .ended player →
        ¬ ((silent frequency duration).perform earlier).1.Belated player :=
      fun player h => htimely earlier player later (by rw [hcues, h])
    exact tidy_of_settled (hbefore.on hcue) hcue

/-- The first player reports its end when it has been stopped and the second one sounds.  From then
on the buzzer counts as silent, and when it is started again two players sound. -/
theorem not_tidy_belated :
    ¬ Tidy (standard.perform [.start, .stop, .start]) (.ended 1) ∧
      (standard.perform [.start, .stop, .start, .ended 1]).1.sounding = false ∧
      (standard.perform [.start, .stop, .start, .ended 1]).1.player? = some 2 ∧
      audible (standard.perform [.start, .stop, .start, .ended 1, .start]).2 = [3, 2] := by
  refine ⟨fun h => ?_, rfl, rfl, rfl⟩
  have hother : (standard.perform [.start, .stop, .start]).1.player? ≠ some 1 := by decide
  cases (h.late 1 rfl hother).1

end Buzzer
end Chip8
