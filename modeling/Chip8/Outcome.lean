/-
Outcomes: what a call on a changing thing leaves behind.

A call gives a new state, an answer or an error, and the lines it logs.  A call that fails has a
new state too.

* `Outcome.andThen_done`, `Outcome.andThen_assoc` : calls follow one another as steps of one call.
-/
import Chip8.Fault

namespace Chip8

structure Outcome (σ α : Type) where
  state : σ
  result : Except Error α
  log : Array String

namespace Outcome

/-- A call that succeeds and logs nothing. -/
def done (state : σ) (answer : α) : Outcome σ α := ⟨state, .ok answer, #[]⟩

/-- A call that fails and logs nothing. -/
def failed (state : σ) (e : Error) : Outcome σ α := ⟨state, .error e, #[]⟩

/-- A call that succeeds if a check does, and changes nothing if it does not. -/
def guarded (before : σ) (check : Except Error Unit) (after : σ) : Outcome σ Unit :=
  match check with
  | .ok () => done after ()
  | .error e => failed before e

/-- Go on after a success; an error ends the call. -/
def andThen (o : Outcome σ α) (next : α → σ → Outcome σ β) : Outcome σ β :=
  match o.result with
  | .ok a =>
    let after := next a o.state
    ⟨after.state, after.result, o.log ++ after.log⟩
  | .error e => ⟨o.state, .error e, o.log⟩

/-- Log one more line at the end of a success. -/
def thenLog (o : Outcome σ α) (line : String) : Outcome σ α :=
  o.andThen fun a s => ⟨s, .ok a, #[line]⟩

/-- The outcome of a call on a part, for the whole that `put` puts the part into. -/
def within (o : Outcome σ α) (put : σ → τ) : Outcome τ α := ⟨put o.state, o.result, o.log⟩

theorem done_andThen (s : σ) (a : α) (next : α → σ → Outcome σ β) :
    (done s a).andThen next = next a s := by
  simp [done, andThen]

theorem andThen_done (o : Outcome σ α) : (o.andThen fun a s => done s a) = o := by
  obtain ⟨s, r, log⟩ := o
  cases r <;> simp [andThen, done]

theorem andThen_assoc (o : Outcome σ α) (f : α → σ → Outcome σ β) (g : β → σ → Outcome σ γ) :
    (o.andThen f).andThen g = o.andThen fun a s => (f a s).andThen g := by
  obtain ⟨s, r, log⟩ := o
  cases r with
  | error e => rfl
  | ok a =>
    simp only [andThen]
    cases (f a s).result <;> simp [Array.append_assoc]

end Outcome
end Chip8
