/-
What a console logs.

A session prints what its console logs, and one line of its own when a fault ends it.  No line that
a console logs begins like that line, whatever program runs: the numbers and names in a logged line
come behind words that tell what it is about.

* `Instr.trace_strays` : the lines of instructions;
* `Console.frame_plain`, `Console.obey_plain` : all that is logged by frames, and by commands.
-/
import Chip8.Proofs.Console.Boot

namespace Chip8

/-- The line begins like the report of the fault that ends a session. -/
def isReport (line : String) : Bool := "Emulation error:".toList.isPrefixOf line.toList

theorem isReport_append (message : String) : isReport ("Emulation error: " ++ message) = true := by
  rw [isReport, String.toList_append]
  rfl

/-- A line that is no report, and that is none either when something is put behind it. -/
def Strays (line : String) : Prop := ∀ rest, isReport (line ++ rest) = false

namespace Strays

variable {line : String}

theorem of_toList (h : ∀ rest, "Emulation error:".toList.isPrefixOf (line.toList ++ rest) = false) :
    Strays line := by
  intro rest
  rw [isReport, String.toList_append]
  exact h rest.toList

theorem append (h : Strays line) (rest : String) : Strays (line ++ rest) := by
  intro rest'
  rw [String.append_assoc]
  exact h (rest ++ rest')

theorem isReport (h : Strays line) : isReport line = false := by
  have hline := h ""
  rwa [String.append_empty] at hline

end Strays

/-- The line of an instruction begins with the name of what it did. -/
theorem Instr.trace_strays {before after : Core} {i : Instr} {line : String}
    (h : i.trace before after = some line) : Strays line := by
  have hskip : ∀ left relation right, Strays (skipLine left relation right) := by
    intro left relation right
    unfold skipLine
    simp only [String.append_assoc]
    exact .append (.of_toList fun _ => rfl) _
  cases i with
  | skipEqByte x kk | skipEq x y =>
    obtain ⟨-, hline⟩ := Option.ite_none_right_eq_some.mp h
    obtain rfl := Option.some_inj.mp hline
    exact hskip _ _ _
  | skipNeByte x kk | skipNe x y =>
    obtain ⟨-, hline⟩ := Option.ite_none_left_eq_some.mp h
    obtain rfl := Option.some_inj.mp hline
    exact hskip _ _ _
  | awaitKey x =>
    obtain ⟨key, -, rfl⟩ := Option.map_eq_some_iff.mp h
    simp only [String.append_assoc]
    exact .append (.of_toList fun _ => rfl) _
  | clear | sys a =>
    obtain rfl := Option.some_inj.mp h
    exact .of_toList fun _ => rfl
  | ret | jump a | call a | loadByte x kk | addByte x kk | add x y | sub x y | subFrom x y
  | loadIndex a | jumpOffset a | random x kk | draw x y n | unknown w =>
    simp only [trace, String.append_assoc, Option.some_inj] at h
    subst h
    exact .append (.of_toList fun _ => rfl) _
  | _ => cases h

/-! ### Logs -/

/-- There is no report among the lines. -/
def Plain (log : Array String) : Prop := ∀ line ∈ log, isReport line = false

theorem plain_empty : Plain #[] := by
  intro line hline
  cases Array.not_mem_empty line hline

theorem plain_singleton {line : String} (h : Strays line) : Plain #[line] := by
  intro line' hline
  rw [Array.mem_singleton.mp hline]
  exact h.isReport

theorem Plain.append {first second : Array String} (h : Plain first) (h' : Plain second) :
    Plain (first ++ second) := by
  intro line hline
  rcases Array.mem_append.mp hline with hfirst | hsecond
  · exact h line hfirst
  · exact h' line hsecond

theorem Outcome.plain_andThen {σ α β : Type} {o : Outcome σ α} {next : α → σ → Outcome σ β}
    (h : Plain o.log) (hnext : ∀ a s, Plain (next a s).log) : Plain (o.andThen next).log := by
  rw [andThen]
  cases o.result with
  | error e => exact h
  | ok a => exact h.append (hnext a o.state)

namespace Console

theorem halt_plain (c : Console) (place : Place) (e : Error) : Plain (c.halt place e).log := by
  rw [halt]
  split
  · exact plain_singleton (.append (.of_toList fun _ => rfl) _)
  · exact plain_empty

theorem tick_plain (c : Console) : Plain c.tick.log := by
  simp only [tick]
  split
  · exact halt_plain _ _ _
  · next word core _ =>
    split
    · exact halt_plain _ _ _
    · intro line hline
      exact (Instr.trace_strays (Option.mem_toArray.mp hline)).isReport

theorem ticksAfter_plain {log : Array String} (h : Plain log) (n : Nat) (c : Console) :
    Plain (ticksAfter log n c).log := by
  induction n generalizing log c with
  | zero => exact h
  | succ n ih =>
    have hstep := h.append c.tick_plain
    simp only [ticksAfter]
    split
    · exact ih hstep _
    · exact hstep

theorem ticks_plain (n : Nat) (c : Console) : Plain (c.ticks n).log :=
  ticksAfter_plain plain_empty n c

/-- No frame logs a report, one that ends with a fault neither. -/
theorem frame_plain (c : Console) : Plain c.frame.log := by
  rw [frame]
  split
  · exact plain_empty
  · refine Outcome.plain_andThen (ticks_plain _ _) fun _ _ => ?_
    exact Outcome.plain_andThen (ticks_plain _ _) fun _ _ => plain_empty

theorem togglePause_plain (c : Console) : Plain c.togglePause.log :=
  plain_singleton (.append (.of_toList fun _ => rfl) _)

theorem loadedLine_strays (program : List UInt8) (location : Int) :
    Strays (Memory.loadedLine program location) := by
  simp only [Memory.loadedLine, String.append_assoc]
  exact .append (.of_toList fun _ => rfl) _

theorem insert_plain (c : Console) (cartridge : Cartridge) : Plain (c.insert cartridge).log := by
  rw [insert_eq]
  split
  · exact plain_empty
  · exact plain_singleton (loadedLine_strays _ _)

theorem load_plain (c : Console) (bytes : List UInt8) : Plain (c.load bytes).log := by
  rw [load]
  split
  · exact plain_empty
  · split
    · exact plain_empty
    · exact insert_plain _ _

theorem start_plain (c : Console) : Plain c.start.log := by
  rw [start]
  split <;> exact plain_empty

theorem reset_plain (c : Console) : Plain c.reset.log := by
  have hreset : Plain #["Emulator reset"] := plain_singleton (.of_toList fun _ => rfl)
  cases hc : c.cartridge? with
  | none =>
    rw [reset_of_none hc]
    exact hreset
  | some cartridge =>
    rw [reset_of_some hc]
    exact (plain_singleton (loadedLine_strays _ _)).append hreset

/-- Nor does any other command. -/
theorem obey_plain (c : Console) (command : Command) : Plain (c.obey command).log := by
  have hsilent : ∀ o : Outcome Console Unit, Plain o.log → Plain (silent o).log :=
    fun o h => Outcome.plain_andThen h fun _ _ => plain_empty
  cases command with
  | load bytes => exact hsilent _ (load_plain c bytes)
  | insert cartridge => exact hsilent _ (insert_plain c cartridge)
  | start => exact hsilent _ (start_plain c)
  | reset => exact hsilent _ (reset_plain c)
  | tick => exact hsilent _ (tick_plain c)
  | togglePause => exact Outcome.plain_andThen (togglePause_plain c) fun _ _ => plain_empty
  | frame => exact Outcome.plain_andThen (frame_plain c) fun _ _ => plain_empty
  | stop | press _ | release _ | consumeDraw => exact plain_empty

end Console
end Chip8
