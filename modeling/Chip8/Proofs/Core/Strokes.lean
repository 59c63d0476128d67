/-
Sprites drawn over one another.

A sprite flips the pixels that it covers and leaves memory alone.  So a pixel is flipped as often as
sprites cover it, in whatever order they are drawn, and a sprite that is drawn twice is gone.

* `Core.strokes_eq` : sprites that are in memory are drawn without fail;
* `Core.pixel_strokes` : each pixel after sprites have been drawn;
* `Core.flag_stroked_stroked` : the flag when a sprite has been drawn twice in a row;
* `Core.strokes_parity` : all of it.
-/
import Chip8.Proofs.Core.Sprites
import Mathlib.Algebra.BigOperators.Group.Finset.Lemmas
import Mathlib.Algebra.Group.Nat.Even
import Mathlib.Algebra.Ring.Parity

namespace Chip8

/-- The register V1. -/
def Reg.one : Reg := ⟨1, by decide⟩

/-- A sprite in memory, and where on the display to draw it. -/
structure Stroke where
  left : UInt8
  top : UInt8
  address : Nat
  height : Fin 16
  fits : address + height.val ≤ 4096
  deriving DecidableEq

/-- The sprite has a set bit on a pixel. -/
def Stroke.Hits (s : Stroke) (ram : Ram) (x y : Int) : Prop :=
  Display.Covers s.left.toNat s.top.toNat (ram.slice s.address s.height.val) x y

instance (s : Stroke) (ram : Ram) (x y : Int) : Decidable (s.Hits ram x y) :=
  inferInstanceAs (Decidable (Display.Covers _ _ _ x y))

/-! ### Counting -/

theorem odd_countP_cons {α : Type} (p : α → Bool) (a : α) (l : List α) :
    decide (Odd ((a :: l).countP p)) = (p a ^^ decide (Odd (l.countP p))) := by
  rw [List.countP_cons]
  cases p a with
  | true => simp [Nat.odd_add_one, -Nat.not_odd_iff_even]
  | false => simp

/-- If everything occurs an even number of times, an even number of things has a property. -/
theorem even_countP {α : Type} [DecidableEq α] {l : List α} (h : ∀ a, Even (l.count a))
    (p : α → Bool) : Even (l.countP p) := by
  rw [List.countP_eq_length_filter, ← List.sum_toFinset_count_eq_length]
  refine Finset.even_sum _ fun a ha => ?_
  have hp : p a = true := List.of_mem_filter (List.mem_toFinset.mp ha)
  rw [List.count_filter hp]
  exact h a

namespace Core

/-! ### One sprite -/

/-- The machine about to draw a sprite: V0 and V1 say where to, and I where from. -/
def aim (c : Core) (s : Stroke) : Core :=
  ((c.put .zero s.left.toNat).put .one s.top.toNat).index s.address

/-- Draw a sprite. -/
def stroke (c : Core) (s : Stroke) : Outcome Core Unit :=
  (c.aim s).execute (.draw .zero .one s.height)

/-- Draw sprites one after the other. -/
def strokes (c : Core) : List Stroke → Outcome Core Unit
  | [] => .done c ()
  | s :: rest => (c.stroke s).andThen fun () c => c.strokes rest

variable (c : Core) (s : Stroke)

/-- The machine behind a sprite. -/
def stroked : Core := (c.aim s).draw .zero .one s.height.val

theorem stroke_eq : c.stroke s = .done (c.stroked s) () := by
  refine execute_draw_of_fits (Int.natCast_nonneg s.address) (.inr ?_)
  have hfits := s.fits
  show (s.address : Int) + s.height.val ≤ 4096
  omega

theorem aim_v_zero : (c.aim s).v .zero = s.left.toNat := by
  show ((c.registers.put .zero s.left.toNat).put .one s.top.toNat).get .zero = _
  rw [Registers.get_put, if_neg (by decide), Registers.get_put, if_pos rfl]

theorem aim_v_one : (c.aim s).v .one = s.top.toNat := by
  show ((c.registers.put .zero s.left.toNat).put .one s.top.toNat).get .one = _
  rw [Registers.get_put, if_pos rfl]

/-- No sprite is higher than the display. -/
theorem height_le : s.height.val ≤ 32 := by
  have hlt := s.height.isLt
  omega

theorem ram_stroked : (c.stroked s).memory.ram = c.memory.ram := rfl

theorem pixel_stroked (x y : Int) : (c.stroked s).memory.display.pixel x y =
    (c.memory.display.pixel x y ^^ decide (s.Hits c.memory.ram x y)) := by
  rw [stroked, pixel_draw _ _ _ (height_le s), aim_v_zero, aim_v_one]
  rfl

theorem flag_stroked : (c.stroked s).v .flag = 1 ↔
    ∃ x y, s.Hits c.memory.ram x y ∧ c.memory.display.pixel x y = true := by
  rw [stroked, flag_draw_eq_one_iff _ _ _ (height_le s), aim_v_zero, aim_v_one]
  rfl

theorem flag_stroked_cases : (c.stroked s).v .flag = 0 ∨ (c.stroked s).v .flag = 1 :=
  (c.aim s).flag_draw_cases .zero .one

/-- Drawn a second time, a sprite turns off what it turned on the first time. -/
theorem flag_stroked_stroked : ((c.stroked s).stroked s).v .flag = 1 ↔
    ∃ x y, c.memory.display.pixel x y = false ∧ (c.stroked s).memory.display.pixel x y = true := by
  rw [flag_stroked, ram_stroked]
  refine exists_congr fun x => exists_congr fun y => ?_
  rw [pixel_stroked]
  cases c.memory.display.pixel x y with
  | true => simp
  | false => simp

/-! ### Many sprites -/

variable (l : List Stroke)

theorem strokes_eq : c.strokes l = .done (l.foldl stroked c) () := by
  induction l generalizing c with
  | nil => rfl
  | cons s l ih => rw [strokes, stroke_eq, Outcome.done_andThen, ih, List.foldl_cons]

/-- A pixel is flipped as often as sprites hit it. -/
theorem pixel_strokes (x y : Int) : (l.foldl stroked c).memory.display.pixel x y =
    (c.memory.display.pixel x y ^^
      decide (Odd (l.countP fun s => s.Hits c.memory.ram x y))) := by
  induction l generalizing c with
  | nil => simp
  | cons s l ih =>
    rw [List.foldl_cons, ih, pixel_stroked, ram_stroked, odd_countP_cons, Bool.xor_assoc]

variable {l}

theorem strokes_perm {l' : List Stroke} (h : l.Perm l') :
    (l.foldl stroked c).memory.display = (l'.foldl stroked c).memory.display := by
  refine Display.ext_pixel fun x y => ?_
  rw [pixel_strokes, pixel_strokes, h.countP_eq]

theorem strokes_even (h : ∀ s, Even (l.count s)) :
    (l.foldl stroked c).memory.display = c.memory.display := by
  refine Display.ext_pixel fun x y => ?_
  rw [pixel_strokes, decide_eq_false (Nat.not_odd_iff_even.mpr (even_countP h _)), Bool.xor_false]

/-- **Sprites are drawn in any order, and undo themselves.**  Whatever is on the display, sprites
that are in memory are drawn without fail, and a pixel changes exactly if an odd number of them hits
it.  So their order does not matter, and if each is drawn an even number of times, all is as it was.
A sprite drawn twice in a row sets the flag the second time exactly if it turned a pixel on the
first time. -/
theorem strokes_parity (c : Core) (l : List Stroke) :
    (c.strokes l).result = .ok () ∧
    (∀ x y, (c.strokes l).state.memory.display.pixel x y =
      (c.memory.display.pixel x y ^^
        decide (Odd (l.countP fun s => s.Hits c.memory.ram x y)))) ∧
    (∀ l', l.Perm l' →
      (c.strokes l').state.memory.display = (c.strokes l).state.memory.display) ∧
    ((∀ s, Even (l.count s)) → (c.strokes l).state.memory.display = c.memory.display) ∧
    ∀ s, (c.stroke s).result = .ok () ∧ ((c.stroke s).state.stroke s).result = .ok () ∧
      (((c.stroke s).state.stroke s).state.v .flag = 1 ↔
        ∃ x y, c.memory.display.pixel x y = false ∧
          (c.stroke s).state.memory.display.pixel x y = true) ∧
      (((c.stroke s).state.stroke s).state.v .flag = 0 ∨
        ((c.stroke s).state.stroke s).state.v .flag = 1) := by
  simp only [strokes_eq, stroke_eq]
  refine ⟨rfl, pixel_strokes c l, ?_, strokes_even c, ?_⟩
  · intro l' hperm
    exact (strokes_perm c hperm).symm
  · intro s
    exact ⟨rfl, rfl, flag_stroked_stroked c s, flag_stroked_cases _ s⟩

/-- The digits zero and one of the font, over one another in a corner, where all edges cut them. -/
def corner : List Stroke := [⟨62, 30, 0x50, 5, by decide⟩, ⟨62, 30, 0x55, 5, by decide⟩]

/-- A pixel that one of them hits is on and one that both hit is off.  It makes no difference which
is drawn first, and drawing both again clears the display. -/
theorem strokes_parity_corner :
    ((Core.initial false (.cycle #[])).strokes corner).state.memory.display.pixel 1 30 = true ∧
    ((Core.initial false (.cycle #[])).strokes corner).state.memory.display.pixel 0 30 = false ∧
    ((Core.initial false (.cycle #[])).strokes corner.reverse).state.memory.display =
      ((Core.initial false (.cycle #[])).strokes corner).state.memory.display ∧
    (∀ s, Even ((corner ++ corner).count s)) ∧
    ((Core.initial false (.cycle #[])).strokes (corner ++ corner)).state.memory.display =
      .blank := by
  have heven : ∀ s, Even ((corner ++ corner).count s) := by
    intro s
    rw [List.count_append]
    exact ⟨_, rfl⟩
  obtain ⟨-, hpixel, hperm, -⟩ := strokes_parity (.initial false (.cycle #[])) corner
  obtain ⟨-, -, -, hdouble, -⟩ := strokes_parity (.initial false (.cycle #[])) (corner ++ corner)
  refine ⟨?_, ?_, hperm _ corner.reverse_perm.symm, heven, hdouble heven⟩
  · rw [hpixel]
    decide +kernel
  · rw [hpixel]
    decide +kernel

end Core
end Chip8
