import Mathlib.Algebra.Group.Nat.Defs
import Mathlib.Data.Int.Notation
import Mathlib.Data.Nat.Notation
import Mathlib.Logic.Function.Iterate
import Mathlib.Tactic.SplitIfs

/-!
# Clocks that wrap

A `Dial` counts frames and the ticks of a frame. A `Time` on a dial carries the bounds of both, so
there is no time outside of the dial; its number `decimal` counts the ticks from the start of the
cycle. `ofDecimal` takes any number back to a time, by the remainder modulo the cycle.

All movement is addition to that number: `advance` by a natural number, `shift` by an integer. The
step with two carries, as a counter makes it, is `next`; `next_iterate` says that `n` steps are one
advance by `n`, and `advance_frame` and `advance_tick` give the advance field by field. `lag a b`
is how far `b` is behind `a` on the circle; it does not change when both move alike. `packed` is
the encoding with the tick in the low bits.
-/

set_option autoImplicit false
set_option relaxedAutoImplicit false

namespace MultiUeProxy.Lib.CyclicClock

/-- The number of frames in a cycle and of ticks in a frame. -/
structure Dial where
  frames : ℕ
  ticks : ℕ
  frames_pos : 0 < frames
  ticks_pos : 0 < ticks

/-- The ticks of a whole cycle. -/
def Dial.cycle (d : Dial) : ℕ := d.frames * d.ticks

theorem Dial.cycle_pos (d : Dial) : 0 < d.cycle := Nat.mul_pos d.frames_pos d.ticks_pos

/-- A time on a dial. -/
@[ext] structure Time (d : Dial) where
  frame : ℕ
  tick : ℕ
  frame_lt : frame < d.frames
  tick_lt : tick < d.ticks
  deriving DecidableEq

variable {d : Dial}

namespace Time

/-! ### Times as numbers -/

/-- The ticks since the start of the cycle. -/
def decimal (t : Time d) : ℕ := t.frame * d.ticks + t.tick

/-- The time after a number of ticks. -/
def ofDecimal (x : ℕ) : Time d where
  frame := x / d.ticks % d.frames
  tick := x % d.ticks
  frame_lt := Nat.mod_lt _ d.frames_pos
  tick_lt := Nat.mod_lt _ d.ticks_pos

theorem decimal_div (t : Time d) : t.decimal / d.ticks = t.frame := by
  unfold decimal
  rw [Nat.mul_comm, Nat.mul_add_div d.ticks_pos, Nat.div_eq_of_lt t.tick_lt, Nat.add_zero]

theorem decimal_mod (t : Time d) : t.decimal % d.ticks = t.tick := by
  unfold decimal
  rw [Nat.mul_comm, Nat.mul_add_mod, Nat.mod_eq_of_lt t.tick_lt]

theorem decimal_lt (t : Time d) : t.decimal < d.cycle := by
  unfold Dial.cycle
  rw [← Nat.div_lt_iff_lt_mul d.ticks_pos, decimal_div]
  exact t.frame_lt

@[simp] theorem ofDecimal_decimal (t : Time d) : ofDecimal t.decimal = t := by
  apply Time.ext
  · show t.decimal / d.ticks % d.frames = t.frame
    rw [decimal_div, Nat.mod_eq_of_lt t.frame_lt]
  · exact decimal_mod t

@[simp] theorem decimal_ofDecimal (x : ℕ) : (ofDecimal x : Time d).decimal = x % d.cycle := by
  show x / d.ticks % d.frames * d.ticks + x % d.ticks = x % (d.frames * d.ticks)
  rw [Nat.mul_comm d.frames, Nat.mod_mul, Nat.mul_comm d.ticks, Nat.add_comm]

theorem decimal_inj {s t : Time d} : s.decimal = t.decimal ↔ s = t := by
  constructor
  · intro h
    rw [← ofDecimal_decimal s, h, ofDecimal_decimal]
  · intro h
    rw [h]

/-! ### Steps and advances -/

/-- The time some ticks later. -/
def advance (t : Time d) (n : ℕ) : Time d := ofDecimal (t.decimal + n)

/-- The next time, with a carry out of the frame and one out of the cycle. -/
def next (t : Time d) : Time d :=
  if htick : t.tick + 1 < d.ticks then ⟨t.frame, t.tick + 1, t.frame_lt, htick⟩
  else if hframe : t.frame + 1 < d.frames then ⟨t.frame + 1, 0, hframe, d.ticks_pos⟩
  else ⟨0, 0, d.frames_pos, d.ticks_pos⟩

@[simp] theorem advance_zero (t : Time d) : t.advance 0 = t := ofDecimal_decimal t

theorem decimal_advance (t : Time d) (n : ℕ) :
    (t.advance n).decimal = (t.decimal + n) % d.cycle :=
  decimal_ofDecimal _

theorem advance_advance (t : Time d) (m n : ℕ) : (t.advance m).advance n = t.advance (m + n) := by
  apply decimal_inj.mp
  rw [decimal_advance, decimal_advance, decimal_advance, Nat.mod_add_mod, Nat.add_assoc]

theorem advance_frame (t : Time d) (n : ℕ) :
    (t.advance n).frame = (t.frame + (t.tick + n) / d.ticks) % d.frames := by
  show (t.frame * d.ticks + t.tick + n) / d.ticks % d.frames = _
  rw [Nat.add_assoc, Nat.mul_comm, Nat.mul_add_div d.ticks_pos]

theorem advance_tick (t : Time d) (n : ℕ) : (t.advance n).tick = (t.tick + n) % d.ticks := by
  show (t.frame * d.ticks + t.tick + n) % d.ticks = _
  rw [Nat.add_assoc, Nat.mul_comm, Nat.mul_add_mod]

/-- The step of a counter is an advance by one. -/
theorem next_eq_advance (t : Time d) : t.next = t.advance 1 := by
  have htick_lt := t.tick_lt
  unfold next
  split_ifs with htick hframe
  · apply Time.ext
    · show t.frame = (t.advance 1).frame
      rw [advance_frame, Nat.div_eq_of_lt htick, Nat.add_zero, Nat.mod_eq_of_lt t.frame_lt]
    · show t.tick + 1 = (t.advance 1).tick
      rw [advance_tick, Nat.mod_eq_of_lt htick]
  · have hfull : t.tick + 1 = d.ticks := by omega
    apply Time.ext
    · rw [advance_frame, hfull, Nat.div_self d.ticks_pos, Nat.mod_eq_of_lt hframe]
    · rw [advance_tick, hfull, Nat.mod_self]
  · have hfull : t.tick + 1 = d.ticks := by omega
    have hlast : t.frame + 1 = d.frames := by have := t.frame_lt; omega
    apply Time.ext
    · rw [advance_frame, hfull, Nat.div_self d.ticks_pos, hlast, Nat.mod_self]
    · rw [advance_tick, hfull, Nat.mod_self]

/-- Steps add up to an advance. -/
theorem next_iterate (t : Time d) (n : ℕ) : next^[n] t = t.advance n := by
  induction n with
  | zero => rw [Function.iterate_zero, id_eq, advance_zero]
  | succ n ih => rw [Function.iterate_succ_apply', ih, next_eq_advance, advance_advance]

/-! ### Shifts by integers -/

/-- The time some ticks later or earlier. -/
def shift (t : Time d) (z : ℤ) : Time d := ofDecimal ((t.decimal + z) % d.cycle).toNat

theorem decimal_shift (t : Time d) (z : ℤ) :
    ((t.shift z).decimal : ℤ) = (t.decimal + z) % d.cycle := by
  have hcycle : (0 : ℤ) < d.cycle := Int.natCast_pos.mpr d.cycle_pos
  have hnonneg := Int.emod_nonneg (t.decimal + z) (Int.ne_of_gt hcycle)
  have hlt := Int.emod_lt_of_pos (t.decimal + z) hcycle
  unfold shift
  rw [decimal_ofDecimal, Int.natCast_emod, Int.toNat_of_nonneg hnonneg,
    Int.emod_eq_of_lt hnonneg hlt]

@[simp] theorem shift_zero (t : Time d) : t.shift 0 = t := by
  apply decimal_inj.mp
  apply Int.natCast_inj.mp
  rw [decimal_shift, Int.add_zero, ← Int.natCast_emod, Nat.mod_eq_of_lt t.decimal_lt]

/-! ### How far one time is behind another -/

/-- The ticks from `b` on to `a`, once around at most. -/
def lag (a b : Time d) : ℕ := (a.decimal + (d.cycle - b.decimal)) % d.cycle

theorem lag_lt (a b : Time d) : lag a b < d.cycle := Nat.mod_lt _ d.cycle_pos

/-- A time that is not ahead is behind by the difference. -/
theorem lag_of_le {a b : Time d} (h : b.decimal ≤ a.decimal) :
    lag a b = a.decimal - b.decimal := by
  have hb := b.decimal_lt
  have ha := a.decimal_lt
  have hround : a.decimal + (d.cycle - b.decimal) = a.decimal - b.decimal + d.cycle := by omega
  unfold lag
  rw [hround, Nat.add_mod_right, Nat.mod_eq_of_lt (by omega)]

/-- A time that is ahead by the number is behind around the circle. -/
theorem lag_of_lt {a b : Time d} (h : a.decimal < b.decimal) :
    lag a b = a.decimal + (d.cycle - b.decimal) := by
  have hb := b.decimal_lt
  unfold lag
  rw [Nat.mod_eq_of_lt (by omega)]

/-- From `b`, an advance by the lag leads to `a`. -/
theorem advance_lag (a b : Time d) : b.advance (lag a b) = a := by
  have hb := b.decimal_lt
  have hround : b.decimal + (a.decimal + (d.cycle - b.decimal)) = a.decimal + d.cycle := by omega
  apply decimal_inj.mp
  rw [decimal_advance, lag, Nat.add_mod_mod, hround, Nat.add_mod_right,
    Nat.mod_eq_of_lt a.decimal_lt]

/-- The lag is the only advance of less than a cycle that does. -/
theorem lag_eq_of_advance {a b : Time d} {n : ℕ} (hn : n < d.cycle) (h : b.advance n = a) :
    lag a b = n := by
  subst h
  have hb := b.decimal_lt
  have hround : b.decimal + n + (d.cycle - b.decimal) = n + d.cycle := by omega
  rw [lag, decimal_advance, Nat.mod_add_mod, hround, Nat.add_mod_right, Nat.mod_eq_of_lt hn]

/-- The lag does not change when both times move alike. -/
theorem lag_advance (a b : Time d) (n : ℕ) : lag (a.advance n) (b.advance n) = lag a b := by
  apply lag_eq_of_advance (lag_lt a b)
  rw [advance_advance, Nat.add_comm, ← advance_advance, advance_lag]

/-! ### The packed form -/

/-- The encoding with the tick in the low bits. -/
def packed (bits : ℕ) (t : Time d) : ℕ := t.frame * 2 ^ bits + t.tick

section Packed

variable {bits : ℕ}

theorem packed_div (hbits : d.ticks ≤ 2 ^ bits) (t : Time d) :
    t.packed bits / 2 ^ bits = t.frame := by
  unfold packed
  rw [Nat.mul_comm, Nat.mul_add_div (Nat.two_pow_pos bits),
    Nat.div_eq_of_lt (Nat.lt_of_lt_of_le t.tick_lt hbits), Nat.add_zero]

theorem packed_mod (hbits : d.ticks ≤ 2 ^ bits) (t : Time d) :
    t.packed bits % 2 ^ bits = t.tick := by
  unfold packed
  rw [Nat.mul_comm, Nat.mul_add_mod, Nat.mod_eq_of_lt (Nat.lt_of_lt_of_le t.tick_lt hbits)]

theorem packed_lt (hbits : d.ticks ≤ 2 ^ bits) (t : Time d) :
    t.packed bits < d.frames * 2 ^ bits := by
  rw [← Nat.div_lt_iff_lt_mul (Nat.two_pow_pos bits), packed_div hbits]
  exact t.frame_lt

end Packed

end Time

end MultiUeProxy.Lib.CyclicClock
