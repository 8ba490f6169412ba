import Mathlib.Algebra.Group.Nat.Defs

namespace PipelineOps.Library

/-! A clock that wraps around at `period`, read every `every` ticks from
`start`: when is each reading a multiple of `every`? -/

section WrappedClock

variable {every period start : Nat}

theorem dvd_reading_of_dvd_period (divides : every ∣ period) (count : Nat) :
    every ∣ (start + count * every) % period ↔ every ∣ start := by
  rw [Nat.dvd_mod_iff divides,
    Nat.dvd_add_left (Nat.dvd_mul_left every count)]

theorem reading_of_period_dvd (within : start < period)
    (wraps : period ∣ every) (count : Nat) :
    (start + count * every) % period = start := by
  obtain ⟨turns, rfl⟩ := wraps
  rw [Nat.mul_left_comm, Nat.add_mul_mod_self_left, Nat.mod_eq_of_lt within]

theorem dvd_reading (within : start < period) (first : every ∣ start)
    (regular : every ∣ period ∨ period ∣ every) (count : Nat) :
    every ∣ (start + count * every) % period := by
  rcases regular with divides | wraps
  · exact (dvd_reading_of_dvd_period divides count).mpr first
  · rw [reading_of_period_dvd within wraps]
    exact first

/-- The number of the first reading past the wrap. -/
def firstWrapped (every period start : Nat) : Nat :=
  (period - start + (every - 1)) / every

theorem firstWrapped_le :
    firstWrapped every period start * every ≤
      period - start + (every - 1) :=
  Nat.div_mul_le_self _ _

theorem period_le_firstWrapped (positive : 0 < every)
    (within : start < period) :
    period ≤ start + firstWrapped every period start * every := by
  have split := Nat.div_add_mod (period - start + (every - 1)) every
  have rest := Nat.mod_lt (period - start + (every - 1)) positive
  rw [firstWrapped, Nat.mul_comm]
  omega

/-- The first reading and the first one past the wrap decide about all of
them. -/
theorem regular_of_dvd_wrapped (positive : 0 < every)
    (within : start < period) (first : every ∣ start)
    (wrapped : every ∣
      (start + firstWrapped every period start * every) % period) :
    every ∣ period ∨ period ∣ every := by
  have reached := period_le_firstWrapped positive within
  have bounded : firstWrapped every period start * every ≤
      period - start + (every - 1) := firstWrapped_le
  have total : every ∣ start + firstWrapped every period start * every :=
    (Nat.dvd_add_left (Nat.dvd_mul_left every _)).mpr first
  by_cases short : every ≤ period
  · left
    rw [Nat.mod_eq_sub_mod reached, Nat.mod_eq_of_lt (by omega)] at wrapped
    have gap := Nat.dvd_sub total wrapped
    rwa [Nat.sub_sub_self reached] at gap
  · right
    obtain rfl : start = 0 :=
      Nat.eq_zero_of_dvd_of_lt first (by omega)
    have once : firstWrapped every period 0 = 1 :=
      Nat.div_eq_of_lt_le (by omega) (by omega)
    rw [once, Nat.zero_add, Nat.one_mul] at wrapped
    have below := Nat.mod_lt every within
    exact Nat.dvd_of_mod_eq_zero
      (Nat.eq_zero_of_dvd_of_lt wrapped (by omega))

end WrappedClock

section Readings

variable {every : Nat} {start low : Int}

/-- The number of the first reading that is not before `low`. -/
def firstReading (every : Nat) (start low : Int) : Nat :=
  ((low - start + (every - 1)) / every).toNat

theorem le_reading_iff (positive : 0 < every) (count : Nat) :
    low ≤ start + count * every ↔ firstReading every start low ≤ count := by
  have steps : (0 : Int) < every := by omega
  have below : (low - start + (every - 1)) / every ≤ count ↔
      low - start + (every - 1) < (count + 1) * every := by
    rw [← Int.lt_add_one_iff, Int.ediv_lt_iff_lt_mul steps]
  rw [firstReading, Int.toNat_le, below, Int.add_mul, Int.one_mul]
  omega

theorem firstReading_lt (positive : 0 < every) (begun : start ≤ low) :
    start + firstReading every start low * every < low + every := by
  have steps : (0 : Int) < every := by omega
  have bound := Int.ediv_mul_le (low - start + (every - 1)) (Int.ne_of_gt steps)
  have nonneg : 0 ≤ (low - start + (every - 1)) / every :=
    Int.ediv_nonneg (by omega) (Int.le_of_lt steps)
  rw [firstReading, Int.toNat_of_nonneg nonneg]
  omega

end Readings

end PipelineOps.Library
