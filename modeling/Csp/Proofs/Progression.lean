import Csp.Progression
import Mathlib.Data.List.Nodup

/-!
# The terms of a progression

A term is listed as long as it comes before the bound. Whether the bound is hit
or stepped over makes no difference, and where the step leads away from the
bound nothing is listed. The number of terms is a division that rounds up; it is
looked at only once, to see that it says the same, and everything else is
derived from the places of the terms.
-/
namespace Csp.Progression

/-- The bound has not been reached yet in the direction of the step. -/
def Before (r : Progression) (n : Int) : Prop :=
  0 < r.step ∧ n < r.stop ∨ r.step < 0 ∧ r.stop < n

/-- The start has been reached in the direction of the step. -/
def Begun (r : Progression) (n : Int) : Prop :=
  0 < r.step ∧ r.start ≤ n ∨ r.step < 0 ∧ n ≤ r.start

/-- A number that lies between the start and the bound and that whole steps lead to. -/
def Contains (r : Progression) (n : Int) : Prop :=
  r.Begun n ∧ r.Before n ∧ r.step ∣ n - r.start

instance (r : Progression) (n : Int) : Decidable (r.Before n) :=
  inferInstanceAs (Decidable (_ ∨ _))

instance (r : Progression) (n : Int) : Decidable (r.Begun n) :=
  inferInstanceAs (Decidable (_ ∨ _))

instance (r : Progression) (n : Int) : Decidable (r.Contains n) :=
  inferInstanceAs (Decidable (_ ∧ _ ∧ _))

/-- The number of terms is the number of steps that start before the bound. The division that
computes it rounds up, because a step may go past the bound. -/
theorem lt_length_iff (r : Progression) (i : Nat) :
    i < r.length ↔ r.Before (r.start + i * r.step) := by
  have nonzero : r.step ≠ 0 := r.step_ne_zero
  have positive : (0 : Int) < r.step.natAbs := by omega
  have rounded : i < r.length ↔ (i : Int) * r.step.natAbs < r.distance := by
    have whole : i < r.length ↔
        (i : Int) + 1 ≤ (r.distance + r.step.natAbs - 1) / r.step.natAbs := by
      rw [length]
      omega
    rw [whole, Int.le_ediv_iff_mul_le positive, Int.add_mul, Int.one_mul]
    omega
  rw [rounded, Before, distance]
  rcases Int.lt_or_gt_of_ne nonzero with down | up
  · have size : (r.step.natAbs : Int) = -r.step := by omega
    rw [size, Int.mul_neg, if_neg (by omega)]
    omega
  · have size : (r.step.natAbs : Int) = r.step := by omega
    rw [size, if_pos up]
    omega

/-- Each place of the list holds the start and as many steps, as long as that comes before the
bound, and the list ends where it does not any more. -/
theorem getElem?_toList (r : Progression) (i : Nat) :
    r.toList[i]? =
      if r.Before (r.start + i * r.step) then some (r.start + i * r.step) else none := by
  by_cases early : r.Before (r.start + i * r.step)
  · have inside : i < r.length := (r.lt_length_iff i).mpr early
    simp [toList, List.getElem?_range inside, early]
  · have outside : ¬ i < r.length := mt (r.lt_length_iff i).mp early
    simp [toList, early, Nat.le_of_not_lt outside]

/-- Steps forward and no others lead to where the start has been reached. The number of steps is
then not negative. -/
theorem begun_iff (r : Progression) (steps : Int) :
    r.Begun (r.start + steps * r.step) ↔ 0 ≤ steps := by
  rw [Begun]
  rcases Int.lt_or_gt_of_ne r.step_ne_zero with down | up
  · have forward : steps * r.step ≤ 0 ↔ 0 ≤ steps := by
      rw [← Int.neg_nonneg, ← Int.mul_neg]
      exact Int.mul_nonneg_iff_of_pos_right (by omega)
    omega
  · have forward : 0 ≤ steps * r.step ↔ 0 ≤ steps := Int.mul_nonneg_iff_of_pos_right up
    omega

/-- What is listed are the numbers between the start and the bound that whole steps lead to. -/
theorem mem_toList (r : Progression) (n : Int) : n ∈ r.toList ↔ r.Contains n := by
  rw [List.mem_iff_getElem?]
  constructor
  · rintro ⟨i, found⟩
    rw [getElem?_toList] at found
    split at found
    · rename_i early
      cases found
      have apart : r.start + i * r.step - r.start = r.step * i := by
        rw [Int.mul_comm]
        omega
      exact ⟨(r.begun_iff i).mpr (Int.natCast_nonneg i), early, i, apart⟩
    · cases found
  · rintro ⟨begun, early, steps, apart⟩
    have place : n = r.start + steps * r.step := by
      rw [Int.mul_comm]
      omega
    subst place
    obtain ⟨i, rfl⟩ := Int.eq_ofNat_of_zero_le ((r.begun_iff steps).mp begun)
    exact ⟨i, by rw [getElem?_toList, if_pos early]⟩

/-- No number is listed twice. The step is not zero, so it never leads back. -/
theorem nodup_toList (r : Progression) : r.toList.Nodup := by
  refine List.Nodup.map (fun i j same => ?_) List.nodup_range
  have equal : (i : Int) * r.step = j * r.step := Int.add_left_cancel same
  exact Int.ofNat.inj (Int.eq_of_mul_eq_mul_right r.step_ne_zero equal)

/-- A number is listed once if it is listed at all. -/
theorem count_toList (r : Progression) (n : Int) :
    r.toList.count n = if r.Contains n then 1 else 0 := by
  rw [r.nodup_toList.count]
  simp only [mem_toList]

end Csp.Progression
