/-!
# Arithmetic progressions

A start, a step other than zero, and a bound before which the progression
stops: upwards for a positive step, downwards for a negative one. Two
progressions are the same when they list the same numbers.
-/
namespace Csp

/-- An arithmetic progression with an exclusive bound. The step is not zero, which is part of the
data. -/
structure Progression where
  start : Int
  stop : Int
  step : Int
  step_ne_zero : step ≠ 0
deriving DecidableEq

namespace Progression

/-- How far the bound lies ahead of the start in the direction of the step. -/
def distance (r : Progression) : Int := if 0 < r.step then r.stop - r.start else r.start - r.stop

/-- The number of terms: one for each step that starts before the bound. It is found by one
division, rounded up. -/
def length (r : Progression) : Nat := ((r.distance + r.step.natAbs - 1) / r.step.natAbs).toNat

/-- The terms in order. -/
def toList (r : Progression) : List Int :=
  (List.range r.length).map fun (i : Nat) => r.start + i * r.step

/-- The result of an action that goes on from what it made of the terms before, for so many terms
from a term on. -/
def accumulate {ε β : Type} (action : β → Int → Except ε β) (step : Int) :
    (count : Nat) → (term : Int) → (made : β) → Except ε β
  | 0, _, made => .ok made
  | count + 1, term, made => match action made term with
    | .ok next => accumulate action step count (term + step) next
    | .error failure => .error failure

/-- The result of an action that goes on from term to term, up to the first failure. Terms after it
are not computed, so a progression may be of any length if the action fails early. -/
def foldM {ε β : Type} (r : Progression) (action : β → Int → Except ε β) (start : β) :
    Except ε β :=
  accumulate action r.step r.length r.start start

/-- The results of an action for all terms in order, up to the first failure. The terms are computed
as they are needed. -/
def mapM {ε β : Type} (r : Progression) (action : Int → Except ε β) : Except ε (List β) :=
  List.reverse <$> r.foldM (fun done n => (· :: done) <$> action n) []

/-- Whether two progressions list the same numbers. Without a term nothing else counts,
and with one term the step does not count. -/
def same (r s : Progression) : Bool :=
  r.length == s.length &&
    (r.length == 0 || (r.start == s.start && (r.length == 1 || r.step == s.step)))

/-- The number of terms is computed from the bounds, without listing them. So a progression with
more terms than a list can hold still has a length. -/
@[simp] theorem length_toList (r : Progression) : r.toList.length = r.length := by
  simp [toList]

/-- The terms after the first one are those of the progression that starts one step later. -/
theorem terms_succ (term step : Int) (count : Nat) :
    ((List.range (count + 1)).map fun (i : Nat) => term + i * step) =
      term :: (List.range count).map fun (i : Nat) => term + step + i * step := by
  rw [List.range_succ_eq_map, List.map_cons, List.map_map, Int.natCast_zero, Int.zero_mul,
    Int.add_zero]
  refine congrArg _ (List.map_congr_left fun i _ => ?_)
  rw [Function.comp_apply, Int.natCast_succ, Int.add_mul, Int.one_mul]
  omega

/-- The loop over a progression is the fold over its terms. It stops at the first failure as the
fold does, so later terms are never computed. -/
theorem accumulate_eq {ε β : Type} (action : β → Int → Except ε β) (step : Int) (count : Nat)
    (term : Int) (made : β) :
    accumulate action step count term made =
      ((List.range count).map fun (i : Nat) => term + i * step).foldlM action made := by
  induction count generalizing term made with
  | zero => rfl
  | succ count inductionHypothesis =>
    rw [accumulate, terms_succ, List.foldlM_cons]
    cases action made term with
    | error failure => rfl
    | ok next => exact inductionHypothesis (term + step) next

/-- Going from term to term is going through the list of the terms. -/
theorem foldM_eq {ε β : Type} (r : Progression) (action : β → Int → Except ε β) (start : β) :
    r.foldM action start = r.toList.foldlM action start :=
  accumulate_eq action r.step r.length r.start start

/-- An action on a progression is an action on the list of its terms. -/
theorem mapM_eq {ε β : Type} (r : Progression) (action : Int → Except ε β) :
    r.mapM action = r.toList.mapM action := by
  rw [mapM, foldM_eq, List.mapM_eq_reverse_foldlM_cons]

end Progression
end Csp
