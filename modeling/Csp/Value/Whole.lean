import Csp.Text.Numeral
import Csp.Value.Items

/-!
# Values as numbers

Where a whole number is needed, a truth value counts as zero or one, a double
loses its digits after the point, and a text is read as a numeral. The values
of transitions are stricter in one respect and more lenient in another:
integers and truth values are kept as they are, and a value that denotes no
number is a malformed transition.
-/
namespace Csp.Value

/-- The whole number that a value denotes. A finite double loses what comes after its point, and a
text is read as a numeral. -/
def whole : Value → Except Failure Int
  | .bool b => .ok (if b then 1 else 0)
  | .int n => .ok n
  | .double (.finite x) => .ok (Double.integerPart x)
  | .double .negativeZero => .ok 0
  | .double (.infinite _) => .error .tooLarge
  | .double (.notANumber _) => .error .badNumeral
  | .text s => match Text.wholeNumber? s with
    | some n => .ok n
    | none => .error .badNumeral
  | _ => .error .notNumeric

/-- The whole numbers that the items of a value denote. -/
def wholes (v : Value) : Except Failure (List Int) := v.mapItems whole

/-- The label that a value stands for on a transition. That an infinite double is too large is
no malformation of the transition. -/
def label : Value → Except Failure Label
  | .bool b => .ok (.bool b)
  | .int n => .ok (.int n)
  | v => match v.whole with
    | .ok n => .ok (.int n)
    | .error .tooLarge => .error .tooLarge
    | .error _ => do throw (.violation (.malformedValue (← v.written)))

/-- The number that a value is, if it is one. Truth values are numbers. -/
def number? : Value → Option Number
  | .bool b => some (.bool b)
  | .int n => some (.int n)
  | .double x => some (.double x)
  | _ => none

mutual

/-- Whether a value is at least another. Numbers are compared with numbers, texts with texts
character by character, lists with lists and tuples with tuples item by item. -/
def atLeast : Value → Value → Except Failure Bool
  | .text a, .text b => .ok (decide (b ≤ a))
  | .list as, .list bs => itemsAtLeast as bs
  | .tuple as, .tuple bs => itemsAtLeast as bs
  | a, b => match a.number?, b.number? with
    | some x, some y => .ok (x.exact.atLeast y.exact)
    | _, _ => .error .notComparable

/-- The first items that differ decide; without such items, the lengths do. -/
def itemsAtLeast : List Value → List Value → Except Failure Bool
  | [], bs => .ok bs.isEmpty
  | _ :: _, [] => .ok true
  | a :: as, b :: bs => if a.same b then itemsAtLeast as bs else atLeast a b

end

/-- Integers are compared as integers. -/
theorem int_atLeast (m n : Int) : (Value.int m).atLeast (.int n) = .ok (decide (n ≤ m)) := by
  have exact : ((n : Dyadic) ≤ (m : Dyadic)) ↔ n ≤ m := by
    rw [← Dyadic.toRat_le_toRat_iff, Dyadic.toRat_intCast, Dyadic.toRat_intCast,
      Rat.intCast_le_intCast]
  simp [atLeast, number?, Number.exact, Double.atLeast, exact]

end Csp.Value
