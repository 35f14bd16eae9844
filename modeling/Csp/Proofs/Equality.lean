import Csp.Value.View
import Mathlib.Data.List.Forall2

/-!
# Equal values

Every value equals itself, even where it holds a double that is no number, since
that is recognised as the same occurrence.

Numbers of all types are compared by their exact values, and the exact values of
two integers are equal only if the integers are. So what is made of integers and
texts alone, such as a cell, equals another exactly when it is the same.
-/
namespace Csp

/-- No two integers have the same exact value. A binary fraction that is an integer is that integer
as a rational number. -/
theorem finite_intCast_inj (m n : Int) :
    Double.finite (m : Dyadic) = .finite (n : Dyadic) ↔ m = n := by
  rw [Double.finite.injEq, ← Dyadic.toRat_inj, Dyadic.toRat_intCast, Dyadic.toRat_intCast,
    Rat.intCast_inj]

namespace Shape

mutual

/-- Every shape is alike itself. The recursion is that of the shapes, with one case for each way to
make one. -/
theorem alike_self : ∀ shape : Shape, shape.alike shape = true
  | .null => by rw [alike]
  | .number n => by simp [alike, Number.same]
  | .text s => by simp [alike]
  | .progression r => by simp [alike, Progression.same]
  | .symbol family name form => by simp [alike]
  | .handle n id => by simp [alike]
  | .tree n form => by simp [alike]
  | .list items => by rw [alike, alikeItems_self items]
  | .tuple items => by rw [alike, alikeItems_self items]
  | .mapping _ entries => by
    rw [alike, beq_self_eq_true, alikeEntries_self entries entries (List.Subset.refl entries)]
    rfl
  | .record _ fields => by
    rw [alike, beq_self_eq_true, alikeFields_self fields]
    rfl

/-- Collections are compared item by item. -/
theorem alikeItems_self : ∀ items, alikeItems items items = true
  | [] => by rw [alikeItems]
  | item :: rest => by
    rw [alikeItems, alike_self item, alikeItems_self rest]
    rfl

/-- Entries are found in every mapping that has them. -/
theorem alikeEntries_self : ∀ entries all : List (Shape × Shape), entries ⊆ all →
    alikeEntries entries all = true
  | [], _, _ => by rw [alikeEntries]
  | (key, value) :: rest, all, within => by
    obtain ⟨listed, others⟩ := List.cons_subset.mp within
    have found : all.any (fun entry =>
        key.hash? == entry.1.hash? && alike key entry.1 && alike value entry.2) :=
      List.any_eq_true.mpr ⟨(key, value), listed, by
        rw [alike_self key, alike_self value, beq_self_eq_true]
        rfl⟩
    rw [alikeEntries, found, alikeEntries_self rest all others]
    rfl

/-- Records are compared field by field. -/
theorem alikeFields_self : ∀ fields, alikeFields fields fields = true
  | [] => by rw [alikeFields]
  | (_, field) :: rest => by
    rw [alikeFields, alike_self field, alikeFields_self rest]
    rfl

end

/-- Two integers are alike only if they are the same, since their exact values are. -/
theorem alike_ofInt (m n : Int) :
    (ofInt m).alike (ofInt n) = true ↔ m = n := by
  rw [ofInt, ofInt, alike, Number.same, decide_eq_true_eq]
  exact finite_intCast_inj m n

/-- Lists are alike when they are so item by item. Lists of different lengths are never alike. -/
theorem alikeItems_iff (items others : List Shape) :
    alikeItems items others = true ↔
      List.Forall₂ (fun item other => item.alike other = true) items others := by
  induction items generalizing others with
  | nil => cases others <;> simp [alikeItems]
  | cons item rest inductionHypothesis =>
    cases others with
    | nil => simp [alikeItems]
    | cons other others =>
      rw [alikeItems, Bool.and_eq_true, inductionHypothesis, List.forall₂_cons]

/-- Lists of integers are alike only if they are the same list. -/
theorem alikeItems_ofInt (numbers others : List Int) :
    alikeItems (numbers.map ofInt) (others.map ofInt) = true ↔ numbers = others := by
  rw [alikeItems_iff, List.forall₂_map_left_iff, List.forall₂_map_right_iff]
  simp only [alike_ofInt, List.forall₂_eq_eq_eq]

end Shape

/-- So every value is found again in a collection that it has been put into. -/
theorem Value.same_self (v : Value) : v.same v = true := v.shape.alike_self

namespace Value

/-- The shape of an entity is a record, whatever its class. So entities are never alike to values of
other types. -/
theorem entityShape_eq_record (e : Entity Value) :
    ∃ name fields, entityShape e = .record name fields := by
  rcases e with x | x | x | x | (x | x | x | x) | x <;> cases x <;> exact ⟨_, _, rfl⟩

/-- Only a text has the shape of a text. All other values have shapes of other forms. -/
theorem eq_text_of_shape {v : Value} {s : String} (shape : v.shape = .text s) : v = .text s := by
  cases v with
  | text t =>
    cases shape
    rfl
  | entity e =>
    obtain ⟨name, fields, record⟩ := entityShape_eq_record e
    rw [Value.shape, record] at shape
    cases shape
  | null | bool b | int n | double x | list items | tuple items | progression r | dict entries
    | kind k | tag t | handle number id | tree number form => cases shape

/-- A value is the same key as a text only if it is that text. Looking up a text among values is
therefore looking it up among texts. -/
theorem beq_text_iff (v : Value) (s : String) : (v == .text s) = true ↔ v = .text s := by
  constructor
  · intro same
    have alike : Shape.alike v.shape (.text s) = true := (Bool.and_eq_true_iff.mp same).2
    apply eq_text_of_shape
    cases shape : v.shape with
    | text t =>
      rw [shape, Shape.alike, beq_iff_eq] at alike
      rw [alike]
    | null | number n | progression r | symbol family name form | handle number id
      | tree number form | list items | tuple items | mapping frozen entries
      | record name fields =>
      rw [shape] at alike
      simp [Shape.alike] at alike
  · rintro rfl
    change (_ == _ && Shape.alike _ _) = true
    rw [Shape.alike_self, beq_self_eq_true, Bool.and_self]

end Value

/-- A transition has the shape of a triple of its source, its label and its target. The label has
the shape of the number that it stands for. -/
theorem Value.shape_ofTransition (t : Transition String Label) :
    (ofTransition t).shape = .ofTransition t := by
  obtain ⟨source, value, target⟩ := t
  cases value <;> rfl

/-- A cell of an array with a name. -/
def cellValue (array : String) (indices : List Int) : Value :=
  .entity (.cell ⟨.text array, indices⟩)

/-- A cell has the shape of a record with its array and the tuple of its indices. -/
theorem shape_cellValue (array : String) (indices : List Int) :
    (cellValue array indices).shape = .record EntityClass.cell.name
      [("array_id", .text array), ("indices", .tuple (indices.map .ofInt))] :=
  rfl

/-- Cells of named arrays are equal when their arrays and their indices are. No number of another
type can stand for an index, since the indices of a cell are integers. -/
theorem cellValue_same (array other : String) (indices others : List Int) :
    (cellValue array indices).same (cellValue other others) = true ↔
      array = other ∧ indices = others := by
  rw [Value.same, shape_cellValue, shape_cellValue]
  simp [Shape.same, Shape.alike, Shape.alikeFields, Shape.alikeItems_ofInt]

/-- No text is equal to a cell, not even the name of the cell. -/
theorem text_same_cellValue (text array : String) (indices : List Int) :
    (Value.text text).same (cellValue array indices) = false := by
  rw [Value.same, shape_cellValue]
  simp [Shape.same, Value.shape, Shape.alike]

end Csp
