import Csp.Proofs.Equality
import Csp.Proofs.Refusal
import Csp.Proofs.Term.Groups
import Mathlib.Data.List.TakeWhile

/-!
# Cells by name

The name of a cell is written by one rule and taken apart by another. The two
agree on the ordinary cells: those of an array that has a name without brackets,
with at least one index and no negative one. The name of any other cell is read
as something else. A bracket in the name of the array would end it too early,
and a sign is no digit.
-/
namespace Csp.Term

/-- An array with a name in which there is no bracket, and at least one index, none of which is
negative. -/
structure Ordinary (array : String) (indices : List Int) : Prop where
  named : array ≠ ""
  noOpening : '[' ∉ array.toList
  noClosing : ']' ∉ array.toList
  indexed : indices ≠ []
  nonnegative : ∀ index ∈ indices, 0 ≤ index

/-- The name of a cell: the array, and the numerals of the indices in brackets. -/
def cellName (array : String) (indices : List Int) : String :=
  array ++ String.join (indices.map fun index => inBrackets (toString index))

/-- The plain text of a cell is its name, unless an index has too many digits. The name of the array
is put in front as it is, with its brackets if it has any. -/
theorem plain_cellValue (array : String) (indices : List Int) :
    (cellValue array indices).plain =
      if indices.all Text.hasNumeral then .ok (cellName array indices)
      else .error .badNumeral := by
  have brackets : indices.mapM bracketed =
      if indices.all Text.hasNumeral
      then .ok (indices.map fun index => inBrackets (toString index))
      else .error .badNumeral := by
    induction indices with
    | nil => rfl
    | cons index rest inductionHypothesis =>
      rw [List.mapM_cons, inductionHypothesis, bracketed, List.all_cons]
      cases written : Text.hasNumeral index with
      | false =>
        rw [numeral_of_long written]
        rfl
      | true =>
        rw [numeral_of_short written, Bool.true_and]
        split <;> rfl
  change (do
    let texts ← indices.mapM bracketed
    return array ++ String.join texts : Except Failure String) = _
  rw [brackets]
  split <;> rfl

/-- The two brackets are all that ends the name of an array. -/
theorem not_isBracket_iff {c : Char} : (!isBracket c) = true ↔ c ≠ '[' ∧ c ≠ ']' := by
  simp [isBracket]

/-- The name of an ordinary cell is therefore read to its end. -/
theorem Ordinary.not_isBracket {array : String} {indices : List Int}
    (ordinary : Ordinary array indices) : ∀ c ∈ array.toList, (!isBracket c) = true := by
  intro c member
  rw [not_isBracket_iff]
  constructor
  · rintro rfl
    exact ordinary.noOpening member
  · rintro rfl
    exact ordinary.noClosing member

/-- A name comes apart where the first bracket stands, if that opens the first of some groups. All
before that bracket belongs to the array. -/
theorem parts?_of_groups {name : String} {array : List Char} {after : List Char}
    {digits : List Nat} {others : List (List Nat)} (split : name.toList = array ++ '[' :: after)
    (plain : ∀ c ∈ array, (!isBracket c) = true) (filled : array ≠ [])
    (read : groups? ('[' :: after) = some (digits :: others)) :
    parts? name = some (.ofList array, digits :: others) := by
  have before : name.toList.takeWhile (!isBracket ·) = array := by
    rw [split, List.takeWhile_append_of_pos plain]
    simp [isBracket]
  have behind : name.toList.dropWhile (!isBracket ·) = '[' :: after := by
    rw [split, List.dropWhile_append_of_pos plain]
    simp [isBracket]
  simp only [parts?, before, behind, read, List.isEmpty_eq_false_iff.mpr filled,
    Bool.false_eq_true, if_false]

/-- A name comes apart only into an array without brackets, and at least one group. Otherwise it
stays one piece. -/
theorem parts?_eq_some {name array : String} {groups : List (List Nat)}
    (apart : parts? name = some (array, groups)) :
    array ≠ "" ∧ (∀ c ∈ array.toList, (!isBracket c) = true) ∧ groups ≠ [] := by
  simp only [parts?] at apart
  split at apart
  · split at apart
    · cases apart
    · rename_i filled
      cases apart
      refine ⟨?_, ?_, List.cons_ne_nil _ _⟩
      · rintro empty
        rw [String.ofList_eq_empty_iff] at empty
        exact filled (by rw [empty]; rfl)
      · intro c member
        rw [String.toList_ofList] at member
        have passed := List.mem_takeWhile_imp member
        exact passed
  · cases apart

/-- The name of an ordinary cell comes apart into its array and the digits of its indices. -/
theorem parts?_cellName {array : String} {indices : List Nat}
    (ordinary : Ordinary array (indices.map Int.ofNat)) :
    ∃ groups, parts? (cellName array (indices.map Int.ofNat)) = some (array, groups) ∧
      groups.map index = indices ∧
        groups.map List.length = indices.map fun i => (toString i).length := by
  obtain ⟨groups, read, values, lengths⟩ := groups?_inBrackets indices
  refine ⟨groups, ?_, values, lengths⟩
  cases indices with
  | nil => exact absurd rfl ordinary.indexed
  | cons first rest =>
    obtain ⟨digits, others, rfl⟩ : ∃ digits others, groups = digits :: others := by
      cases groups with
      | nil => cases values
      | cons digits others => exact ⟨digits, others, rfl⟩
    rw [List.map_cons, List.flatMap_cons, toList_inBrackets, List.cons_append] at read
    have filled : array.toList ≠ [] := mt String.toList_eq_nil_iff.mp ordinary.named
    have split : (cellName array ((first :: rest).map Int.ofNat)).toList = array.toList ++
        '[' :: (Nat.toDigits 10 first ++ [']'] ++
          (rest.map fun i => inBrackets (toString (Int.ofNat i))).flatMap String.toList) := by
      rw [cellName, String.toList_append, String.toList_join, List.map_map, List.map_cons,
        List.flatMap_cons, Function.comp_apply, toList_inBrackets, List.cons_append]
      rfl
    rw [parts?_of_groups split ordinary.not_isBracket filled read, String.ofList_toList]

/-- The name of an ordinary cell stands for that cell. -/
theorem ofName_cellName {array : String} {indices : List Nat}
    (ordinary : Ordinary array (indices.map Int.ofNat)) :
    ofName (cellName array (indices.map Int.ofNat)) = .cell array indices := by
  obtain ⟨groups, apart, values, _⟩ := parts?_cellName ordinary
  rw [ofName, apart, ← values]

/-- What is too long is an index with too many digits. The length of the array does not count. -/
theorem isTooLong_cellName {array : String} {indices : List Nat}
    (ordinary : Ordinary array (indices.map Int.ofNat))
    (short : ∀ i ∈ indices, (toString i).length ≤ Text.digitLimit) :
    isTooLong (cellName array (indices.map Int.ofNat)) = false := by
  obtain ⟨groups, apart, _, lengths⟩ := parts?_cellName ordinary
  simp only [isTooLong, apart, List.any_eq_false, decide_eq_true_eq, Nat.not_lt]
  intro digits member
  have listed : digits.length ∈ groups.map List.length := List.mem_map_of_mem member
  rw [lengths] at listed
  obtain ⟨i, known, length⟩ := List.mem_map.mp listed
  rw [← length]
  exact short i known

/-- A name that stands for a cell stands for one of an array that has a name without brackets, with
an index. -/
theorem ordinary_of_ofName {name array : String} {indices : List Nat}
    (stands : ofName name = .cell array indices) : Ordinary array (indices.map Int.ofNat) := by
  rw [ofName] at stands
  split at stands
  · rename_i apart
    cases stands
    obtain ⟨named, plain, filled⟩ := parts?_eq_some apart
    constructor
    case named => exact named
    case noOpening => exact fun member => (not_isBracket_iff.mp (plain _ member)).1 rfl
    case noClosing => exact fun member => (not_isBracket_iff.mp (plain _ member)).2 rfl
    case indexed => simpa using filled
    case nonnegative =>
      intro i member
      obtain ⟨n, _, rfl⟩ := List.mem_map.mp member
      exact Int.natCast_nonneg n
  · cases stands

/-- A term is equal to a cell only if it is one. The name itself is a text and no cell. -/
theorem toValue_same_cellValue (term : Term) (array : String) (indices : List Int) :
    term.toValue.same (cellValue array indices) = true ↔
      ∃ places, term = .cell array places ∧ indices = places.map Int.ofNat := by
  cases term with
  | name text =>
    rw [toValue, text_same_cellValue]
    simp
  | cell other places =>
    have cells : (Term.cell other places).toValue = cellValue other (places.map Int.ofNat) := rfl
    rw [cells, cellValue_same]
    constructor
    · rintro ⟨rfl, rfl⟩
      exact ⟨places, rfl, rfl⟩
    · rintro ⟨_, same, rfl⟩
      cases same
      exact ⟨rfl, rfl⟩

/-- Indices that are not negative are natural numbers. -/
theorem Ordinary.exists_places {array : String} {indices : List Int}
    (ordinary : Ordinary array indices) : ∃ places : List Nat, indices = places.map Int.ofNat := by
  refine ⟨indices.map Int.toNat, ?_⟩
  calc indices = indices.map id := (List.map_id indices).symm
    _ = indices.map (Int.ofNat ∘ Int.toNat) := List.map_congr_left fun index member =>
        (Int.toNat_of_nonneg (ordinary.nonnegative index member)).symm
    _ = (indices.map Int.toNat).map Int.ofNat := List.map_map.symm

/-- The name of a cell stands for that cell exactly when the cell is ordinary. Where it is not, the
name is taken apart in another way or not at all. -/
theorem ofName_cellName_same_iff (array : String) (indices : List Int) :
    (ofName (cellName array indices)).toValue.same (cellValue array indices) = true ↔
      Ordinary array indices := by
  rw [toValue_same_cellValue]
  constructor
  · rintro ⟨places, stands, rfl⟩
    exact ordinary_of_ofName stands
  · intro ordinary
    obtain ⟨places, rfl⟩ := ordinary.exists_places
    exact ⟨places, ofName_cellName ordinary, rfl⟩

/-- The name of a cell, as a text of its own, read as a term. -/
def reread (array : String) (indices : List Int) : Except Failure Value := do
  (Value.text (← (cellValue array indices).plain)).term

/-- The limit on the digits of what is written is that on the digits of a numeral. -/
theorem hasNumeral_of_short {index : Int}
    (short : (toString index.natAbs).length ≤ Text.digitLimit) : Text.hasNumeral index = true := by
  rw [Nat.toString_eq_repr, ← String.length_toList, Nat.toList_repr] at short
  exact decide_eq_true short

/-- If no index has too many digits, then the cell is written. Reading the name can still fail,
since the name of the array may have brackets with digits of its own. -/
theorem reread_of_short {array : String} {indices : List Int}
    (short : ∀ index ∈ indices, (toString index.natAbs).length ≤ Text.digitLimit) :
    reread array indices =
      if isTooLong (cellName array indices) then .error .badNumeral
      else .ok (ofName (cellName array indices)).toValue := by
  have written : indices.all Text.hasNumeral = true :=
    List.all_eq_true.mpr fun index listed => hasNumeral_of_short (short index listed)
  rw [reread, plain_cellValue, if_pos written]
  change (do return (← read (cellName array indices)).toValue : Except Failure Value) = _
  rw [read]
  split <;> rfl

/-- The name of a cell is read back as the cell exactly if the cell is ordinary. This is so of the
term for which the name stands, however long its numerals are, and it is so of the term that is
read when no index is too long for a numeral. -/
theorem read_back_iff_ordinary (array : String) (indices : List Int) :
    ((ofName (cellName array indices)).toValue.same (cellValue array indices) = true ↔
        Ordinary array indices) ∧
      ((∀ index ∈ indices, (toString index.natAbs).length ≤ Text.digitLimit) →
        ((∃ term, reread array indices = .ok term ∧
            term.same (cellValue array indices) = true) ↔ Ordinary array indices)) := by
  refine ⟨ofName_cellName_same_iff array indices, fun short => ?_⟩
  rw [reread_of_short short]
  constructor
  · rintro ⟨term, read, same⟩
    split at read
    · cases read
    · cases read
      exact (ofName_cellName_same_iff array indices).mp same
  · intro ordinary
    have same := (ofName_cellName_same_iff array indices).mpr ordinary
    obtain ⟨places, rfl⟩ := ordinary.exists_places
    have limited : ∀ i ∈ places, (toString i).length ≤ Text.digitLimit := fun i member =>
      short i (List.mem_map_of_mem member)
    exact ⟨_, if_neg (Bool.eq_false_iff.mp (isTooLong_cellName ordinary limited)), same⟩

/-- A name with a blank and a newline in it, which is no newline at the end of a cell's name, and an
index that is zero. -/
theorem read_back_spaced :
    (∀ index ∈ [0, (107 : Int)], (toString index.natAbs).length ≤ Text.digitLimit) ∧
      ∃ term, reread "x y\n" [0, 107] = .ok term ∧
        term.same (cellValue "x y\n" [0, 107]) = true := by
  have short : ∀ index ∈ [0, (107 : Int)], (toString index.natAbs).length ≤ Text.digitLimit := by
    decide
  have ordinary : Ordinary "x y\n" [0, 107] := by constructor <;> decide
  exact ⟨short, ((read_back_iff_ordinary _ _).2 short).mpr ordinary⟩

/-- An array that looks like a cell itself takes the index on. -/
example : ofName (cellName "x[1]" [2]) = .cell "x" [1, 2] := by decide +kernel

end Csp.Term
