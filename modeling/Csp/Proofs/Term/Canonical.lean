import Csp.Proofs.Term.Name

/-!
# The canonical form of a name

A name is read as a term, and the term is written. What is written is read as
the same term, so it stands for all names of that term: two names are read as
equal terms exactly when the same is written for both. In particular no name
that stands for itself is written as a cell is, since that would be read as the
cell.

What is written for a name is the name unless the name is that of a cell, with
a newline at its end or with an index that is not a plain numeral. Where an
index has too many digits, the name is refused and nothing is written.
-/
namespace Csp.Term

/-- What is written for the term as which a name is read. -/
def rewritten (name : String) : Except Failure String := do
  (← (Value.text name).term).plain

/-- Two names are read as equal terms, or both are refused for one reason. Equality is that of
values. -/
def ReadAlike (name other : String) : Prop :=
  (∃ term termToo, (Value.text name).term = .ok term ∧ (Value.text other).term = .ok termToo ∧
      term.same termToo = true) ∨
    ∃ failure, (Value.text name).term = .error failure ∧ (Value.text other).term = .error failure

/-- A cell is a record and not a text, so it equals no text, not even the one that it is written
as. -/
theorem cellValue_same_text (array text : String) (indices : List Int) :
    (cellValue array indices).same (.text text) = false := by
  rw [Value.same, shape_cellValue]
  simp [Shape.same, Value.shape, Shape.alike]

/-- Texts are equal as values only if they are the same text. -/
theorem text_same_text (text other : String) :
    (Value.text text).same (.text other) = true ↔ text = other := by
  change Shape.alike (.text text) (.text other) = true ↔ _
  rw [Shape.alike, beq_iff_eq]

/-- Terms are equal only if they are the same. Equality of values adds nothing for terms. -/
theorem toValue_same_iff (term other : Term) :
    term.toValue.same other.toValue = true ↔ term = other := by
  cases other with
  | name text =>
    cases term with
    | name textToo => rw [toValue, toValue, text_same_text, name.injEq]
    | cell array places =>
      refine iff_of_false ?_ ?_
      · exact Bool.eq_false_iff.mp (cellValue_same_text array text (places.map Int.ofNat))
      · intro impossible
        cases impossible
  | cell array places =>
    refine (toValue_same_cellValue term array (places.map Int.ofNat)).trans ?_
    constructor
    · rintro ⟨others, rfl, same⟩
      have injective : Function.Injective Int.ofNat := fun _ _ => Int.ofNat.inj
      rw [List.map_injective_iff.mpr injective same]
    · rintro rfl
      exact ⟨places, rfl, rfl⟩

/-- What is written for a name is determined by the way in which the name is read. How the numerals
were spelled is forgotten. -/
theorem rewritten_of_cell {name array : String} {places : List Nat}
    (short : ∀ n ∈ places, (toString n).length ≤ Text.digitLimit)
    (read : (Value.text name).term = .ok (cellValue array (places.map Int.ofNat))) :
    rewritten name = .ok (cellName array (places.map Int.ofNat)) := by
  have written : (places.map Int.ofNat).all Text.hasNumeral = true := by
    rw [List.all_map, List.all_eq_true]
    exact fun n listed => hasNumeral_of_short (short n listed)
  rw [rewritten, read]
  exact (plain_cellValue array _).trans (if_pos written)

/-- A name that is no cell is written as it is. -/
theorem rewritten_of_itself {name : String} (read : (Value.text name).term = .ok (.text name)) :
    rewritten name = .ok name := by
  rw [rewritten, read]
  rfl

/-- A name that cannot be read is not rewritten, and the failure stays. -/
theorem rewritten_of_refused {name : String} {failure : Failure}
    (refused : (Value.text name).term = .error failure) : rewritten name = .error failure := by
  rw [rewritten, refused]
  rfl

namespace CellName

variable {name array ending : String} {numerals : List String} {indices : List Int}

/-- The indices of a cell that is named are natural numbers, none with too many digits. Their
numerals are no longer than those that were read. -/
theorem exists_places (numeral : ∀ text ∈ numerals, IsNumeral text)
    (values : List.Forall₂ (fun text index => Text.wholeNumber? text = some index) numerals
      indices) :
    ∃ places : List Nat, indices = places.map Int.ofNat ∧
      (∀ n ∈ places, (toString n).length ≤ Text.digitLimit) ∧
        ((∀ text ∈ numerals, IsPlain text) → places.map toString = numerals) := by
  induction values with
  | nil => exact ⟨[], rfl, List.forall_mem_nil _, fun _ => rfl⟩
  | cons denotes _ inductionHypothesis =>
    obtain ⟨first, others⟩ := List.forall_mem_cons.mp numeral
    obtain ⟨n, rfl, short, written⟩ := exists_of_wholeNumber? first denotes
    obtain ⟨places, rfl, shortToo, writtenToo⟩ := inductionHypothesis others
    refine ⟨n :: places, rfl, List.forall_mem_cons.mpr ⟨short, shortToo⟩, fun plain => ?_⟩
    obtain ⟨firstPlain, othersPlain⟩ := List.forall_mem_cons.mp plain
    rw [List.map_cons, written firstPlain, writtenToo othersPlain]

/-- The cell that is named is written in the same form, with the numerals of its indices. These are
the numerals of the name if those are plain. -/
theorem written (form : CellName name array numerals ending)
    (values : List.Forall₂ (fun text index => Text.wholeNumber? text = some index) numerals
      indices) :
    ∃ places : List Nat, indices = places.map Int.ofNat ∧
      (∀ n ∈ places, (toString n).length ≤ Text.digitLimit) ∧
      CellName (cellName array indices) array (places.map toString) "" ∧
        ((∀ text ∈ numerals, IsPlain text) → places.map toString = numerals) := by
  obtain ⟨places, rfl, short, written⟩ := exists_places form.numeral values
  refine ⟨places, rfl, short, ?_, written⟩
  constructor
  case named => exact form.named
  case noOpening => exact form.noOpening
  case noClosing => exact form.noClosing
  case indexed =>
    rintro none
    rw [List.map_eq_nil_iff.mp none] at values
    cases values
    exact form.indexed rfl
  case numeral =>
    intro text listed
    obtain ⟨n, _, rfl⟩ := List.mem_map.mp listed
    exact isNumeral_toString n
  case ended => exact .inl rfl
  case spelled =>
    rw [cellName, List.map_map, List.map_map, String.append_empty]
    rfl

end CellName

/-- What is written for a name is read as the name is. A cell is written with plain numerals, which
denote the same indices. -/
theorem term_of_rewritten (name : String) :
    (do (Value.text (← rewritten name)).term) = (Value.text name).term := by
  have readAs := readAs_term name
  generalize read : (Value.text name).term = outcome at readAs
  cases readAs with
  | refused form long =>
    rw [rewritten_of_refused read]
    rfl
  | itself other =>
    rw [rewritten_of_itself read]
    exact read
  | @cell array ending numerals indices form values =>
    obtain ⟨places, rfl, short, written, _⟩ := form.written values
    have denoted : List.Forall₂ (fun text index => Text.wholeNumber? text = some index)
        (places.map toString) (places.map Int.ofNat) := by
      rw [List.forall₂_map_left_iff, List.forall₂_map_right_iff, List.forall₂_same]
      exact fun n listed => wholeNumber?_toString (short n listed)
    rw [rewritten_of_cell short read]
    exact written.term_of_values denoted

/-- Whatever a name is read as is a term: the name itself or a cell. -/
theorem exists_term {name : String} {value : Value} (read : (Value.text name).term = .ok value) :
    ∃ term : Term, value = term.toValue := by
  rw [term_text] at read
  split at read
  · cases read
  · exact ⟨_, (Except.ok.inj read).symm⟩

/-- Names are read as equal terms exactly when the same is written for them. Two names of one cell
are written in the same way, and a name that is no cell is not written as one. -/
theorem readAlike_iff (name other : String) :
    ReadAlike name other ↔ rewritten name = rewritten other := by
  constructor
  · rintro (⟨term, termToo, read, readToo, same⟩ | ⟨failure, refused, refusedToo⟩)
    · obtain ⟨first, rfl⟩ := exists_term read
      obtain ⟨second, rfl⟩ := exists_term readToo
      rw [rewritten, rewritten, read, readToo, (toValue_same_iff first second).mp same]
    · rw [rewritten_of_refused refused, rewritten_of_refused refusedToo]
  · intro same
    have readSame : (Value.text name).term = (Value.text other).term := by
      rw [← term_of_rewritten name, same, term_of_rewritten other]
    cases read : (Value.text other).term with
    | error failure => exact .inr ⟨failure, readSame.trans read, read⟩
    | ok value =>
      obtain ⟨term, rfl⟩ := exists_term read
      exact .inl ⟨_, _, readSame.trans read, read, (toValue_same_iff term term).mpr rfl⟩

/-- A name is written as it is exactly if it stands for itself, or if all its numerals are plain and
none is too long, and there is no newline at its end. -/
theorem rewritten_eq_iff (name : String) :
    rewritten name = .ok name ↔
      (Value.text name).term = .ok (.text name) ∨
        ∃ array numerals, CellName name array numerals "" ∧
          ∀ text ∈ numerals, IsPlain text ∧ text.length ≤ Text.digitLimit := by
  constructor
  · intro same
    have readAs := readAs_term name
    generalize read : (Value.text name).term = outcome at readAs
    cases readAs with
    | refused form long =>
      rw [rewritten_of_refused read] at same
      cases same
    | itself other => exact .inl rfl
    | @cell array ending numerals indices form values =>
      obtain ⟨places, rfl, short, written, _⟩ := form.written values
      rw [rewritten_of_cell short read] at same
      rw [Except.ok.inj same] at written
      refine .inr ⟨array, places.map toString, written, fun text listed => ?_⟩
      obtain ⟨n, member, rfl⟩ := List.mem_map.mp listed
      exact ⟨isPlain_toString n, short n member⟩
  · rintro (itself | ⟨array, numerals, form, plain⟩)
    · exact rewritten_of_itself itself
    · have readAs := readAs_term name
      generalize read : (Value.text name).term = outcome at readAs
      cases readAs with
      | refused formToo long =>
        obtain ⟨_, rfl, _⟩ := form.unique formToo
        obtain ⟨text, listed, tooLong⟩ := long
        exact absurd (plain text listed).2 (Nat.not_le.mpr tooLong)
      | itself other => exact absurd form (other _ _ _)
      | @cell other ending numeralsToo indices formToo values =>
        obtain ⟨rfl, rfl, _⟩ := form.unique formToo
        obtain ⟨places, rfl, short, written, same⟩ := form.written values
        have writtenSame := same fun text listed => (plain text listed).1
        rw [writtenSame] at written
        rw [rewritten_of_cell short read, written.spelled, ← form.spelled]

/-- What is written for a name is a canonical form of it. It is read as the name is, it is the same
for two names exactly if they are read as equal terms, and it is the name itself exactly if that
stands for itself or is the name of a cell with plain numerals, none of them too long, and without
a newline at its end. -/
theorem canonical_form (name other : String) :
    (do (Value.text (← rewritten name)).term) = (Value.text name).term ∧
      (ReadAlike name other ↔ rewritten name = rewritten other) ∧
      (rewritten name = .ok name ↔
        (Value.text name).term = .ok (.text name) ∨
          ∃ array numerals, CellName name array numerals "" ∧
            ∀ text ∈ numerals, IsPlain text ∧ text.length ≤ Text.digitLimit) :=
  ⟨term_of_rewritten name, readAlike_iff name other, rewritten_eq_iff name⟩

/-- The name of a cell with a plain numeral that is too long is not written at all. It is refused
when it is read. -/
theorem canonical_form_refused :
    CellName ("x" ++ inBrackets (tooMany '1')) "x" [tooMany '1'] "" ∧ IsPlain (tooMany '1') ∧
      rewritten ("x" ++ inBrackets (tooMany '1')) ≠ .ok ("x" ++ inBrackets (tooMany '1')) := by
  obtain ⟨form, refused⟩ := refused_of_tooMany (c := '1') (by decide)
  refine ⟨form, ?_, ?_⟩
  · constructor
    · rw [tooMany, String.toList_ofList]
      intro c member
      rw [List.eq_of_mem_replicate member]
      decide
    · rw [tooMany, String.toList_ofList, List.replicate_succ, List.head?_cons]
      exact fun zero => absurd (Option.some.inj zero) (by decide)
  · rw [rewritten_of_refused refused]
    intro impossible
    cases impossible

end Csp.Term
