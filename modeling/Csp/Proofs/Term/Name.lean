import Csp.Proofs.Term.Cell
import Csp.Proofs.Term.Numeral

/-!
# Names of cells

A name is that of a cell if it is the name of an array without brackets followed
by numerals in brackets, of which there is at least one, and then by nothing or
by one newline. A name has this form in one way at most. It is read as the cell
of the array whose indices are the numbers that the numerals denote, in their
order, and a name of any other form is read as it stands.

The form alone does not suffice, because a numeral with too many digits denotes
no number. A name of this form with such a numeral is refused.
-/
namespace Csp.Term

/-- A name is an array without brackets, then numerals in brackets, then an ending. The ending is a
line break at most. -/
structure CellName (name array : String) (numerals : List String) (ending : String) : Prop where
  named : array ≠ ""
  noOpening : '[' ∉ array.toList
  noClosing : ']' ∉ array.toList
  indexed : numerals ≠ []
  numeral : ∀ text ∈ numerals, IsNumeral text
  ended : ending = "" ∨ ending = "\n"
  spelled : name = array ++ String.join (numerals.map inBrackets) ++ ending

/-- What a name is read as, told by its form. -/
inductive ReadAs (name : String) : Except Failure Value → Prop where
  | cell {array ending : String} {numerals : List String} {indices : List Int}
      (form : CellName name array numerals ending)
      (values : List.Forall₂ (fun text index => Text.wholeNumber? text = some index)
        numerals indices) :
      ReadAs name (.ok (cellValue array indices))
  | refused {array ending : String} {numerals : List String}
      (form : CellName name array numerals ending)
      (long : ∃ text ∈ numerals, Text.digitLimit < text.length) :
      ReadAs name (.error .badNumeral)
  | itself (other : ∀ array numerals ending, ¬ CellName name array numerals ending) :
      ReadAs name (.ok (.text name))

/-- The digits of a group, the last one first, are those of a numeral. -/
def Groups (numerals : List (List Char)) (groups : List (List Nat)) : Prop :=
  List.Forall₂ (fun chars digits => chars ≠ [] ∧ Spells chars digits.reverse) numerals groups

/-- What stands between two brackets of a group is a numeral. It has a digit at least. -/
theorem Groups.isNumeral {numerals : List (List Char)} {groups : List (List Nat)}
    (grouped : Groups numerals groups) : ∀ chars ∈ numerals, IsNumeral (.ofList chars) := by
  unfold Groups at grouped
  induction grouped with
  | nil => exact List.forall_mem_nil _
  | cons group _ inductionHypothesis =>
    refine List.forall_mem_cons.mpr ⟨?_, inductionHypothesis⟩
    constructor
    case filled => exact mt String.ofList_eq_empty_iff.mp group.1
    case digits =>
      rw [String.toList_ofList]
      exact group.2.isDigit

/-- Numerals in brackets as characters. -/
def bracketedChars (numerals : List (List Char)) : List Char :=
  numerals.flatMap fun chars => '[' :: (chars ++ [']'])

/-- What may follow the last group. -/
def IsEnding (chars : List Char) : Prop := chars = [] ∨ chars = ['\n']

/-- From the middle of a group on, digits are read up to a bracket that closes the group. Nothing
but digits can stand in between. -/
theorem group?_eq_some {before : List Nat} {chars : List Char} {groups : List (List Nat)}
    (read : group? before chars = some groups) :
    ∃ inside digits rest others, chars = inside ++ ']' :: rest ∧ Spells inside digits ∧
      groups? rest = some others ∧ groups = (digits.reverse ++ before) :: others := by
  induction chars generalizing before with
  | nil => cases read
  | cons c rest inductionHypothesis =>
    by_cases closing : c = ']'
    · subst closing
      obtain ⟨others, following, rfl⟩ := Option.map_eq_some_iff.mp read
      exact ⟨[], [], rest, others, rfl, .nil, following, rfl⟩
    · rw [group?] at read
      · obtain ⟨digit, value, read⟩ := Option.bind_eq_some_iff.mp read
        obtain ⟨inside, digits, rest, others, rfl, spelled, following, rfl⟩ :=
          inductionHypothesis read
        refine ⟨c :: inside, digit :: digits, rest, others, rfl, .cons value spelled, following, ?_⟩
        rw [List.reverse_cons, List.append_assoc, List.singleton_append]
      · exact closing

/-- Groups are read one at a time, up to the ending. The ending is where the reading stops, and
anything else is refused. -/
theorem groups?_cases {chars : List Char} {groups : List (List Nat)}
    (read : groups? chars = some groups) :
    (groups = [] ∧ IsEnding chars) ∨
      ∃ inside digits rest others, chars = '[' :: (inside ++ ']' :: rest) ∧ inside ≠ [] ∧
        Spells inside digits ∧ groups? rest = some others ∧ groups = digits.reverse :: others := by
  revert read
  fun_cases groups? chars with
  | case1 =>
    intro read
    cases read
    exact .inl ⟨rfl, .inl rfl⟩
  | case2 =>
    intro read
    cases read
    exact .inl ⟨rfl, .inr rfl⟩
  | case3 digit rest =>
    intro read
    obtain ⟨first, value, read⟩ := Option.bind_eq_some_iff.mp read
    obtain ⟨inside, digits, rest, others, rfl, spelled, following, rfl⟩ := group?_eq_some read
    refine .inr ⟨digit :: inside, first :: digits, rest, others, rfl, List.cons_ne_nil _ _,
      .cons value spelled, following, ?_⟩
    rw [List.reverse_cons]
  | case4 =>
    intro impossible
    cases impossible

/-- Whatever is read as groups consists of numerals in brackets. The induction is on the characters,
of which each group takes some away. -/
theorem groups?_eq_some {chars : List Char} {groups : List (List Nat)}
    (read : groups? chars = some groups) :
    ∃ numerals ending, Groups numerals groups ∧ IsEnding ending ∧
      chars = bracketedChars numerals ++ ending := by
  induction groups generalizing chars with
  | nil =>
    rcases groups?_cases read with ⟨_, ending⟩ | ⟨_, _, _, _, _, _, _, _, impossible⟩
    · exact ⟨[], chars, .nil, ending, rfl⟩
    · cases impossible
  | cons group groups inductionHypothesis =>
    rcases groups?_cases read with ⟨impossible, _⟩ |
      ⟨inside, digits, rest, others, rfl, filled, spelled, following, same⟩
    · cases impossible
    · cases same
      obtain ⟨numerals, ending, grouped, ends, rfl⟩ := inductionHypothesis following
      rw [← List.reverse_reverse digits] at spelled
      refine ⟨inside :: numerals, ending, .cons ⟨filled, spelled⟩ grouped, ends, ?_⟩
      simp [bracketedChars]

/-- Numerals in brackets are read as groups. -/
theorem groups?_of_groups {numerals : List (List Char)} {groups : List (List Nat)}
    {ending : List Char} (grouped : Groups numerals groups) (ends : IsEnding ending) :
    groups? (bracketedChars numerals ++ ending) = some groups := by
  unfold Groups at grouped
  induction grouped with
  | nil => rcases ends with rfl | rfl <;> rfl
  | @cons chars digits numerals groups group _ inductionHypothesis =>
    obtain ⟨filled, spelled⟩ := group
    have split : bracketedChars (chars :: numerals) ++ ending =
        '[' :: (chars ++ ']' :: (bracketedChars numerals ++ ending)) := by simp [bracketedChars]
    rw [split, groups?_of_spells spelled filled, inductionHypothesis, Option.map_some,
      List.reverse_reverse]

/-- The texts of the groups are put one behind the other, with nothing in between. -/
theorem toList_join_inBrackets (numerals : List String) :
    (String.join (numerals.map inBrackets)).toList =
      bracketedChars (numerals.map String.toList) := by
  rw [String.toList_join, List.flatMap_map, bracketedChars, List.flatMap_map]
  congr 1
  funext text
  rw [inBrackets, String.toList_append, String.toList_append]
  rfl

/-- The digits of each numeral, the last one first. -/
def Spelled (numerals : List String) (groups : List (List Nat)) : Prop :=
  List.Forall₂ (fun text digits => Spells text.toList digits.reverse) numerals groups

/-- A name that comes apart does so into an array and what its groups are read from. The array is
all in front of the first bracket. -/
theorem parts?_split {name array : String} {groups : List (List Nat)}
    (apart : parts? name = some (array, groups)) :
    ∃ rest, name.toList = array.toList ++ rest ∧ groups? rest = some groups := by
  simp only [parts?] at apart
  split at apart
  · rename_i read
    split at apart
    · cases apart
    · cases apart
      refine ⟨_, ?_, read⟩
      rw [String.toList_ofList, List.takeWhile_append_dropWhile]
  · cases apart

/-- What follows the last group is nothing or one line break. -/
theorem CellName.isEnding {name array ending : String} {numerals : List String}
    (form : CellName name array numerals ending) : IsEnding ending.toList := by
  rcases form.ended with rfl | rfl
  · exact .inl rfl
  · exact .inr rfl

/-- The name of a cell comes apart into its array and the digits of its numerals. -/
theorem CellName.parts? {name array ending : String} {numerals : List String}
    (form : CellName name array numerals ending) :
    ∃ groups, Term.parts? name = some (array, groups) ∧ Spelled numerals groups := by
  have each : ∀ text ∈ numerals, ∃ digits, Spells text.toList digits := fun text listed =>
    (form.numeral text listed).exists_spells
  choose! digits spelled using each
  refine ⟨numerals.map fun text => (digits text).reverse, ?_, ?_⟩
  · have grouped : Groups (numerals.map String.toList)
        (numerals.map fun text => (digits text).reverse) := by
      rw [Groups, List.forall₂_map_left_iff, List.forall₂_map_right_iff, List.forall₂_same]
      intro text listed
      rw [List.reverse_reverse]
      exact ⟨(form.numeral text listed).toList_ne_nil, spelled text listed⟩
    have read := groups?_of_groups grouped form.isEnding
    have split : name.toList = array.toList ++
        (bracketedChars (numerals.map String.toList) ++ ending.toList) := by
      rw [form.spelled, String.toList_append, String.toList_append, toList_join_inBrackets,
        List.append_assoc]
    have plain : ∀ c ∈ array.toList, (!isBracket c) = true := by
      intro c member
      rw [not_isBracket_iff]
      constructor
      · rintro rfl
        exact form.noOpening member
      · rintro rfl
        exact form.noClosing member
    have filled : array.toList ≠ [] := mt String.toList_eq_nil_iff.mp form.named
    obtain ⟨first, others, rfl⟩ := List.exists_cons_of_ne_nil form.indexed
    rw [List.map_cons] at read
    rw [parts?_of_groups split plain filled read, String.ofList_toList]
    rfl
  · rw [Spelled, List.forall₂_map_right_iff, List.forall₂_same]
    intro text listed
    rw [List.reverse_reverse]
    exact spelled text listed

/-- A name that comes apart is that of a cell. Together with the other direction, this says that
names come apart exactly if they have the form. -/
theorem cellName_of_parts? {name array : String} {groups : List (List Nat)}
    (apart : Term.parts? name = some (array, groups)) :
    ∃ numerals ending, CellName name array numerals ending ∧ Spelled numerals groups := by
  obtain ⟨named, plain, indexed⟩ := parts?_eq_some apart
  obtain ⟨rest, split, read⟩ := parts?_split apart
  obtain ⟨numerals, ending, grouped, ends, rfl⟩ := groups?_eq_some read
  refine ⟨numerals.map String.ofList, .ofList ending, ?_, ?_⟩
  · constructor
    case named => exact named
    case noOpening => exact fun member => (not_isBracket_iff.mp (plain _ member)).1 rfl
    case noClosing => exact fun member => (not_isBracket_iff.mp (plain _ member)).2 rfl
    case indexed =>
      rintro none
      rw [List.map_eq_nil_iff.mp none] at grouped
      cases grouped
      exact indexed rfl
    case numeral =>
      intro text listed
      obtain ⟨chars, member, rfl⟩ := List.mem_map.mp listed
      exact grouped.isNumeral chars member
    case ended => rcases ends with rfl | rfl <;> simp
    case spelled =>
      rw [← String.toList_inj, String.toList_append, String.toList_append, toList_join_inBrackets,
        List.map_map, split, List.append_assoc, String.toList_ofList]
      simp [Function.comp_def]
  · rw [Spelled, List.forall₂_map_left_iff]
    refine List.Forall₂.imp (fun chars digits group => ?_) grouped
    rw [String.toList_ofList]
    exact group.2

/-- A text is read as the term that it names, unless an index is too long. The limit is tested after
the name has been taken apart. -/
theorem term_text (name : String) :
    (Value.text name).term =
      if isTooLong name then .error .badNumeral else .ok (ofName name).toValue := by
  change (do return (← read name).toValue : Except Failure Value) = _
  rw [read]
  split <;> rfl

/-- A name that can be taken apart is read as a cell, or it is refused because some group has too
many digits. The digits are counted before their value is asked for. -/
theorem term_of_parts? {name array : String} {groups : List (List Nat)}
    (apart : Term.parts? name = some (array, groups)) :
    (Value.text name).term =
      if groups.any (Text.digitLimit < ·.length) then .error .badNumeral
      else .ok (cellValue array (groups.map fun digits => Int.ofNat (index digits))) := by
  have cell : (ofName name).toValue =
      cellValue array (groups.map fun digits => Int.ofNat (index digits)) := by
    simp only [ofName, apart, toValue, cellValue, List.map_map, Function.comp_def]
  rw [term_text, cell]
  simp only [isTooLong, apart]

/-- A name that cannot be taken apart stays a text. This is not an error. -/
theorem term_of_parts?_eq_none {name : String} (whole : Term.parts? name = none) :
    (Value.text name).term = .ok (.text name) := by
  rw [term_text]
  simp [isTooLong, ofName, whole, toValue]

section Values

variable {numerals : List String} {groups : List (List Nat)}

/-- A group has too many digits exactly if the text of its numeral is too long, since each digit is
one character. -/
theorem Spelled.long_iff (spelled : Spelled numerals groups) :
    groups.any (Text.digitLimit < ·.length) = true ↔
      ∃ text ∈ numerals, Text.digitLimit < text.length := by
  unfold Spelled at spelled
  induction spelled with
  | nil => simp
  | @cons text digits _ _ first _ inductionHypothesis =>
    have length : text.length = digits.length := by
      rw [← String.length_toList, first.length_eq, List.length_reverse]
    rw [List.any_cons, Bool.or_eq_true, decide_eq_true_eq, inductionHypothesis,
      List.exists_mem_cons_iff, length]

/-- Without too many digits, numerals denote the numbers that their digits make. Leading zeros and
the script of the digits make no difference to these. -/
theorem Spelled.values (spelled : Spelled numerals groups)
    (numeral : ∀ text ∈ numerals, IsNumeral text)
    (short : ∀ text ∈ numerals, text.length ≤ Text.digitLimit) :
    List.Forall₂ (fun text index => Text.wholeNumber? text = some index) numerals
      (groups.map fun digits => Int.ofNat (index digits)) := by
  rw [List.forall₂_map_right_iff]
  unfold Spelled at spelled
  induction spelled with
  | nil => exact .nil
  | @cons text digits _ _ first _ inductionHypothesis =>
    obtain ⟨firstNumeral, otherNumerals⟩ := List.forall_mem_cons.mp numeral
    obtain ⟨firstShort, othersShort⟩ := List.forall_mem_cons.mp short
    refine .cons ?_ (inductionHypothesis otherNumerals othersShort)
    rw [← String.length_toList, first.length_eq] at firstShort
    rw [wholeNumber?_of_spells firstNumeral first, if_pos firstShort, List.reverse_reverse]
    rfl

/-- Numerals that denote numbers have not too many digits. The limit counts leading zeros as
well. -/
theorem short_of_values {indices : List Int} (numeral : ∀ text ∈ numerals, IsNumeral text)
    (values : List.Forall₂ (fun text index => Text.wholeNumber? text = some index) numerals
      indices) : ∀ text ∈ numerals, text.length ≤ Text.digitLimit := by
  induction values with
  | nil => exact List.forall_mem_nil _
  | cons denotes _ inductionHypothesis =>
    obtain ⟨first, others⟩ := List.forall_mem_cons.mp numeral
    exact List.forall_mem_cons.mpr
      ⟨short_of_wholeNumber? first denotes, inductionHypothesis others⟩

end Values

namespace CellName

variable {name array ending : String} {numerals : List String}

/-- A name in the form of a cell is refused if some numeral of it is too long. -/
theorem term_of_long (form : CellName name array numerals ending)
    (long : ∃ text ∈ numerals, Text.digitLimit < text.length) :
    (Value.text name).term = .error .badNumeral := by
  obtain ⟨groups, apart, spelled⟩ := form.parts?
  rw [term_of_parts? apart, if_pos (spelled.long_iff.mpr long)]

/-- The name of a cell is read as the cell with the numbers that its numerals denote. -/
theorem term_of_values (form : CellName name array numerals ending) {indices : List Int}
    (values : List.Forall₂ (fun text index => Text.wholeNumber? text = some index) numerals
      indices) : (Value.text name).term = .ok (cellValue array indices) := by
  obtain ⟨groups, apart, spelled⟩ := form.parts?
  have short := short_of_values form.numeral values
  have noneLong : ¬ ∃ text ∈ numerals, Text.digitLimit < text.length := by
    rintro ⟨text, listed, long⟩
    exact absurd (short text listed) (Nat.not_le.mpr long)
  have functional : Relator.RightUnique
      fun (text : String) (index : Int) => Text.wholeNumber? text = some index := by
    intro text index other denotes denotesToo
    exact Option.some.inj (denotes.symm.trans denotesToo)
  rw [term_of_parts? apart, if_neg (mt spelled.long_iff.mp noneLong),
    List.right_unique_forall₂' functional values (spelled.values form.numeral short)]

end CellName

section Unique

/-- Up to the first place of a character, two equal lists agree. -/
theorem append_cons_inj {α : Type} {item : α} {before other after behind : List α}
    (absent : item ∉ before) (absentToo : item ∉ other)
    (same : before ++ item :: after = other ++ item :: behind) :
    before = other ∧ after = behind := by
  induction before generalizing other with
  | nil =>
    cases other with
    | nil => exact ⟨rfl, (List.cons.inj same).2⟩
    | cons first rest =>
      cases same
      exact absurd List.mem_cons_self absentToo
  | cons first rest inductionHypothesis =>
    cases other with
    | nil =>
      cases same
      exact absurd List.mem_cons_self absent
    | cons firstToo restToo =>
      obtain ⟨rfl, sameRest⟩ := List.cons.inj same
      obtain ⟨rfl, rfl⟩ := inductionHypothesis (mt (List.mem_cons_of_mem _) absent)
        (mt (List.mem_cons_of_mem _) absentToo) sameRest
      exact ⟨rfl, rfl⟩

/-- A numeral holds no closing bracket, so the first one after it ends the group. -/
theorem IsNumeral.noClosing {text : String} (numeral : IsNumeral text) : ']' ∉ text.toList := by
  intro member
  have digit := numeral.digits _ member
  revert digit
  decide

/-- Numerals in brackets can be told apart from each other and from the ending. The brackets mark
where each of them ends. -/
theorem bracketedChars_inj {numerals others : List String} {ending final : List Char}
    (numeral : ∀ text ∈ numerals, IsNumeral text) (numeralToo : ∀ text ∈ others, IsNumeral text)
    (ends : IsEnding ending) (endsToo : IsEnding final)
    (same : bracketedChars (numerals.map String.toList) ++ ending =
      bracketedChars (others.map String.toList) ++ final) : numerals = others ∧ ending = final := by
  have opened (text : String) (rest : List String) (ending : List Char) :
      bracketedChars ((text :: rest).map String.toList) ++ ending =
        '[' :: (text.toList ++ ']' :: (bracketedChars (rest.map String.toList) ++ ending)) := by
    simp [bracketedChars]
  induction numerals generalizing others with
  | nil =>
    cases others with
    | nil => exact ⟨rfl, same⟩
    | cons text rest =>
      rw [opened] at same
      rcases ends with rfl | rfl <;> cases same
  | cons text rest inductionHypothesis =>
    cases others with
    | nil =>
      rw [opened] at same
      rcases endsToo with rfl | rfl <;> cases same
    | cons textToo restToo =>
      obtain ⟨first, later⟩ := List.forall_mem_cons.mp numeral
      obtain ⟨firstToo, laterToo⟩ := List.forall_mem_cons.mp numeralToo
      rw [opened, opened] at same
      obtain ⟨sameText, sameRest⟩ :=
        append_cons_inj first.noClosing firstToo.noClosing (List.cons.inj same).2
      obtain ⟨rfl, rfl⟩ := inductionHypothesis later laterToo sameRest
      rw [String.toList_inj] at sameText
      exact ⟨by rw [sameText], rfl⟩

/-- A name has the form of the name of a cell in one way at most. So the indices that are read are
determined by the name. -/
theorem CellName.unique {name array other ending final : String} {numerals others : List String}
    (form : CellName name array numerals ending) (formToo : CellName name other others final) :
    array = other ∧ numerals = others ∧ ending = final := by
  obtain ⟨_, apart, _⟩ := form.parts?
  obtain ⟨_, apartToo, _⟩ := formToo.parts?
  rw [apart] at apartToo
  cases apartToo
  have same := form.spelled.symm.trans formToo.spelled
  rw [← String.toList_inj] at same
  simp only [String.toList_append, toList_join_inBrackets, List.append_assoc,
    List.append_cancel_left_eq] at same
  obtain ⟨rfl, sameEnding⟩ :=
    bracketedChars_inj form.numeral formToo.numeral form.isEnding formToo.isEnding same
  exact ⟨rfl, rfl, String.toList_inj.mp sameEnding⟩

end Unique

/-- Every name is read in one of the three ways. The three exclude each other. -/
theorem readAs_term (name : String) : ReadAs name (Value.text name).term := by
  cases apart : Term.parts? name with
  | none =>
    rw [term_of_parts?_eq_none apart]
    refine .itself fun array numerals ending form => ?_
    obtain ⟨groups, apartToo, _⟩ := form.parts?
    rw [apart] at apartToo
    cases apartToo
  | some parts =>
    obtain ⟨array, groups⟩ := parts
    obtain ⟨numerals, ending, form, spelled⟩ := cellName_of_parts? apart
    by_cases long : ∃ text ∈ numerals, Text.digitLimit < text.length
    · rw [form.term_of_long long]
      exact .refused form long
    · push Not at long
      have values := spelled.values form.numeral long
      rw [form.term_of_values values]
      exact .cell form values

/-- What a name is read as is told by its form, and the form tells it of every name. The proof reads
the name in one direction and uses in the other one that it is read in one way only. -/
theorem term_eq_iff_readAs (name : String) (outcome : Except Failure Value) :
    (Value.text name).term = outcome ↔ ReadAs name outcome := by
  constructor
  · rintro rfl
    exact readAs_term name
  · intro readAs
    cases readAs with
    | cell form values => exact form.term_of_values values
    | refused form long => exact form.term_of_long long
    | itself other =>
      apply term_of_parts?_eq_none
      by_contra apart
      obtain ⟨⟨array, groups⟩, apart⟩ := Option.ne_none_iff_exists'.mp apart
      obtain ⟨numerals, ending, form, _⟩ := cellName_of_parts? apart
      exact other array numerals ending form

/-- A digit over and over, once more than a numeral may have digits. -/
def tooMany (digit : Char) : String := .ofList (List.replicate (Text.digitLimit + 1) digit)

/-- A digit that is repeated is a numeral, however often it is. -/
theorem isNumeral_tooMany {c : Char} (digit : Text.isDigit c = true) : IsNumeral (tooMany c) := by
  constructor
  · exact mt String.ofList_eq_empty_iff.mp (List.cons_ne_nil _ _)
  · rw [tooMany, String.toList_ofList]
    intro other member
    rw [List.eq_of_mem_replicate member]
    exact digit

/-- One numeral in brackets makes the name of a cell. -/
theorem cellName_single {array numeral : String} (named : array ≠ "")
    (noOpening : '[' ∉ array.toList) (noClosing : ']' ∉ array.toList)
    (isNumeral : IsNumeral numeral) :
    CellName (array ++ inBrackets numeral) array [numeral] "" := by
  constructor
  case named => exact named
  case noOpening => exact noOpening
  case noClosing => exact noClosing
  case indexed => exact List.cons_ne_nil _ _
  case numeral => exact List.forall_mem_singleton.mpr isNumeral
  case ended => exact .inl rfl
  case spelled =>
    rw [← String.toList_inj, String.toList_append, String.toList_append, String.toList_append,
      String.toList_join]
    simp

/-- A name with too many digits is refused although it has the form of the name of a cell. -/
theorem refused_of_tooMany {c : Char} (digit : Text.isDigit c = true) :
    CellName ("x" ++ inBrackets (tooMany c)) "x" [tooMany c] "" ∧
      (Value.text ("x" ++ inBrackets (tooMany c))).term = .error .badNumeral := by
  have form : CellName ("x" ++ inBrackets (tooMany c)) "x" [tooMany c] "" :=
    cellName_single (by decide) (by decide) (by decide) (isNumeral_tooMany digit)
  refine ⟨form, form.term_of_long ⟨tooMany c, List.mem_cons_self, ?_⟩⟩
  rw [tooMany, String.length_ofList, List.length_replicate]
  exact Nat.lt_succ_self _

/-- So the form of a name alone does not make it a cell, not even with the index zero. -/
theorem cell_name_refused :
    CellName ("x" ++ inBrackets (tooMany '0')) "x" [tooMany '0'] "" ∧
      ¬ ∃ array indices, (Value.text ("x" ++ inBrackets (tooMany '0'))).term =
        .ok (cellValue array indices) := by
  obtain ⟨form, refused⟩ := refused_of_tooMany (c := '0') (by decide)
  refine ⟨form, ?_⟩
  rintro ⟨array, indices, read⟩
  rw [refused] at read
  cases read

end Csp.Term
