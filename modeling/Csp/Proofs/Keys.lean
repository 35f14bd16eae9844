import Csp.Proofs.Collector.Notices
import Csp.Proofs.Rebuilding

/-!
# Entities as keys

An entity can be put into a collection that holds each key once if no list and no
mapping is left anywhere in its fields. The constructors see to that: they freeze
the lists that they are given, one level deep where the declared types go one level
deep, and they keep the two mappings of an array and of an instance in a frozen
form that takes no part in the hash.

A key is looked for among those with its hash, so entities that are equal are one
key only if they also have one hash. They do: what is equal is hashed by what it
is compared by, numbers of all types by their exact value. Only handles are equal
and hashed differently, and the declared types of the fields do not admit handles.
-/
namespace Csp

namespace Shape

/-- A shape without lists and without what is equal to other objects. Frozen mappings are admitted
whatever they hold. -/
inductive Firm : Shape → Prop where
  | null : Firm .null
  | number (n : Number) : Firm (.number n)
  | text (s : String) : Firm (.text s)
  | symbol (family name form : String) : Firm (.symbol family name form)
  | tuple {items : List Shape} (each : ∀ item ∈ items, Firm item) : Firm (.tuple items)
  | mapping (entries : List (Shape × Shape)) : Firm (.mapping true entries)
  | record (name : String) {fields : List (String × Shape)}
      (each : ∀ field ∈ fields, Firm field.2) : Firm (.record name fields)

/-- Items that have hashes have one together. The hash of a tuple is mixed from those of its items,
in their order. -/
theorem hashItems?_of_each {items : List Shape}
    (each : ∀ item ∈ items, ∃ hash, item.hash? = some hash) :
    ∃ hash, hashItems? items = some hash := by
  induction items with
  | nil => exact ⟨0, rfl⟩
  | cons item rest inductionHypothesis =>
    obtain ⟨⟨first, hashed⟩, others⟩ := List.forall_mem_cons.mp each
    obtain ⟨later, hashedLater⟩ := inductionHypothesis others
    exact ⟨mixHash later first, by rw [hashItems?, hashed, hashedLater]; rfl⟩

/-- Fields that have hashes have one together, too. The names of the fields take no part in it. -/
theorem hashFields?_of_each {fields : List (String × Shape)}
    (each : ∀ field ∈ fields, ∃ hash, field.2.hash? = some hash) :
    ∃ hash, hashFields? fields = some hash := by
  induction fields with
  | nil => exact ⟨0, rfl⟩
  | cons field rest inductionHypothesis =>
    obtain ⟨⟨first, hashed⟩, others⟩ := List.forall_mem_cons.mp each
    obtain ⟨later, hashedLater⟩ := inductionHypothesis others
    exact ⟨mixHash later first, by rw [hashFields?, hashed, hashedLater]; rfl⟩

/-- Every firm shape that is alike has the same hash. The two need not be the same shape: a number
may be an integer in one and a double in the other. -/
def HashedAlike (shape : Shape) : Prop :=
  ∀ other : Shape, other.Firm → shape.alike other = true → shape.hash? = other.hash?

/-- Items that are alike one by one have one hash together, if each has the hash of its
counterpart. -/
theorem hashItems?_of_alike {items : List Shape} (each : ∀ item ∈ items, item.HashedAlike)
    {others : List Shape} (firm : ∀ other ∈ others, other.Firm)
    (alike : alikeItems items others = true) : hashItems? items = hashItems? others := by
  induction items generalizing others with
  | nil =>
    cases others with
    | nil => rfl
    | cons other others => cases alike
  | cons item rest inductionHypothesis =>
    cases others with
    | nil => cases alike
    | cons other others =>
      obtain ⟨first, later⟩ := List.forall_mem_cons.mp each
      obtain ⟨firstFirm, laterFirm⟩ := List.forall_mem_cons.mp firm
      rw [alikeItems, Bool.and_eq_true] at alike
      rw [hashItems?, hashItems?, first other firstFirm alike.1,
        inductionHypothesis later laterFirm alike.2]

/-- Fields that are alike one by one have one hash together in the same way. -/
theorem hashFields?_of_alike {fields : List (String × Shape)}
    (each : ∀ field ∈ fields, field.2.HashedAlike) {others : List (String × Shape)}
    (firm : ∀ other ∈ others, other.2.Firm) (alike : alikeFields fields others = true) :
    hashFields? fields = hashFields? others := by
  induction fields generalizing others with
  | nil =>
    cases others with
    | nil => rfl
    | cons other others => cases alike
  | cons field rest inductionHypothesis =>
    cases others with
    | nil => cases alike
    | cons other others =>
      obtain ⟨first, later⟩ := List.forall_mem_cons.mp each
      obtain ⟨firstFirm, laterFirm⟩ := List.forall_mem_cons.mp firm
      rw [alikeFields, Bool.and_eq_true] at alike
      rw [hashFields?, hashFields?, first other.2 firstFirm alike.1,
        inductionHypothesis later laterFirm alike.2]

namespace Firm

variable {shape : Shape}

/-- What is firm has a hash. The induction is on what makes it firm, and lists and mappings that can
be changed, which alone have none, are not among that. -/
theorem hashed (firm : shape.Firm) : ∃ hash, shape.hash? = some hash := by
  induction firm with
  | null | number | text | symbol | mapping => exact ⟨_, rfl⟩
  | tuple each inductionHypothesis => exact hashItems?_of_each inductionHypothesis
  | record name each inductionHypothesis => exact hashFields?_of_each inductionHypothesis

/-- Firm shapes that are alike have the same hash. The induction is on the first shape, and the
second one has to have the same form to be alike. -/
theorem hashedAlike (firm : shape.Firm) : shape.HashedAlike := by
  intro other firmToo alike
  induction firm generalizing other with
  | null =>
    cases firmToo with
    | null => rfl
    | _ => cases alike
  | number n =>
    cases firmToo with
    | number m =>
      -- Numbers are compared by their exact value, and their hash is the hash of that.
      rw [Shape.alike, Number.same, decide_eq_true_eq] at alike
      rw [hash?, hash?, Number.hash, Number.hash, alike]
    | _ => cases alike
  | text s =>
    cases firmToo with
    | text t =>
      rw [Shape.alike, beq_iff_eq] at alike
      rw [alike]
    | _ => cases alike
  | symbol family name form =>
    cases firmToo with
    | symbol familyToo nameToo formToo =>
      rw [Shape.alike, Bool.and_eq_true, beq_iff_eq, beq_iff_eq] at alike
      rw [hash?, hash?, alike.2]
    | _ => cases alike
  | tuple each inductionHypothesis =>
    cases firmToo with
    | tuple eachToo => exact hashItems?_of_alike inductionHypothesis eachToo alike
    | _ => cases alike
  | mapping entries =>
    cases firmToo with
    | mapping entriesToo => rfl
    | _ => cases alike
  | record name each inductionHypothesis =>
    cases firmToo with
    | record nameToo eachToo =>
      rw [Shape.alike, Bool.and_eq_true] at alike
      exact hashFields?_of_alike inductionHypothesis eachToo alike.2
    | _ => cases alike

/-- A tuple of parts is firm if their shapes are. -/
theorem parts {β : Type} {form : β → Shape} {items : List β}
    (each : ∀ item ∈ items, (form item).Firm) : Firm (.tuple (items.map form)) :=
  .tuple (List.forall_mem_map.mpr each)

/-- Integers are firm, and so is a tuple of them. -/
theorem numbers (numbers : List Int) : Firm (.tuple (numbers.map .ofInt)) :=
  parts fun n _ => .number (.int n)

/-- Texts are firm, and so is a tuple of them. -/
theorem texts (texts : List String) : Firm (.tuple (texts.map .text)) :=
  parts fun text _ => .text text

/-- A transition in its normal form is a triple of two texts and a number, however it was given. So
transitions ask for no type. -/
theorem transition (t : Transition String Label) : (ofTransition t).Firm := by
  obtain ⟨source, value, target⟩ := t
  refine .tuple ?_
  simp only [List.forall_mem_cons]
  refine ⟨.text source, ?_, .text target, List.forall_mem_nil _⟩
  cases value <;> exact .number _

end Firm
end Shape

/-! ## Arguments of the declared types -/

namespace Value

/-- A list or a tuple of these items. Lists and tuples are gone through alike by everything that
reads them. -/
def Lists (v : Value) (items : List Value) : Prop := v = .list items ∨ v = .tuple items

/-- A list or a tuple of items of one kind. -/
def ListOf (kind : Value → Prop) (v : Value) : Prop :=
  ∃ items, v.Lists items ∧ ∀ item ∈ items, kind item

/-- One value of a kind, or several of them as a list or a tuple. -/
def OneOrSeveral (kind : Value → Prop) (v : Value) : Prop := kind v ∨ v.ListOf kind

/-- A text. A missing one does not count. -/
def IsText (v : Value) : Prop := ∃ s, v = .text s

/-- A text, or a cell of an array whose name is a text or is missing. -/
def IsTerm (v : Value) : Prop :=
  v.IsText ∨ ∃ x : Cell Value, x.array.IsTextOrMissing ∧ v = .entity (.cell x)

/-- Single integers, and intervals or other groups of integers. -/
def IsDomain : Value → Prop := ListOf (OneOrSeveral IsInteger)

/-- Rows of integers and texts. A row of one value can be that value. -/
def IsTable : Value → Prop := ListOf (OneOrSeveral fun v => v.IsInteger ∨ v.IsText)

/-- The shape of a value is firm. -/
def Firm (v : Value) : Prop := v.shape.Firm

/-- Lists and tuples are gone through in the same way, so it does not matter which of the two was
given. -/
theorem Lists.items {v : Value} {items : List Value} (lists : v.Lists items) :
    v.items = .ok items := by
  rcases lists with rfl | rfl <;> rfl

variable {v : Value}

/-- Integers and truth values are hashed by the number that they are. -/
theorem IsInteger.firm (integer : v.IsInteger) : v.Firm := by
  cases v with
  | int _ | bool _ => exact .number _
  | _ => cases integer

/-- Texts are hashed as they are. -/
theorem IsText.firm (text : v.IsText) : v.Firm := by
  obtain ⟨s, rfl⟩ := text
  exact .text s

/-- An identifier can be hashed even if it is missing. -/
theorem IsTextOrMissing.firm (identifier : v.IsTextOrMissing) : v.Firm := by
  cases v with
  | text s => exact .text s
  | null => exact .null
  | _ => cases identifier

/-- A tuple can be hashed if its items can. This is why lists are frozen into tuples. -/
theorem firm_tuple {items : List Value} (each : ∀ item ∈ items, item.Firm) :
    (Value.tuple items).Firm := by
  rw [Firm, shape, shapes_eq_map]
  exact .parts each

/-- The indices of a cell are integers once it has been made, so only the name of its array
matters. -/
theorem firm_cell {x : Cell Value} (identifier : x.array.Firm) :
    (Value.entity (.cell x)).Firm := by
  obtain ⟨array, indices⟩ := x
  refine .record _ ?_
  simp only [List.forall_mem_cons]
  exact ⟨identifier, .numbers indices, List.forall_mem_nil _⟩

/-- Both forms of a term can be hashed, the name of a variable and a cell of an array. -/
theorem IsTerm.firm (term : v.IsTerm) : v.Firm := by
  rcases term with text | ⟨x, identifier, rfl⟩
  · exact text.firm
  · exact firm_cell identifier.firm

/-- Several values of a firm kind are firm once they are frozen. A list is frozen into a tuple, and
any other value stays as it is. -/
theorem OneOrSeveral.firm {kind : Value → Prop} (firm : ∀ v, kind v → v.Firm)
    (few : v.OneOrSeveral kind) : v.frozen.Firm := by
  rcases few with one | ⟨items, lists, each⟩
  · have unlisted : ∀ items, v ≠ .list items := by
      rintro items rfl
      cases firm _ one
    have unchanged : v.frozen = v := by
      cases v with
      | list items => exact absurd rfl (unlisted items)
      | _ => rfl
    rw [unchanged]
    exact firm v one
  · have frozen : v.frozen = .tuple items := by
      rcases lists with rfl | rfl <;> rfl
    rw [frozen]
    exact firm_tuple fun item listed => firm item (each item listed)

/-- What is kept of a list of one or several values of a firm kind is firm. Freezing goes one level
deep, which is as deep as the declared types go. -/
theorem ListOf.firm_frozen {kind : Value → Prop} {results : List Value}
    (firm : ∀ v, kind v → v.Firm) (listed : v.ListOf (OneOrSeveral kind))
    (kept : v.frozenItems = .ok results) : ∀ result ∈ results, result.Firm := by
  obtain ⟨items, lists, each⟩ := listed
  cases kept.symm.trans (frozenItems_of_items lists.items)
  exact List.forall_mem_map.mpr fun item member => (each item member).firm firm

/-- Items that are kept as they are were firm before. -/
theorem ListOf.firm_items {kind : Value → Prop} {results : List Value}
    (firm : ∀ v, kind v → v.Firm) (listed : v.ListOf kind) (kept : v.items = .ok results) :
    ∀ result ∈ results, result.Firm := by
  obtain ⟨items, lists, each⟩ := listed
  cases lists.items.symm.trans kept
  exact fun item member => firm item (each item member)

/-- A domain is firm once it is frozen. Its intervals are tuples by then. -/
theorem IsDomain.firm {results : List Value} (declared : v.IsDomain)
    (kept : v.frozenItems = .ok results) : ∀ result ∈ results, result.Firm :=
  declared.firm_frozen (fun _ integer => integer.firm) kept

/-- The rows of a table are firm once they are frozen, whichever of their cells are texts. -/
theorem IsTable.firm {results : List Value} (declared : v.IsTable)
    (kept : v.frozenItems = .ok results) : ∀ result ∈ results, result.Firm :=
  declared.firm_frozen (fun _ cell => cell.elim (·.firm) (·.firm)) kept

/-- Terms are firm without being frozen. -/
theorem firm_terms {results : List Value} (mentioned : v.ListOf IsTerm)
    (kept : v.items = .ok results) : ∀ result ∈ results, result.Firm :=
  mentioned.firm_items (fun _ term => term.firm) kept

/-- A part that is not missing has been read from the argument itself. Parts that are missing are
not read at all. -/
theorem read_of_present {β : Type} {action : Value → Except Failure β} {part : Option β}
    {result : β} (read : v.present?.mapM action = .ok part) (there : part = some result) :
    v ≠ .null ∧ action v = .ok result := by
  subst there
  cases v with
  | null => cases read
  | _ =>
    obtain ⟨_, done, made⟩ := functor_map_eq_ok.mp read
    cases made
    exact ⟨Value.noConfusion, done⟩

end Value

/-- An entity that the constructor of its class makes of arguments of the declared types. The other
factories end with the same makers, so they make no other entities. Types are asked for only where
an argument is kept as it is or frozen; what is brought into a normal form of texts and numbers can
be given in any way, and anything can be in the two mappings. The entities that an instance is made
of have been made in the same way. -/
inductive Entity.WellTyped : Entity Value → Prop where
  | single {id domain : Value} {e : Entity Value} (identifier : id.IsTextOrMissing)
      (declared : domain.IsDomain)
      (made : EntityClass.single.request .constructor [id, domain] [] = .ok e) : WellTyped e
  | grid {id size domains fallback : Value} {e : Entity Value} (identifier : id.IsTextOrMissing)
      (absentOrDomain : fallback = .null ∨ fallback.IsDomain)
      (made : EntityClass.grid.request .constructor [id, size, domains, fallback] [] = .ok e) :
      WellTyped e
  | cell {array indices : Value} {e : Entity Value} (identifier : array.IsTextOrMissing)
      (made : EntityClass.cell.request .constructor [array, indices] [] = .ok e) : WellTyped e
  | objective {sense : Sense} {id kind terms coefficients expression : Value} {e : Entity Value}
      (mentioned : terms.ListOf Value.IsTerm) (written : expression.IsText)
      (made : (EntityClass.ofSense sense).request .constructor
        [id, kind, terms, coefficients, expression] [] = .ok e) : WellTyped e
  | intension {id expression : Value} {e : Entity Value} (written : expression.IsText)
      (made : EntityClass.intension.request .constructor [id, expression] [] = .ok e) : WellTyped e
  | table {id scope supports conflicts : Value} {e : Entity Value}
      (mentioned : scope.ListOf Value.IsTerm) (allowed : supports.IsTable)
      (forbidden : conflicts.IsTable)
      (made : EntityClass.table.request .constructor [id, scope, supports, conflicts] [] = .ok e) :
      WellTyped e
  | regular {id scope transitions start finals : Value} {e : Entity Value}
      (mentioned : scope.ListOf Value.IsTerm)
      (made : EntityClass.regular.request .constructor [id, scope, transitions, start, finals] [] =
        .ok e) : WellTyped e
  | mdd {id scope transitions root terminal : Value} {e : Entity Value}
      (mentioned : scope.ListOf Value.IsTerm)
      (made : EntityClass.mdd.request .constructor [id, scope, transitions, root, terminal] [] =
        .ok e) : WellTyped e
  | whole {format framework vars constraints objectives annotations : Value}
      {varList constraintList objectiveList : List (Entity Value)} {e : Entity Value}
      (formatText : format.IsText) (frameworkText : framework.IsText)
      (varsListed : vars.Lists (varList.map .entity)) (eachVar : ∀ x ∈ varList, WellTyped x)
      (constraintsListed : constraints.Lists (constraintList.map .entity))
      (eachConstraint : ∀ x ∈ constraintList, WellTyped x)
      (objectivesListed : objectives = .null ∨ objectives.Lists (objectiveList.map .entity))
      (eachObjective : ∀ x ∈ objectiveList, WellTyped x)
      (made : EntityClass.whole.request .constructor
        [format, framework, vars, constraints, objectives, annotations] [] = .ok e) : WellTyped e

/-- A class makes an entity of a value for each of its fields. The values are divided among the
fields by their places. -/
theorem EntityClass.request_constructor {c : EntityClass} {values : List Value}
    (complete : values.length = c.fields.length) :
    c.request .constructor values [] = c.assemble .constructor values := by
  have none : List.Perm [] (((c.fields.map (·.name)).zip values).drop values.length) := by
    rw [List.drop_eq_nil_of_le (by simp)]
  have bound := Signature.bind_of_divided c.distinct_fields complete none
  rw [List.take_length] at bound
  change ((Signature.byPosition c.fields).bind values [] >>= c.assemble .constructor) = _
  rw [bound]
  rfl

namespace Entity

/-- A variable is firm if its identifier is and if its domain has been frozen deeply enough. -/
theorem firm_single {x : Variable Value} (identifier : x.id.Firm)
    (domain : ∀ item ∈ x.domain, item.Firm) : (Value.entity (.single x)).Firm := by
  obtain ⟨id, items⟩ := x
  refine .record _ ?_
  simp only [List.forall_mem_cons]
  exact ⟨identifier, Value.firm_tuple domain, List.forall_mem_nil _⟩

/-- A tuple that may be missing is firm if its items are. -/
theorem firm_optional {items : Option (List Value)}
    (each : ∀ list, items = some list → ∀ item ∈ list, item.Firm) :
    (Value.optionalShape items).Firm := by
  cases items with
  | none => exact .null
  | some list => exact Value.firm_tuple (each list rfl)

/-- An array of variables is firm whatever the domains of its patterns are, since the mapping that
holds them takes no part in the hash. -/
theorem firm_grid {x : Grid Value} (identifier : x.id.Firm)
    (fallback : ∀ items, x.fallback = some items → ∀ item ∈ items, item.Firm) :
    (Value.entity (.grid x)).Firm := by
  obtain ⟨id, size, domains, items⟩ := x
  refine .record _ ?_
  simp only [List.forall_mem_cons]
  exact ⟨identifier, .numbers size, .mapping _, firm_optional fallback, List.forall_mem_nil _⟩

/-- An objective keeps its terms and its expression as they were given, so these have to be firm. -/
theorem firm_objective {x : Objective Value} (terms : ∀ term ∈ x.terms, term.Firm)
    (expression : x.expression.Firm) : (Value.entity (.objective x)).Firm := by
  obtain ⟨sense, id, kind, list, coefficients, given⟩ := x
  refine .record _ ?_
  simp only [List.forall_mem_cons]
  exact ⟨.text id, .symbol _ _ _, Value.firm_tuple terms, .numbers coefficients, expression,
    List.forall_mem_nil _⟩

/-- Of an intensional constraint, only the expression is kept as it was given. -/
theorem firm_intension {c : Intension Value} (expression : c.expression.Firm) :
    (Value.entity (.constraint (.intension c))).Firm := by
  obtain ⟨id, given⟩ := c
  refine .record _ ?_
  simp only [List.forall_mem_cons]
  exact ⟨.text id, expression, List.forall_mem_nil _⟩

/-- A table is firm if its rows are. The rows have been frozen, so a row that was given as a list is
a tuple by now. -/
theorem firm_table {c : Table Value} (scope : ∀ term ∈ c.scope, term.Firm)
    (supports : ∀ row ∈ c.supports, row.Firm) (conflicts : ∀ row ∈ c.conflicts, row.Firm) :
    (Value.entity (.constraint (.table c))).Firm := by
  obtain ⟨id, terms, allowed, forbidden⟩ := c
  refine .record _ ?_
  simp only [List.forall_mem_cons]
  exact ⟨.text id, Value.firm_tuple scope, Value.firm_tuple supports, Value.firm_tuple conflicts,
    List.forall_mem_nil _⟩

/-- Start, final states and transitions are in their normal form, so only the terms of the scope are
asked for. -/
theorem firm_regular {c : Regular Value} (scope : ∀ term ∈ c.scope, term.Firm) :
    (Value.entity (.constraint (.regular c))).Firm := by
  obtain ⟨id, terms, a⟩ := c
  refine .record _ ?_
  simp only [List.forall_mem_cons]
  exact ⟨.text id, Value.firm_tuple scope, .parts fun t _ => .transition t, .text a.start,
    .texts a.finals, List.forall_mem_nil _⟩

/-- The same holds of the ends and the transitions of a diagram. Its levels are no field that is
hashed. -/
theorem firm_mdd {c : Mdd Value} (scope : ∀ term ∈ c.scope, term.Firm) :
    (Value.entity (.constraint (.mdd c))).Firm := by
  obtain ⟨id, terms, d⟩ := c
  refine .record _ ?_
  simp only [List.forall_mem_cons]
  exact ⟨.text id, Value.firm_tuple scope, .parts fun t _ => .transition t, .text d.root,
    .text d.terminal, List.forall_mem_nil _⟩

/-- An instance is firm if the entities in its three lists are. Its annotations may be anything,
since the mapping that holds them takes no part in the hash. -/
theorem firm_whole {x : Instance Value} (format : x.format.Firm) (framework : x.framework.Firm)
    (vars : ∀ v ∈ x.vars, v.Firm) (constraints : ∀ c ∈ x.constraints, c.Firm)
    (objectives : ∀ items, x.objectives = some items → ∀ item ∈ items, item.Firm) :
    (Value.entity (.whole x)).Firm := by
  obtain ⟨tag, type, varItems, constraintItems, objectiveItems, annotations⟩ := x
  refine .record _ ?_
  simp only [List.forall_mem_cons]
  refine ⟨format, framework, Value.firm_tuple vars, Value.firm_tuple constraints,
    firm_optional objectives, ?_, List.forall_mem_nil _⟩
  cases annotations with
  | none => exact .null
  | some entries => exact .mapping _

/-- Entities of well-typed arguments are firm. The induction is on how the entity was made. That of
an instance uses it for the entities in its lists. -/
theorem WellTyped.firm {e : Entity Value} (typed : e.WellTyped) : (Value.entity e).Firm := by
  induction typed with
  | single identifier declared made =>
    rw [EntityClass.request_constructor rfl] at made
    obtain ⟨x, built, rfl⟩ := functor_map_eq_ok.mp made
    obtain ⟨items, frozen, built⟩ := bind_eq_ok.mp built
    cases built
    exact firm_single identifier.firm (declared.firm frozen)
  | grid identifier absentOrDomain made =>
    rw [EntityClass.request_constructor rfl] at made
    obtain ⟨x, built, rfl⟩ := functor_map_eq_ok.mp made
    obtain ⟨named, _, _, frozen⟩ := Grid.make_ok built
    refine firm_grid (named ▸ identifier.firm) fun list there => ?_
    obtain ⟨present, frozen⟩ := Value.read_of_present frozen there
    exact (absentOrDomain.resolve_left present).firm frozen
  | cell identifier made =>
    rw [EntityClass.request_constructor rfl] at made
    obtain ⟨x, built, rfl⟩ := functor_map_eq_ok.mp made
    obtain ⟨indices, _, built⟩ := bind_eq_ok.mp built
    cases built
    exact Value.firm_cell identifier.firm
  | @objective sense id kind terms coefficients expression e mentioned written made =>
    rw [EntityClass.request_constructor (by cases sense <;> rfl)] at made
    have built : ∃ x, Objective.make sense id kind terms coefficients expression = .ok x ∧
        .objective x = e := by
      cases sense <;> exact functor_map_eq_ok.mp made
    obtain ⟨x, built, rfl⟩ := built
    obtain ⟨_, _, _, terms, _, expression⟩ := Objective.make_ok built
    exact firm_objective (Value.firm_terms mentioned terms) (expression ▸ written.firm)
  | intension written made =>
    rw [EntityClass.request_constructor rfl] at made
    obtain ⟨c, built, rfl⟩ := functor_map_eq_ok.mp made
    obtain ⟨_, expression, _⟩ := Intension.make_ok built
    exact firm_intension (expression ▸ written.firm)
  | table mentioned allowed forbidden made =>
    rw [EntityClass.request_constructor rfl] at made
    obtain ⟨c, built, rfl⟩ := functor_map_eq_ok.mp made
    obtain ⟨_, scope, supports, conflicts⟩ := Table.make_ok built
    exact firm_table (Value.firm_terms mentioned scope) (allowed.firm supports)
      (forbidden.firm conflicts)
  | regular mentioned made =>
    rw [EntityClass.request_constructor rfl] at made
    obtain ⟨c, built, rfl⟩ := functor_map_eq_ok.mp made
    obtain ⟨_, scope, _⟩ := Regular.make_ok built
    exact firm_regular (Value.firm_terms mentioned scope)
  | mdd mentioned made =>
    rw [EntityClass.request_constructor rfl] at made
    obtain ⟨c, built, rfl⟩ := functor_map_eq_ok.mp made
    obtain ⟨_, _, _, _, _, _, scope, _⟩ := Mdd.make_ok built
    exact firm_mdd (Value.firm_terms mentioned scope)
  | whole formatText frameworkText varsListed _ constraintsListed _ objectivesListed _ made vars
      constraints objectives =>
    rw [EntityClass.request_constructor rfl] at made
    obtain ⟨x, built, rfl⟩ := functor_map_eq_ok.mp made
    obtain ⟨format, framework, varsKept, constraintsKept, objectivesKept, _⟩ :=
      Instance.make_ok built
    have varItems := Except.ok.inj (varsKept.symm.trans varsListed.items)
    have constraintItems := Except.ok.inj (constraintsKept.symm.trans constraintsListed.items)
    refine firm_whole (format ▸ formatText.firm) (framework ▸ frameworkText.firm)
      (varItems ▸ List.forall_mem_map.mpr vars)
      (constraintItems ▸ List.forall_mem_map.mpr constraints) fun list there => ?_
    obtain ⟨present, listed⟩ := Value.read_of_present objectivesKept there
    cases (objectivesListed.resolve_left present).items.symm.trans listed
    exact List.forall_mem_map.mpr objectives

end Entity

/-! ## In a collection -/

namespace Value

/-- Once some values have been put in, the collection has got more keys at its end. No key is ever
taken out or replaced. -/
theorem places_append (keys : List Key) (next : Nat) (before rest : List Value) :
    ∃ added, (places keys next (before ++ rest)).drop before.length =
      places (keys ++ added) (next + before.length) rest := by
  induction before generalizing keys next with
  | nil => exact ⟨[], by simp⟩
  | cons v before inductionHypothesis =>
    have shifted : next + (v :: before).length = next + 1 + before.length := by
      rw [List.length_cons]
      omega
    rw [List.cons_append, places, shifted, List.length_cons]
    cases v.hash? with
    | none => exact inductionHypothesis keys (next + 1)
    | some hash =>
      simp only
      split
      · exact inductionHypothesis keys (next + 1)
      · obtain ⟨added, later⟩ := inductionHypothesis (keys ++ [⟨hash, v, next⟩]) (next + 1)
        exact ⟨⟨hash, v, next⟩ :: added, by
          rw [List.drop_succ_cons, later, List.append_assoc]; rfl⟩

/-- The answer for a value depends on the keys when its turn comes. A value that is found gets the
place of the key that it was found as, and any other one gets a new place at the end. -/
theorem getElem?_places (keys : List Key) (next : Nat) (before rest : List Value) :
    ∃ added, (places keys next (before ++ rest))[before.length]? =
      (places (keys ++ added) (next + before.length) rest).head? := by
  obtain ⟨added, later⟩ := places_append keys next before rest
  exact ⟨added, by rw [← later, List.head?_drop]⟩

/-- What has a hash is given a place. Only what has none is refused. -/
theorem exists_place {v : Value} {hash : Int} (hashed : v.hash? = some hash) (keys : List Key)
    (next : Nat) (rest : List Value) :
    ∃ place, (places keys next (v :: rest)).head? = some (.ok place) := by
  simp only [places, hashed]
  split
  · exact ⟨_, rfl⟩
  · exact ⟨next, rfl⟩

/-- A value that has the hash of the first key and is equal to it is given the place of the first
key. -/
theorem first_place {v : Value} {key : Key} (hashed : v.hash? = some key.hash)
    (equal : key.value.same v = true) (keys : List Key) (next : Nat) (rest : List Value) :
    (places (key :: keys) next (v :: rest)).head? = some (.ok key.place) := by
  have found : placeAmong (key :: keys) key.hash v = some key.place := by
    rw [placeAmong, List.find?_cons, beq_self_eq_true, equal]
    rfl
  simp only [places, hashed, found]
  rfl

end Value

namespace Entity

open Value

/-- Entities of well-typed arguments have a hash, so that they can be put into any collection of
keys. Those that are equal have the same hash and are kept once: when one has been put in first,
every other one is recognised as it, whatever has been put in between. -/
theorem WellTyped.kept_once {e : Entity Value} (typed : e.WellTyped) :
    (∃ hash, (Value.entity e).hash? = some hash) ∧
      (∀ before after, ∃ place,
        (firstPlaces (before ++ .entity e :: after))[before.length]? = some (.ok place)) ∧
      ∀ f : Entity Value, f.WellTyped → (Value.entity e).same (.entity f) = true →
        (Value.entity e).hash? = (Value.entity f).hash? ∧
          ∀ between after, ∃ answers,
            firstPlaces (.entity e :: (between ++ .entity f :: after)) = .ok 0 :: answers ∧
              answers[between.length]? = some (.ok 0) := by
  obtain ⟨hash, hashed⟩ : ∃ hash, (Value.entity e).hash? = some hash := typed.firm.hashed
  refine ⟨⟨hash, hashed⟩, ?_, ?_⟩
  · intro before after
    obtain ⟨added, answer⟩ := getElem?_places [] 0 before (.entity e :: after)
    rw [firstPlaces, answer]
    exact exists_place hashed _ _ _
  · intro f typedToo equal
    have sameHash : (Value.entity e).hash? = (Value.entity f).hash? :=
      typed.firm.hashedAlike _ typedToo.firm equal
    refine ⟨sameHash, fun between after => ?_⟩
    -- The first entity is the first key, and it stays the first one.
    have first : firstPlaces (.entity e :: (between ++ .entity f :: after)) =
        .ok 0 :: places [⟨hash, .entity e, 0⟩] 1 (between ++ .entity f :: after) := by
      simp only [firstPlaces, places, hashed, placeAmong, List.find?_nil, Option.map_none,
        List.nil_append]
    refine ⟨_, first, ?_⟩
    obtain ⟨added, answer⟩ :=
      getElem?_places [⟨hash, .entity e, 0⟩] 1 between (.entity f :: after)
    rw [answer]
    exact first_place (sameHash.symm.trans hashed) equal _ _ _

/-- An instance with a variable and an annotation. -/
def annotated (lowest : Value) : Entity Value :=
  .whole
    { format := .text "XCSP3"
      framework := .text "CSP"
      vars := [.entity (.single ⟨.text "x", [lowest, .tuple [.int 3, .int 5]]⟩)]
      constraints := []
      objectives := none
      annotations := some [(.text "decision", .list [.text "x"])] }

/-- The instance has annotations that could not be keys themselves, and its variable may be given by
an integer or a truth value. -/
theorem annotated_wellTyped {lowest : Value} (integer : lowest.IsInteger) :
    (annotated lowest).WellTyped := by
  have unchanged : lowest.frozen = lowest := by
    cases lowest with
    | list items => cases integer
    | _ => rfl
  have identifier : IsTextOrMissing (.text "x") := trivial
  have declared : IsDomain (.list [lowest, .list [.int 3, .int 5]]) := by
    refine ⟨_, .inl rfl, ?_⟩
    simp only [List.forall_mem_cons]
    refine ⟨.inl integer, .inr ⟨_, .inl rfl, ?_⟩, List.forall_mem_nil _⟩
    simp only [List.forall_mem_cons]
    exact ⟨trivial, trivial, List.forall_mem_nil _⟩
  have made : EntityClass.single.request .constructor
      [.text "x", .list [lowest, .list [.int 3, .int 5]]] [] =
        .ok (.single ⟨.text "x", [lowest.frozen, .tuple [.int 3, .int 5]]⟩) := rfl
  rw [unchanged] at made
  have built : EntityClass.whole.request .constructor
      [.text "XCSP3", .text "CSP",
        .list [.entity (.single ⟨.text "x", [lowest, .tuple [.int 3, .int 5]]⟩)], .tuple [], .null,
        .dict [(.text "decision", .list [.text "x"])]] [] = .ok (annotated lowest) := rfl
  have noEntities : ∀ x ∈ [], WellTyped x := List.forall_mem_nil _
  have constraintsListed : Lists (.tuple []) (List.map .entity []) := .inr rfl
  have noObjectives : Value.null = .null ∨ Lists .null (List.map .entity []) := .inl rfl
  exact .whole ⟨"XCSP3", rfl⟩ ⟨"CSP", rfl⟩ (.inl rfl)
    (List.forall_mem_singleton.mpr (.single identifier declared made)) constraintsListed noEntities
    noObjectives noEntities built

/-- The annotation is a list, which cannot be a key, and the domains hold different objects that
are equal. -/
theorem annotated_kept_once :
    (Value.entity (annotated (.int 1))).hash? = (Value.entity (annotated (.bool true))).hash? ∧
      ∃ answers,
        firstPlaces [.entity (annotated (.int 1)), .list [], .entity (annotated (.bool true))] =
          .ok 0 :: answers ∧ answers[1]? = some (.ok 0) := by
  have typed : (annotated (.int 1)).WellTyped := annotated_wellTyped trivial
  have typedToo : (annotated (.bool true)).WellTyped := annotated_wellTyped trivial
  obtain ⟨_, _, once⟩ := typed.kept_once
  obtain ⟨sameHash, kept⟩ := once _ typedToo (by decide +kernel)
  exact ⟨sameHash, kept [.list []] []⟩

end Entity
end Csp
