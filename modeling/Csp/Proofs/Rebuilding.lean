import Csp.Proofs.Making.Again
import Csp.Request

/-!
# Entities as their own arguments

The fields that an entity stores are those of its record, by which it is
compared. Given to its class they make the same entity, and with it all that an
entity derives from its fields: the levels and nodes of a diagram, the states
and the alphabet of an automaton, the meaning of a table.

Every factory ends with the maker of a family, so it is enough that the makers
accept what they have returned. The fields can be given by position and by name,
in whichever way they are divided up.
-/
namespace Csp

/-- The fields that an entity stores, as arguments for its class. A mapping is given as the
dictionary of its entries. -/
def Entity.declared : Entity Value → List Value
  | .single x => [x.id, .tuple x.domain]
  | .grid x =>
    [x.id, .tuple (x.size.map .int), .dict x.domains, .optional .tuple x.fallback]
  | .cell x => [x.array, .tuple (x.indices.map .int)]
  | .objective x =>
    [.text x.id, .kind x.kind, .tuple x.terms, .tuple (x.coefficients.map .int), x.expression]
  | .constraint (.intension c) => [.text c.id, c.expression]
  | .constraint (.table c) =>
    [.text c.id, .tuple c.scope, .tuple c.supports, .tuple c.conflicts]
  | .constraint (.regular c) =>
    [.text c.id, .tuple c.scope, .tuple (c.automaton.transitions.map .ofTransition),
      .text c.automaton.start, .tuple (c.automaton.finals.map .text)]
  | .constraint (.mdd c) =>
    [.text c.id, .tuple c.scope, .tuple (c.diagram.transitions.map .ofTransition),
      .text c.diagram.root, .text c.diagram.terminal]
  | .whole x =>
    [x.format, x.framework, .tuple x.vars, .tuple x.constraints, .optional .tuple x.objectives,
      .optional .dict x.annotations]

/-- An entity that the maker of its family has returned. -/
inductive Entity.Made : Entity Value → Prop where
  | single {id domain : Value} {x : Variable Value} (made : Variable.make id domain = .ok x) :
      Made (.single x)
  | grid {id size domains fallback : Value} {x : Grid Value}
      (made : Grid.make id size domains fallback = .ok x) : Made (.grid x)
  | cell {array indices : Value} {x : Cell Value} (made : Cell.make array indices = .ok x) :
      Made (.cell x)
  | objective {sense : Sense} {id kind terms coefficients expression : Value} {x : Objective Value}
      (made : Objective.make sense id kind terms coefficients expression = .ok x) :
      Made (.objective x)
  | intension {id expression : Value} {c : Intension Value}
      (made : Intension.make id expression = .ok c) : Made (.constraint (.intension c))
  | table {id scope supports conflicts : Value} {c : Table Value}
      (made : Table.make id scope supports conflicts = .ok c) : Made (.constraint (.table c))
  | regular {id scope transitions start finals : Value} {c : Regular Value}
      (made : Regular.make id scope transitions start finals = .ok c) :
      Made (.constraint (.regular c))
  | mdd {id scope transitions root terminal : Value} {c : Mdd Value}
      (made : Mdd.make id scope transitions root terminal = .ok c) : Made (.constraint (.mdd c))
  | whole {format framework vars constraints objectives annotations : Value} {x : Instance Value}
      (made : Instance.make format framework vars constraints objectives annotations = .ok x) :
      Made (.whole x)

/-- An objective that a factory has returned. The element of a document is made into an objective by
its expression or by its terms. -/
inductive Objective.MadeBy : Factory → Objective Value → Prop where
  | constructor {sense : Sense} {id kind terms coefficients expression : Value}
      {x : Objective Value} (made : make sense id kind terms coefficients expression = .ok x) :
      MadeBy .constructor x
  | expression {sense : Sense} {id expression : Value} {x : Objective Value}
      (made : ofExpression sense id expression = .ok x) : MadeBy .expression x
  | terms {sense : Sense} {id kind terms coefficients : Value} {x : Objective Value}
      (made : ofTerms sense id kind terms coefficients = .ok x) : MadeBy .terms x
  | elementByExpression {x : Objective Value} (made : MadeBy .expression x) : MadeBy .element x
  | elementByTerms {x : Objective Value} (made : MadeBy .terms x) : MadeBy .element x

/-- The element of a document is made into an objective by its expression where it has one that
counts, and by its terms otherwise. -/
theorem Objective.MadeBy.element {sense : Sense} {id kind terms coefficients expression : Value}
    {x : Objective Value}
    (made : ofElement sense id kind terms coefficients expression = .ok x) : x.MadeBy .element := by
  obtain ⟨kind, _, made⟩ := bind_eq_ok.mp made
  split at made
  · exact .elementByExpression (.expression made)
  · exact .elementByTerms (.terms made)

/-- All ways to make an objective end with the maker of objectives. The factories differ in what
they pass to it. -/
theorem Objective.MadeBy.made {f : Factory} {x : Objective Value} (madeBy : x.MadeBy f) :
    (Entity.objective x).Made := by
  induction madeBy with
  | constructor made | expression made => exact .objective made
  | terms made =>
    obtain ⟨terms, _, made⟩ := bind_eq_ok.mp made
    obtain ⟨coefficients, _, made⟩ := bind_eq_ok.mp made
    exact .objective made
  | elementByExpression _ made | elementByTerms _ made => exact made

namespace EntityClass

/-- Every factory ends with the maker of the family, and an objective comes from the maker that
belongs to the factory. -/
theorem origin_of_assemble {c : EntityClass} {f : Factory} {values : List Value} {e : Entity Value}
    (assembled : c.assemble f values = .ok e) : e.Made ∧ ∀ x, e = .objective x → x.MadeBy f := by
  have objective {x : Objective Value} (madeBy : x.MadeBy f) :
      (Entity.objective x).Made ∧ ∀ y, Entity.objective x = .objective y → y.MadeBy f := by
    refine ⟨madeBy.made, ?_⟩
    rintro _ ⟨⟩
    exact madeBy
  -- The cases are the equations of `assemble` in their order; the last one makes nothing.
  unfold assemble at assembled
  split at assembled
  case h_18 => cases assembled
  all_goals obtain ⟨x, made, rfl⟩ := functor_map_eq_ok.mp assembled
  case h_1 => exact ⟨.single made, nofun⟩
  case h_2 => exact ⟨.grid made, nofun⟩
  case h_3 => exact ⟨.cell made, nofun⟩
  case h_4 | h_5 => exact ⟨.intension made, nofun⟩
  case h_6 | h_7 => exact ⟨.table made, nofun⟩
  case h_8 | h_9 => exact ⟨.regular made, nofun⟩
  case h_10 | h_11 => exact ⟨.mdd made, nofun⟩
  case h_12 => exact ⟨.whole made, nofun⟩
  case h_13 =>
    obtain ⟨vars, _, made⟩ := bind_eq_ok.mp made
    exact ⟨.whole made, nofun⟩
  case h_14 => exact objective (.constructor made)
  case h_15 => exact objective (.element made)
  case h_16 => exact objective (.expression made)
  case h_17 => exact objective (.terms made)

/-- The class of an entity makes the same entity of its fields. There is one case for each class,
and each is the lemma that its maker can be repeated. -/
theorem assemble_declared {e : Entity Value} (made : e.Made) :
    e.entityClass.assemble .constructor e.declared = .ok e := by
  cases made with
  | single made => exact functor_map_eq_ok.mpr ⟨_, Variable.make_again made, rfl⟩
  | grid made => exact functor_map_eq_ok.mpr ⟨_, Grid.make_again made, rfl⟩
  | cell _ => exact functor_map_eq_ok.mpr ⟨_, Cell.make_again _, rfl⟩
  | @objective _ _ _ _ _ _ x _ =>
    have again := x.make_again
    obtain ⟨sense, id, kind, terms, coefficients, expression⟩ := x
    cases sense <;> exact functor_map_eq_ok.mpr ⟨_, again, rfl⟩
  | intension made => exact functor_map_eq_ok.mpr ⟨_, Intension.make_again made, rfl⟩
  | table made => exact functor_map_eq_ok.mpr ⟨_, Table.make_again made, rfl⟩
  | regular made => exact functor_map_eq_ok.mpr ⟨_, Regular.make_again made, rfl⟩
  | mdd made => exact functor_map_eq_ok.mpr ⟨_, Mdd.make_again made, rfl⟩
  | whole made => exact functor_map_eq_ok.mpr ⟨_, Instance.make_again made, rfl⟩

end EntityClass

namespace Signature

/-- A parameter is filled with the value that is given for its name, when the names are distinct. If
a name stood for two parameters, the first value would be taken for both. -/
theorem fill_of_given {named : List (String × Value)} {p : Parameter} {value : Value}
    (distinct : (named.map (·.1)).Nodup) (given : (p.name, value) ∈ named) :
    fill named p = .ok value := by
  obtain ⟨before, after, rfl⟩ := List.append_of_mem given
  rw [List.map_append, List.map_cons, List.nodup_append] at distinct
  have found : (before ++ (p.name, value) :: after).lookup p.name = some value := by
    refine List.lookup_eq_some_iff.mpr ⟨before, after, rfl, fun earlier listed => ?_⟩
    have other := distinct.2.2 _ (List.mem_map_of_mem listed) _ List.mem_cons_self
    exact bne_iff_ne.mpr other.symm
  rw [fill, found]

section Named

variable {parameters : List Parameter} {values : List Value} {named : List (String × Value)}

/-- Whatever is given by name has the name of a parameter. So no value is refused as unexpected. -/
theorem all_known (given : named.Perm ((parameters.map (·.name)).zip values)) :
    named.all (fun argument => parameters.any (·.name == argument.1)) = true := by
  rw [List.all_eq_true]
  rintro ⟨name, value⟩ member
  obtain ⟨listed, _⟩ := List.of_mem_zip (given.mem_iff.mp member)
  obtain ⟨p, known, rfl⟩ := List.mem_map.mp listed
  exact List.any_eq_true.mpr ⟨p, known, beq_self_eq_true p.name⟩

/-- Parameters are filled with the values that are given for their names, in any order. The
induction is on the parameters, and the values of the others stay where they are. -/
theorem mapM_fill (distinct : (parameters.map (·.name)).Nodup)
    (complete : values.length = parameters.length)
    (given : named.Perm ((parameters.map (·.name)).zip values)) :
    parameters.mapM (fill named) = .ok values := by
  have namedDistinct : (named.map (·.1)).Nodup := by
    rw [(given.map (·.1)).nodup_iff, List.map_fst_zip (by rw [List.length_map, complete])]
    exact distinct
  rw [mapM_eq_ok, List.forall₂_iff_zip]
  refine ⟨complete.symm, fun {p value} paired => ?_⟩
  apply fill_of_given namedDistinct
  rw [given.mem_iff, List.zip_map_left]
  exact List.mem_map.mpr ⟨(p, value), paired, rfl⟩

/-- With a value for every parameter, the first of them can be given by position and the others by
name, in any order. -/
theorem bind_of_divided (distinct : (parameters.map (·.name)).Nodup)
    (complete : values.length = parameters.length) {count : Nat}
    (others : named.Perm (((parameters.map (·.name)).zip values).drop count)) :
    (byPosition parameters).bind (values.take count) named = .ok values := by
  have byName : parameters.drop (values.take count).length = parameters.drop count := by
    rw [List.length_take, complete]
    rcases Nat.le_total count parameters.length with within | beyond
    · rw [Nat.min_eq_left within]
    · rw [Nat.min_eq_right beyond, List.drop_length, List.drop_of_length_le beyond]
  have given : named.Perm (((parameters.drop count).map (·.name)).zip (values.drop count)) := by
    rw [List.map_drop]
    exact others.trans (List.Perm.of_eq List.drop_zipWith)
  have distinctToo : ((parameters.drop count).map (·.name)).Nodup := by
    rw [List.map_drop]
    exact distinct.sublist (List.drop_sublist count _)
  have completeToo : (values.drop count).length = (parameters.drop count).length := by
    rw [List.length_drop, List.length_drop, complete]
  have places : ¬ parameters.length < (values.take count).length := by
    rw [List.length_take, complete]
    omega
  simp only [bind, byPosition, if_true, byName, places, all_known given,
    mapM_fill distinctToo completeToo given]
  exact congrArg Except.ok (List.take_append_drop count values)

end Named

end Signature

/-- The fields that an entity stores, with their names. -/
def Entity.namedFields (e : Entity Value) : List (String × Value) :=
  (e.entityClass.fields.map (·.name)).zip e.declared

/-- The fields of a class have different names, so a value that is given by name has one place. -/
theorem EntityClass.distinct_fields (c : EntityClass) : (c.fields.map (·.name)).Nodup := by
  cases c <;> decide

/-- An entity has one declared value for each field of its class. -/
theorem Entity.length_declared (e : Entity Value) :
    e.declared.length = e.entityClass.fields.length := by
  cases e with
  | objective x =>
    rw [Entity.entityClass]
    cases x.sense <;> rfl
  | constraint c => cases c <;> rfl
  | single _ | grid _ | cell _ | whole _ => rfl

namespace Shape

/-- Whether a mapping can be changed does not count. A mapping is compared by its entries. -/
theorem frozen_same (entries : List (Shape × Shape)) :
    (mapping true entries).same (mapping false entries) = true := by
  rw [same, alike, beq_self_eq_true, alikeEntries_self entries entries (List.Subset.refl entries)]
  rfl

end Shape

namespace Value

/-- A tuple of parts has the shape that the parts have in their forms. -/
theorem tuple_same {β : Type} (form : β → Value) {shapeOf : β → Shape}
    (each : ∀ part, (form part).shape = shapeOf part) (parts : List β) :
    (Shape.tuple (parts.map shapeOf)).same (Value.tuple (parts.map form)).shape = true := by
  rw [shape, shapes_eq_map, List.map_map, show shape ∘ form = shapeOf from funext each]
  exact Shape.alike_self _

/-- Integers are the same whether they are stored as numbers or given as values. -/
theorem numbers_same (numbers : List Int) :
    (Shape.tuple (numbers.map .ofInt)).same (Value.tuple (numbers.map .int)).shape = true :=
  tuple_same .int (fun _ => rfl) numbers

/-- So are texts. -/
theorem texts_same (texts : List String) :
    (Shape.tuple (texts.map .text)).same (Value.tuple (texts.map .text)).shape = true :=
  tuple_same .text (fun _ => rfl) texts

/-- A tuple that may be missing is given back as it is stored, be it there or not. -/
theorem optionalShape_same (items : Option (List Value)) :
    (optionalShape items).same (optional .tuple items).shape = true := by
  cases items <;> exact Shape.alike_self _

/-- So is a mapping that may be missing. The stored one is frozen and the given one is not, and they
are equal all the same. -/
theorem optionalMapping_same (entries : Option (List (Value × Value))) :
    (optionalMapping entries).same (optional .dict entries).shape = true := by
  cases entries with
  | none => exact Shape.alike_self _
  | some entries => exact Shape.frozen_same _

end Value

/-- The fields that an entity stores are those of its record, with the same names and in the same
order. -/
theorem Entity.record_declared (e : Entity Value) :
    ∃ fields, (Value.entity e).shape = .ofClass e.entityClass fields ∧
      fields.map (·.1) = e.entityClass.fields.map (·.name) ∧
      List.Forall₂ (fun field argument => field.2.same argument.shape = true) fields
        e.declared := by
  have itself (shape : Shape) : shape.same shape = true := shape.alike_self
  cases e with
  | single x =>
    obtain ⟨id, domain⟩ := x
    exact ⟨_, rfl, rfl, .cons (itself _) (.cons (itself _) .nil)⟩
  | grid x =>
    obtain ⟨id, size, domains, fallback⟩ := x
    exact ⟨_, rfl, rfl, .cons (itself _) (.cons (Value.numbers_same size)
      (.cons (Shape.frozen_same _) (.cons (Value.optionalShape_same fallback) .nil)))⟩
  | cell x =>
    obtain ⟨array, indices⟩ := x
    exact ⟨_, rfl, rfl, .cons (itself _) (.cons (Value.numbers_same indices) .nil)⟩
  | objective x =>
    obtain ⟨sense, id, kind, terms, coefficients, expression⟩ := x
    exact ⟨_, rfl, by cases sense <;> rfl, .cons (itself _) (.cons (itself _) (.cons (itself _)
      (.cons (Value.numbers_same coefficients) (.cons (itself _) .nil))))⟩
  | constraint c =>
    cases c with
    | intension c =>
      obtain ⟨id, expression⟩ := c
      exact ⟨_, rfl, rfl, .cons (itself _) (.cons (itself _) .nil)⟩
    | table c =>
      obtain ⟨id, scope, supports, conflicts⟩ := c
      exact ⟨_, rfl, rfl, .cons (itself _) (.cons (itself _) (.cons (itself _)
        (.cons (itself _) .nil)))⟩
    | regular c =>
      obtain ⟨id, scope, automaton⟩ := c
      exact ⟨_, rfl, rfl, .cons (itself _) (.cons (itself _) (.cons
        (Value.tuple_same .ofTransition Value.shape_ofTransition automaton.transitions)
        (.cons (itself _) (.cons (Value.texts_same automaton.finals) .nil))))⟩
    | mdd c =>
      obtain ⟨id, scope, diagram⟩ := c
      exact ⟨_, rfl, rfl, .cons (itself _) (.cons (itself _) (.cons
        (Value.tuple_same .ofTransition Value.shape_ofTransition diagram.transitions)
        (.cons (itself _) (.cons (itself _) .nil))))⟩
  | whole x =>
    obtain ⟨format, framework, vars, constraints, objectives, annotations⟩ := x
    exact ⟨_, rfl, rfl, .cons (itself _) (.cons (itself _) (.cons (itself _) (.cons (itself _)
      (.cons (Value.optionalShape_same objectives)
        (.cons (Value.optionalMapping_same annotations) .nil)))))⟩

/-- What any factory has made, the class of the entity makes again of the fields that the entity
stores, some of them given by position and the others by name. It is the same entity, so it derives
the same from its fields, and it equals itself. -/
theorem rebuilt {c : EntityClass} {f : Factory} {args : List Value}
    {arguments : List (String × Value)} {e : Entity Value}
    (made : c.request f args arguments = .ok e) (count : Nat) {named : List (String × Value)}
    (others : named.Perm (e.namedFields.drop count)) :
    e.entityClass.request .constructor (e.declared.take count) named = .ok e ∧
      (Value.entity e).same (.entity e) = true := by
  obtain ⟨signature, _, made⟩ := bind_eq_ok.mp made
  obtain ⟨values, _, made⟩ := bind_eq_ok.mp made
  have again : e.entityClass.assemble .constructor e.declared = .ok e :=
    EntityClass.assemble_declared (EntityClass.origin_of_assemble made).1
  have bound := Signature.bind_of_divided e.entityClass.distinct_fields e.length_declared others
  constructor
  · exact bind_eq_ok.mpr ⟨_, rfl, bind_eq_ok.mpr ⟨_, bound, again⟩⟩
  · exact (Value.entity e).same_self

/-- The options of a diagram element in which nodes and values are given in several ways. -/
def mixedOptions : List (String × Value) :=
  [("variables", .list [.text "x", .handle 0 (.text "y")]),
    ("transitions",
      .list [.tuple [.int 0, .bool true, .text "a"], .list [.text "a", .text "2", .int 9]]),
    ("root", .int 0), ("terminal", .text "9")]

/-- The diagram that these options describe. -/
def mixedDiagram : Mdd Value :=
  ⟨"", [.text "x", .handle 0 (.text "y")],
    ⟨[⟨"0", .bool true, "a"⟩, ⟨"a", .int 2, "9"⟩], "0", "9", [["0"], ["a"]], rfl⟩⟩

/-- A diagram whose nodes were given as numbers and as texts is made again from its own fields, two
of them by position and the others by name in another order. -/
theorem rebuilt_mixed :
    EntityClass.mdd.request .element [] mixedOptions = .ok (.constraint (.mdd mixedDiagram)) ∧
      EntityClass.mdd.request .constructor [.text "", .tuple [.text "x", .handle 0 (.text "y")]]
        [("terminal", .text "9"), ("root", .text "0"),
          ("transitions", .tuple [.tuple [.text "0", .bool true, .text "a"],
            .tuple [.text "a", .int 2, .text "9"]])] = .ok (.constraint (.mdd mixedDiagram)) := by
  have made : EntityClass.mdd.request .element [] mixedOptions =
      .ok (.constraint (.mdd mixedDiagram)) := rfl
  exact ⟨made, (rebuilt made 2 (List.reverse_perm _)).1⟩

end Csp