import Csp.Request

/-!
# Sealed entities

An entity cannot be changed once it is made: assigning to an attribute or
deleting it is refused whatever its name, and its collections are frozen, so
that nothing can be put into them either.

What an entity keeps as it was given is not sealed by that. An identifier, an
expression or a tag of an instance is meant to be a text, but nothing enforces
it, and if it is a list or a dictionary then something can be put into it.
-/
namespace Csp

/-- An attempt to change a value at an attribute. -/
inductive Change where
  | assign (value : Value)
  | delete
  | putInside (key value : Value)

/-- The attributes that a class derives from its fields. -/
def EntityClass.derived : EntityClass → List String
  | .single | .cell | .intension => []
  | .grid => ["dimensions"]
  | .minimize | .maximize => ["minimize", "is_expression"]
  | .table => ["positive", "table", "is_unary", "is_short"]
  | .regular => ["states", "alphabet"]
  | .mdd => ["levels", "nodes"]
  | .whole => ["is_optimization"]

/-- Whether the entities of a class have an attribute: a field, something derived, or a factory
of the class. -/
def EntityClass.hasAttribute (c : EntityClass) (name : String) : Bool :=
  c.fields.any (·.name == name) || c.derived.contains name ||
    ((Factory.ofName? name).bind c.signature?).isSome

/-- A part that an entity keeps as it was given, with the way to replace it. -/
def Entity.given? : Entity Value → (name : String) → Option (Value × (Value → Entity Value))
  | .single x, "id" => some (x.id, fun id => .single { x with id })
  | .grid x, "id" => some (x.id, fun id => .grid { x with id })
  | .cell x, "array_id" => some (x.array, fun array => .cell { x with array })
  | .objective x, "expression" =>
    some (x.expression, fun expression => .objective { x with expression })
  | .constraint (.intension c), "expression" =>
    some (c.expression, fun expression => .constraint (.intension { c with expression }))
  | .whole x, "format" => some (x.format, fun format => .whole { x with format })
  | .whole x, "type" => some (x.framework, fun framework => .whole { x with framework })
  | _, _ => none

namespace Value

/-- Whether a value has an attribute. -/
def hasAttribute : Value → (name : String) → Bool
  | .entity e, name => e.entityClass.hasAttribute name
  | .kind _, name => ["name", "value", "parse", "from_type_obj", "to_type_obj"].contains name
  | .tag _, name => ["name", "value"].contains name
  | .handle .., name => ["id", "name"].contains name
  | _, _ => false

/-- The place in a list of a given size that an index means; a negative index counts from the
end. -/
def place? (size : Nat) (index : Int) : Option Nat :=
  let place := if index < 0 then index + size else index
  if 0 ≤ place ∧ place < size then some place.toNat else none

/-- Puts a value inside a list or a dictionary. A truth value is an index like any integer. Only a
list and a dictionary can be changed from inside. -/
def put (target key value : Value) : Except Failure Value :=
  match target with
  | .list items => match key with
    | .int _ | .bool _ => do
      match place? items.length (← key.whole) with
      | some place => return .list (items.set place value)
      | none => throw .outOfRange
    | _ => .error .notAssignable
  | .dict entries => do return .dict (putEntry (← key.asKey) value entries)
  | _ => .error .notAssignable

/-- Puts a value inside the attribute of an entity or of a handle. -/
def putInside (target : Value) (name : String) (key value : Value) : Except Failure Value :=
  match target with
  | .entity e => match e.given? name with
    | some (part, rebuild) => do return .entity (rebuild (← part.put key value))
    | none => .error .notAssignable
  | .handle number id =>
    if name = "id" then do return .handle number (← id.put key value) else .error .notAssignable
  | _ => .error .notAssignable

/-- Tries a change. Entities and most other values have no attributes that can be assigned; a
handle belongs to the document reader and is open. -/
def change (target : Value) (name : String) (change : Change) : Except Failure Value :=
  match target, change with
  | .entity _, .assign _ => .error (.readOnly ("cannot assign to field " ++ Text.quoted name))
  | .entity _, .delete => .error (.readOnly ("cannot delete field " ++ Text.quoted name))
  | .handle number id, .assign value => .ok (.handle number (if name = "id" then value else id))
  | v, .putInside key value =>
    if v.hasAttribute name then v.putInside name key value else .error .noAttribute
  | _, _ => .error .noAttribute

end Value
end Csp
