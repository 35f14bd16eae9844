import Csp.Double.Basic
import Csp.Progression
import Csp.Entity.Basic

/-!
# Values

Arguments reach the constructors untyped, as a document reader or a caller has
them at hand: texts where numbers are meant, lists where tuples are kept, other
entities as identifiers. A value is any such argument, and also any part of an
entity into which the model does not look.

Variables and trees of a document reader are objects of their own: the reader
may hand over two of them that look the same. Each carries the number of the
object that it is, so that it can be told from all others.
-/
namespace Csp

/-- An argument of any type. -/
inductive Value where
  | null
  | bool (b : Bool)
  | int (n : Int)
  | double (x : Double)
  | text (s : String)
  | list (items : List Value)
  | tuple (items : List Value)
  | progression (r : Progression)
  | dict (entries : List (Value × Value))
  | kind (k : ObjectiveKind)
  | tag (t : ReaderTag)
  /-- A variable as a document reader hands it over: only its identifier is known. -/
  | handle (number : Nat) (id : Value)
  /-- An expression tree of a document reader: only its text is known. -/
  | tree (number : Nat) (text : String)
  | entity (e : Entity Value)

namespace Value

instance : Inhabited Value := ⟨.null⟩

/-- The value of a label. -/
def ofLabel : Label → Value
  | .int n => .int n
  | .bool b => .bool b

/-- A transition as a triple. -/
def ofTransition (t : Transition String Label) : Value :=
  .tuple [.text t.source, ofLabel t.value, .text t.target]

end Value
end Csp
