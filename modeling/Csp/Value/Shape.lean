import Csp.Double.Written
import Csp.Failure
import Csp.Text.Quoted

/-!
# Shapes

A shape is a value as a tree of a few node types, in which an entity is a
record with a class name and named fields. Equality, hashing and the written
form look at nothing else, so they are defined here, once for all classes.

Numbers of all types are compared by their exact value. Lists and tuples are
compared item by item and never equal each other. The order of the entries of a
mapping does not count. Records are equal when class and fields are.

A key is found by its hash and, among keys with that hash, by equality. What is
equal should have the same hash, then; this is not part of the definitions, and
it fails for handles, which are equal by their identifiers and hashed as the
objects that they are. A frozen mapping takes part in equality only.
-/
namespace Csp

/-- The written form of a progression; a step of one is left out. -/
def Progression.written (r : Progression) : Except Failure String := do
  let bounds := (← numeral r.start) ++ ", " ++ (← numeral r.stop)
  if r.step = 1 then return "range(" ++ bounds ++ ")"
  return "range(" ++ bounds ++ ", " ++ (← numeral r.step) ++ ")"

/-! ## Hashes -/

/-- The greatest hash and one more. Any modulus would do for what is proved about hashes. -/
def hashModulus : Int := Nat.pow 2 61 - 1

/-- A hash with one more part. The order of the parts counts. Which hash comes out is not specified,
and only that it is determined by the parts matters. -/
def mixHash (hash part : Int) : Int := (1000003 * hash + part) % hashModulus

/-- The hash of a text: that of its characters from the first one on. -/
def hashText (s : String) : Int := s.toList.foldl (fun hash c => mixHash hash c.toNat) 0

/-- The hash of a double. The two zeros have one hash, since they are equal. -/
def Double.hash : Double → Int
  | .finite .zero | .negativeZero => 0
  | .finite (.ofOdd n precision _) => mixHash n precision
  | .infinite negative => if negative then -1 else 1
  | .notANumber occurrence => occurrence

/-- The hash of a progression is made of what tells its terms: their number, the first one if there
is any, and the step if there are several. -/
def Progression.hash (r : Progression) : Int :=
  let first := if r.length = 0 then 0 else r.start
  let step := if r.length ≤ 1 then 0 else r.step
  mixHash (mixHash r.length first) step

/-! ## Numbers -/

/-- A number of any type. -/
inductive Number where
  | bool (b : Bool)
  | int (n : Int)
  | double (x : Double)
deriving DecidableEq

namespace Number

/-- The exact value by which numbers of all types are compared. -/
def exact : Number → Double
  | .bool b => .finite (if b then 1 else 0)
  | .int n => .finite n
  | .double x => x.normal

/-- Numerical equality. -/
def same (a b : Number) : Bool := decide (a.exact = b.exact)

/-- Numbers are hashed by their exact value, whatever their types are. -/
def hash (n : Number) : Int := n.exact.hash

/-- The written form. -/
def written : Number → Except Failure String
  | .bool b => .ok (if b then "True" else "False")
  | .int n => numeral n
  | .double x => .ok x.written

end Number

/-- A label as a number. -/
def Label.number : Label → Number
  | .int n => .int n
  | .bool b => .bool b

/-- The written form of a label, which keeps truth values apart from integers. -/
def Label.written (label : Label) : Except Failure String := label.number.written

/-! ## Trees -/

/-- A value as a tree. A symbol has a family and a name within it, which decide equality,
and a written form of its own. Handles and trees carry the numbers of the objects they are. -/
inductive Shape where
  | null
  | number (n : Number)
  | text (s : String)
  | progression (r : Progression)
  | symbol (family name form : String)
  | handle (number : Nat) (id : Shape)
  | tree (number : Nat) (form : String)
  | list (items : List Shape)
  | tuple (items : List Shape)
  /-- Entries with keys of which no two are the same. A frozen mapping is a field of an entity. -/
  | mapping (frozen : Bool) (entries : List (Shape × Shape))
  | record (name : String) (fields : List (String × Shape))

namespace Shape

mutual

/-- The hash of what can be a key. Lists and mappings have none, and whatever holds one has none
either, except that the frozen mappings of an entity are left out of account. The class of a record
is left out too. -/
def hash? : Shape → Option Int
  | .null => some 0
  | .number n => some n.hash
  | .text s => some (hashText s)
  | .progression r => some r.hash
  | .symbol _ name _ => some (hashText name)
  | .handle object _ | .tree object _ => some object
  | .list _ => none
  | .tuple items => hashItems? items
  | .mapping frozen _ => if frozen then some 0 else none
  | .record _ fields => hashFields? fields

/-- The hash of a tuple, made of those of its items. -/
def hashItems? : List Shape → Option Int
  | [] => some 0
  | item :: rest => (hash? item).bind fun hash => (hashItems? rest).map (mixHash · hash)

/-- The hash of a record, made of those of its fields. -/
def hashFields? : List (String × Shape) → Option Int
  | [] => some 0
  | (_, field) :: rest => (hash? field).bind fun hash => (hashFields? rest).map (mixHash · hash)

end

/-- Whether a value can be a key. -/
def isHashable (shape : Shape) : Bool := shape.hash?.isSome

mutual

/-- Whether two shapes are alike, by equality of their parts. Values of different types are alike
only if both are numbers. -/
def alike : Shape → Shape → Bool
  | .null, .null => true
  | .number a, .number b => a.same b
  | .text a, .text b => a == b
  | .progression a, .progression b => a.same b
  | .symbol family name _, .symbol family' name' _ => family == family' && name == name'
  | .handle m a, .handle n b => m == n || alike a b
  | .tree m _, .tree n _ => m == n
  | .list as, .list bs => alikeItems as bs
  | .tuple as, .tuple bs => alikeItems as bs
  | .mapping _ as, .mapping _ bs => as.length == bs.length && alikeEntries as bs
  | .record name fields, .record name' fields' => name == name' && alikeFields fields fields'
  | _, _ => false
termination_by structural a => a

/-- Item by item. -/
def alikeItems : List Shape → List Shape → Bool
  | [], [] => true
  | a :: as, b :: bs => alike a b && alikeItems as bs
  | _, _ => false

/-- Every entry of the first mapping is an entry of the second: the second has its key, found by
hash and equality, and an equal value under it. -/
def alikeEntries : List (Shape × Shape) → List (Shape × Shape) → Bool
  | [], _ => true
  | (key, value) :: rest, entries =>
    entries.any (fun entry =>
        key.hash? == entry.1.hash? && alike key entry.1 && alike value entry.2) &&
      alikeEntries rest entries

/-- Field by field; records of one class have the same field names. -/
def alikeFields : List (String × Shape) → List (String × Shape) → Bool
  | [], [] => true
  | (_, a) :: as, (_, b) :: bs => alike a b && alikeFields as bs
  | _, _ => false

end

/-- Equality. -/
def same (a b : Shape) : Bool := a.alike b

/-- Whether two shapes are one key: a key is looked for among those with its hash, and recognised by
equality. -/
def sameKey (a b : Shape) : Bool := a.hash? == b.hash? && a.same b

/-! ## Written forms -/

mutual

/-- The written form, from which a reader sees the type of every part. A handle is written as its
identifier, which has to be a text for that, and a long integer cannot be written; of several such
parts the first one decides the failure. -/
def written : Shape → Except Failure String
  | .null => .ok "None"
  | .number n => n.written
  | .text s => .ok (Text.quoted s)
  | .progression r => r.written
  | .symbol _ _ form => .ok form
  | .handle _ (.text name) => .ok name
  | .handle .. => .error .notText
  | .tree _ form => .ok form
  | .list items => do return "[" ++ (← writtenItems items) ++ "]"
  | .tuple [item] => do return "(" ++ (← written item) ++ ",)"
  | .tuple items => do return "(" ++ (← writtenItems items) ++ ")"
  | .mapping false entries => do return "\x7b" ++ (← writtenEntries entries) ++ "\x7d"
  | .mapping true entries => do
    return "mappingproxy(\x7b" ++ (← writtenEntries entries) ++ "\x7d)"
  | .record name fields => do return name ++ "(" ++ (← writtenFields fields) ++ ")"

/-- The items, separated by commas. -/
def writtenItems : List Shape → Except Failure String
  | [] => .ok ""
  | [item] => written item
  | item :: rest => do return (← written item) ++ ", " ++ (← writtenItems rest)

/-- The entries, separated by commas. -/
def writtenEntries : List (Shape × Shape) → Except Failure String
  | [] => .ok ""
  | [(key, value)] => do return (← written key) ++ ": " ++ (← written value)
  | (key, value) :: rest => do
    return (← written key) ++ ": " ++ (← written value) ++ ", " ++ (← writtenEntries rest)

/-- The fields with their names, separated by commas. -/
def writtenFields : List (String × Shape) → Except Failure String
  | [] => .ok ""
  | [(name, field)] => do return name ++ "=" ++ (← written field)
  | (name, field) :: rest => do
    return name ++ "=" ++ (← written field) ++ ", " ++ (← writtenFields rest)

end

end Shape
end Csp
