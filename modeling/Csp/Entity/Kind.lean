/-!
# Kinds of objectives

An objective is either a single expression or an aggregate over a list of
terms. Each kind has an attribute value, by which a document names it, and a
member name in capital letters. A document reader tags its objectives with the
same kinds and with one more, the product, for which there is no kind here.
-/
namespace Csp

/-- What an objective optimises. -/
inductive ObjectiveKind where
  | expression
  | sum
  | minimum
  | maximum
  | nValues
  | lex
deriving DecidableEq

/-- The tag that a document reader attaches to an aggregate objective. -/
inductive ReaderTag where
  | kind (k : ObjectiveKind)
  | product
deriving DecidableEq

namespace ObjectiveKind

/-- All kinds, in the order in which they are declared. -/
def all : List ObjectiveKind := [.expression, .sum, .minimum, .maximum, .nValues, .lex]

/-- The attribute value of a kind. -/
def spelling : ObjectiveKind → String
  | .expression => "expression"
  | .sum => "sum"
  | .minimum => "minimum"
  | .maximum => "maximum"
  | .nValues => "nValues"
  | .lex => "lex"

/-- The member name of a kind. -/
def name : ObjectiveKind → String
  | .expression => "EXPRESSION"
  | .sum => "SUM"
  | .minimum => "MINIMUM"
  | .maximum => "MAXIMUM"
  | .nValues => "NVALUES"
  | .lex => "LEX"

/-- The kind with a given attribute value. Case and blanks count. -/
def ofSpelling? (text : String) : Option ObjectiveKind := all.find? (·.spelling == text)

end ObjectiveKind

namespace ReaderTag

/-- The text of a tag is its member name in small letters, which is the attribute value of its
kind but for one letter of one of them. -/
def spelling : ReaderTag → String
  | .kind .nValues => "nvalues"
  | .kind k => k.spelling
  | .product => "product"

/-- The number of a tag in the reader's table of all its tags. -/
def number : ReaderTag → Nat
  | .kind .expression => 188
  | .kind .sum => 189
  | .product => 190
  | .kind .minimum => 191
  | .kind .maximum => 192
  | .kind .nValues => 193
  | .kind .lex => 194

/-- The member name of a tag. -/
def name : ReaderTag → String
  | .kind k => k.name
  | .product => "PRODUCT"

end ReaderTag
end Csp
