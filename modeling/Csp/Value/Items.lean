import Csp.Value.View

/-!
# The items of a value

Texts, lists, tuples, progressions and dictionaries have items: the characters,
the items themselves, the numbers, the keys. Nothing else has.

Items can be listed, or they can be gone through one by one. The difference
shows for progressions, which may be longer than any list: going through one
succeeds or fails at some item, listing it fails at once.

Values can also be put one after the other into a collection that keeps each key
once. A value that is the same key as an earlier one is recognised as that one,
and a value that cannot be a key is refused without disturbing the others.
-/
namespace Csp.Value

/-- Sizes are less than this. It is the greatest signed number of 64 bits and one more, which is the
limit of the runtime on the size of a collection. -/
def countLimit : Nat := Nat.pow 2 63

/-- A single character as a text. -/
def ofChar (c : Char) : Value := .text (String.singleton c)

/-- The list of the items, in order. -/
def items : Value → Except Failure (List Value)
  | .text s => .ok (s.toList.map ofChar)
  | .list items | .tuple items => .ok items
  | .progression r => if r.length < countLimit then .ok (r.toList.map .int) else .error .tooLarge
  | .dict entries => .ok (entries.map (·.1))
  | _ => .error .notIterable

/-- The results of an action on the items one by one, up to the first failure. A progression is gone
through without listing its terms. -/
def mapItems {β : Type} (action : Value → Except Failure β) : Value → Except Failure (List β)
  | .progression r => r.mapM fun n => action (.int n)
  | v => do (← v.items).mapM action

/-- The result of an action that goes on from what it made of the items before, up to the first
failure. -/
def foldItems {β : Type} (action : β → Value → Except Failure β) (start : β) :
    Value → Except Failure β
  | .progression r => r.foldM (fun made n => action made (.int n)) start
  | v => do (← v.items).foldlM action start

/-- The number of items. -/
def size : Value → Except Failure Nat
  | .text s => .ok s.length
  | .list items | .tuple items => .ok items.length
  | .progression r => if r.length < countLimit then .ok r.length else .error .tooLarge
  | .dict entries => .ok entries.length
  | _ => .error .noSize

/-- Whether a value counts as true where a condition is meant: everything does except
nothing, the number zero and what has no items. -/
def isTrue : Value → Bool
  | .null => false
  | .bool b => b
  | .int n => n != 0
  | .double x => x.normal != .finite 0
  | .text s => !s.isEmpty
  | .list items | .tuple items => !items.isEmpty
  | .progression r => r.length != 0
  | .dict entries => !entries.isEmpty
  | _ => true

/-- A list as a tuple, which cannot change any more. Lists deeper inside stay as they are. -/
def frozen : Value → Value
  | .list items => .tuple items
  | v => v

/-- The items of a value, each frozen. The collection itself becomes a tuple. -/
def frozenItems (v : Value) : Except Failure (List Value) := v.mapItems fun item => .ok item.frozen

/-- A value that must be usable as a key. Lists and mappings are refused, also where they stand
inside a tuple. -/
def asKey (v : Value) : Except Failure Value :=
  if v.isHashable then .ok v else .error .notHashable

/-- Puts a value under a key. A key that is there already keeps its place and its first form. -/
def putEntry (key value : Value) : List (Value × Value) → List (Value × Value)
  | [] => [(key, value)]
  | (key', value') :: rest =>
    if key' == key then (key', value) :: rest else (key', value') :: putEntry key value rest

/-- The mapping that arises from putting entries one after the other. -/
def mappingOf (entries : List (Value × Value)) : List (Value × Value) :=
  entries.foldl (fun mapping (key, value) => putEntry key value mapping) []

/-- An item of two items as an entry. -/
def asEntry (v : Value) : Except Failure (Value × Value) := do
  match ← v.items with
  | [key, value] => return (← key.asKey, value)
  | _ => throw .wrongCount

/-- A mapping out of a dictionary, or out of items of two items each. -/
def entries : Value → Except Failure (List (Value × Value))
  | .dict entries => .ok entries
  | v => do return mappingOf (← v.mapItems asEntry)

/-- A key that has been put into a collection, with its hash and the place where it came. -/
structure Key where
  hash : Int
  value : Value
  place : Nat

/-- The place of the first key with a hash that equals a value. Keys with another hash are not
compared at all, so what equals a key under another hash is not found. -/
def placeAmong (keys : List Key) (hash : Int) (v : Value) : Option Nat :=
  (keys.find? fun key => key.hash == hash && key.value.same v).map (·.place)

/-- For each value the place of the first one that is the same key, given the keys so far. A value
that is not found is put in as a new key. -/
def places (keys : List Key) (next : Nat) : List Value → List (Except Failure Nat)
  | [] => []
  | v :: rest => match v.hash? with
    | none => .error .notHashable :: places keys (next + 1) rest
    | some hash => match placeAmong keys hash v with
      | some place => .ok place :: places keys (next + 1) rest
      | none => .ok next :: places (keys ++ [⟨hash, v, next⟩]) (next + 1) rest

/-- For each value of a list the place of the first one that is the same key. -/
def firstPlaces (values : List Value) : List (Except Failure Nat) := places [] 0 values

/-- What can be listed has as many items as its size says. -/
theorem size_of_items {v : Value} {list : List Value} (listed : v.items = .ok list) :
    v.size = .ok list.length := by
  unfold items at listed
  split at listed
  · cases listed; simp [size, String.length_toList]
  · cases listed; rfl
  · cases listed; rfl
  · split at listed
    · rename_i counted
      cases listed
      simp [size, counted]
    · cases listed
  · cases listed; simp [size]
  · cases listed

/-- Going through the items of what can be listed is going through the list. -/
theorem mapItems_of_items {β : Type} {v : Value} {list : List Value}
    (action : Value → Except Failure β) (listed : v.items = .ok list) :
    v.mapItems action = list.mapM action := by
  unfold mapItems
  split
  · rename_i r
    simp only [items] at listed
    split at listed
    · cases listed
      rw [Progression.mapM_eq, List.mapM_map]
      rfl
    · cases listed
  · rw [listed]
    rfl

/-- The same holds where each step goes on from the one before. -/
theorem foldItems_of_items {β : Type} {v : Value} {list : List Value}
    (action : β → Value → Except Failure β) (start : β) (listed : v.items = .ok list) :
    v.foldItems action start = list.foldlM action start := by
  unfold foldItems
  split
  · rename_i r
    simp only [items] at listed
    split at listed
    · cases listed
      rw [Progression.foldM_eq, List.foldlM_map]
    · cases listed
  · rw [listed]
    rfl

end Csp.Value
