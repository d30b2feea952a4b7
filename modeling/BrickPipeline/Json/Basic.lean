import BrickPipeline.Entries
import BrickPipeline.Json.Decimal

/-!
JSON values. The fields of an object stand in key order; `Json.Ordered` says so at every depth.
-/
namespace BrickPipeline

/-- A JSON number: an integer or a finite double. `1` and `1.0` are different numbers. -/
inductive Json.Number where
  | integer (n : Int)
  | float (x : Json.Double)
deriving DecidableEq, Inhabited

/-- A JSON value. -/
inductive Json where
  | null
  | bool (b : Bool)
  | number (n : Json.Number)
  | string (s : String)
  | array (items : List Json)
  | object (fields : List (String × Json))
deriving Inhabited

namespace Json

namespace Number

def toDouble? : Number → Option Double
  | .integer n => Double.ofInt? n
  | .float x => some x

def text : Number → String
  | .integer n => toString n
  | .float x => Decimal.text .json x

/-- Equality of numbers of one kind; both float zeros are equal. -/
def same : Number → Number → Bool
  | .integer m, .integer n => decide (m = n)
  | .float x, .float y => x.sameValue y
  | _, _ => false

end Number

def int (n : Int) : Json := .number (.integer n)

def nat (n : Nat) : Json := .number (.integer n)

def get? (key : String) : Json → Option Json
  | .object fields => Entries.get? key fields
  | _ => none

def at? (position : Nat) : Json → Option Json
  | .array items => items[position]?
  | _ => none

theorem get?_object (key : String) (fields : List (String × Json)) :
    (Json.object fields).get? key = Entries.get? key fields := rfl

theorem get?_eq_some_iff {key : String} {value content : Json} :
    value.get? key = some content ↔
      ∃ fields, value = .object fields ∧ Entries.get? key fields = some content := by
  cases value <;> simp [get?]

theorem at?_eq_some_iff {position : Nat} {value content : Json} :
    value.at? position = some content ↔
      ∃ items, value = .array items ∧ items[position]? = some content := by
  cases value <;> simp [at?]

def asString? : Json → Option String
  | .string s => some s
  | _ => none

/-- A number that is an integer and not negative. -/
def asNat? : Json → Option Nat
  | .number (.integer n) => if 0 ≤ n then some n.toNat else none
  | _ => none

def asDouble? : Json → Option Double
  | .number n => n.toDouble?
  | _ => none

def isNull : Json → Bool
  | .null => true
  | _ => false

/-- An optional text, null when absent. -/
def ofOption : Option String → Json
  | none => .null
  | some s => .string s

mutual

/-- Equality of JSON values: structural, except that the two float zeros are equal. -/
def same : Json → Json → Bool
  | .null, .null => true
  | .bool a, .bool b => a == b
  | .number m, .number n => m.same n
  | .string s, .string t => decide (s = t)
  | .array xs, .array ys => sameItems xs ys
  | .object xs, .object ys => sameFields xs ys
  | _, _ => false

def sameItems : List Json → List Json → Bool
  | [], [] => true
  | x :: xs, y :: ys => same x y && sameItems xs ys
  | _, _ => false

def sameFields : List (String × Json) → List (String × Json) → Bool
  | [], [] => true
  | (k, x) :: xs, (l, y) :: ys => decide (k = l) && same x y && sameFields xs ys
  | _, _ => false

end

mutual

/-- Every object in the value has its keys in strictly increasing order. -/
def Ordered : Json → Prop
  | .array items => OrderedItems items
  | .object fields => Entries.Sorted fields ∧ OrderedFields fields
  | _ => True

def OrderedItems : List Json → Prop
  | [] => True
  | x :: xs => Ordered x ∧ OrderedItems xs

def OrderedFields : List (String × Json) → Prop
  | [] => True
  | (_, x) :: xs => Ordered x ∧ OrderedFields xs

end

theorem orderedItems_iff {items : List Json} :
    OrderedItems items ↔ ∀ item ∈ items, item.Ordered := by
  induction items with
  | nil => simp [OrderedItems]
  | cons item rest ih => simp [OrderedItems, ih]

theorem orderedFields_iff {fields : List (String × Json)} :
    OrderedFields fields ↔ ∀ field ∈ fields, field.2.Ordered := by
  induction fields with
  | nil => simp [OrderedFields]
  | cons field rest ih => simp [OrderedFields, ih]

/-- An object from bindings in any order; the last binding of a key wins. -/
def ofFields (fields : List (String × Json)) : Json := .object (Entries.ofList fields)

end Json
end BrickPipeline
