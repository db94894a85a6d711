import TemplateEngine.Value.Text

/-!
# Truth, comparison and items of values

Numbers compare by size, whichever kind they are of, and a truth value counts as zero or one.
Texts and lists compare by their first difference. Other values have no order.

## Main definitions

* `Value.truth`: whether a value counts as true.
* `Value.equal`, `Value.less`: comparison.
* `Value.items`, `Value.size`, `Value.isIn`: values as collections.
-/

namespace TemplateEngine

/-- A number of either kind. -/
inductive Quantity where
  | whole (n : Int)
  | binary (x : Float)

namespace Quantity

/-- A number as a floating-point number. -/
def toFloat : Quantity → Float
  | .whole n => Float.ofInt n
  | .binary x => x

/-- Whether two numbers are of the same size. -/
def equal : Quantity → Quantity → Bool
  | .whole m, .whole n => m == n
  | a, b => a.toFloat == b.toFloat

/-- Whether the first number is smaller. -/
def less : Quantity → Quantity → Bool
  | .whole m, .whole n => m < n
  | a, b => a.toFloat < b.toFloat

end Quantity

namespace Value

/-- A value as a number, if it is one. -/
def quantity? : Value → Option Quantity
  | .bool b => some (.whole (if b then 1 else 0))
  | .int n => some (.whole n)
  | .float x => some (.binary x)
  | _ => none

/-- Whether a value counts as true. Nothing, zero and whatever is empty do not; asking a missing
value is a fault. -/
def truth : Value → Except Fault Bool
  | .null => .ok false
  | .bool b => .ok b
  | .int n => .ok (n != 0)
  | .float x => .ok (x != 0)
  | .str s => .ok (s != "")
  | .list items => .ok (!items.isEmpty)
  | .dict entries => .ok (!entries.isEmpty)
  | .absent why => if why.isStrict then .error (.absent why) else .ok false
  | _ => .ok true

/-- Whether two values that are no collections are the same. -/
def equalScalar : Value → Value → Bool
  | .null, .null => true
  | .str s, .str t => s == t
  | .path p, .path q => p == q
  | .mode m, .mode n => m == n
  | .absent _, .absent _ => true
  | .template m, .template n => m == n
  | .method m, .method n => m == n
  | a, b => match a.quantity?, b.quantity? with
    | some m, some n => m.equal n
    | _, _ => false

mutual

/-- Whether two values are the same. -/
def equal : Value → Value → Bool
  | .list xs, .list ys => equalItems xs ys
  | .dict xs, .dict ys => xs.length == ys.length && equalEntries xs ys
  | a, b => equalScalar a b

/-- Whether two lists agree item by item. -/
def equalItems : List Value → List Value → Bool
  | [], [] => true
  | x :: xs, y :: ys => equal x y && equalItems xs ys
  | _, _ => false

/-- Whether every entry is found in another dictionary. -/
def equalEntries : List (String × Value) → List (String × Value) → Bool
  | [], _ => true
  | (key, x) :: xs, ys =>
    (match Dictionary.value? ys key with
      | some y => equal x y
      | none => false) && equalEntries xs ys

end

mutual

/-- Whether the first value comes before the second one. -/
def less : Value → Value → Except Fault Bool
  | .str s, .str t => .ok (s < t)
  | .list xs, .list ys => lessItems xs ys
  | a, b => match a.quantity?, b.quantity? with
    | some m, some n => .ok (m.less n)
    | _, _ => .error .wrongType

/-- Whether the first list comes before the second one: the first difference decides. -/
def lessItems : List Value → List Value → Except Fault Bool
  | _, [] => .ok false
  | [], _ :: _ => .ok true
  | x :: xs, y :: ys => if equal x y then lessItems xs ys else less x y

end

/-- The missing value among two, if there is one whose use is a fault. -/
def strictAbsent? : Value → Option Absent
  | .absent why => if why.isStrict then some why else none
  | _ => none

/-- The items that a value hands out one by one: those of a list, the characters of a text, the
keys of a dictionary. -/
def items : Value → Except Fault (List Value)
  | .list xs => .ok xs
  | .iterator _ xs => .ok xs
  | .str s => .ok (s.toList.map fun c => .str (String.singleton c))
  | .dict entries => .ok (entries.map fun entry => .str entry.1)
  | .absent why => if why.isStrict then .error (.absent why) else .ok []
  | _ => .error .wrongType

/-- The number of items of a collection. -/
def size : Value → Except Fault Nat
  | .list xs => .ok xs.length
  | .str s => .ok s.length
  | .dict entries => .ok entries.length
  | .absent why => if why.isStrict then .error (.absent why) else .ok 0
  | _ => .error .wrongType

/-- Whether a list of characters stands somewhere in another one. -/
def occursIn (part : List Char) : List Char → Bool
  | [] => part.isEmpty
  | c :: rest => part.isPrefixOf (c :: rest) || occursIn part rest

/-- Whether a value is among the items of a list; a missing value cannot be compared. -/
def isAmong (v : Value) : List Value → Except Fault Bool
  | [] => .ok false
  | x :: rest =>
    match v.strictAbsent?, x.strictAbsent? with
    | some why, _ => .error (.absent why)
    | none, some why => .error (.absent why)
    | none, none => if equal v x then .ok true else isAmong v rest

/-- Whether a value is contained in a collection. -/
def isIn (v : Value) : Value → Except Fault Bool
  | .list xs => v.isAmong xs
  | .iterator _ xs => v.isAmong xs
  | .str s => match v with
    | .str t => .ok (occursIn t.toList s.toList)
    | _ => .error .wrongType
  | .dict entries => match v with
    | .str key => .ok (Dictionary.holds entries key)
    | .list _ => .error .wrongType
    | .dict _ => .error .wrongType
    | .absent why => if why.isStrict then .error (.absent why) else .ok false
    | _ => .ok false
  | .absent why => if why.isStrict then .error (.absent why) else .ok false
  | _ => .error .wrongType

/-- Puts a value behind those that are not greater. -/
def insertSorted (v : Value) : List Value → Except Fault (List Value)
  | [] => .ok [v]
  | x :: rest => do
    if ← less v x then pure (v :: x :: rest) else pure (x :: (← insertSorted v rest))

/-- The values in ascending order; equal ones keep theirs. -/
def sorted (values : List Value) : Except Fault (List Value) :=
  values.foldlM (fun done v => insertSorted v done) []

end Value

end TemplateEngine
