import TemplateEngine.Value.Compare

/-!
# Arithmetic of values

Numbers add, subtract, multiply and divide with rounding to the floor. Texts and lists add by
concatenation and multiply by repetition. Everything else is a fault.

## Main definitions

* `Value.add`, `Value.subtract`, `Value.multiply`, `Value.floorDivide`, `Value.modulo`,
  `Value.negate`.
-/

namespace TemplateEngine

namespace Quantity

/-- A number as a value. -/
def toValue : Quantity → Value
  | .whole n => .int n
  | .binary x => .float x

/-- Combines two numbers: as whole numbers if both are, and as floating-point numbers otherwise. -/
def combine (whole : Int → Int → Int) (binary : Float → Float → Float) :
    Quantity → Quantity → Quantity
  | .whole m, .whole n => .whole (whole m n)
  | a, b => .binary (binary a.toFloat b.toFloat)

/-- Whether a number is zero. -/
def isZero : Quantity → Bool
  | .whole n => n == 0
  | .binary x => x == 0

end Quantity

namespace Value

/-- Combines two values as numbers. A missing value cannot be used. -/
def onQuantities (f : Quantity → Quantity → Except Fault Value) (a b : Value) :
    Except Fault Value :=
  match a, b with
  | .absent why, _ => .error (.absent why)
  | _, .absent why => .error (.absent why)
  | a, b => match a.quantity?, b.quantity? with
    | some m, some n => f m n
    | _, _ => .error .wrongType

/-- The sum of two numbers, or one text or list behind another one. -/
def add : Value → Value → Except Fault Value
  | .str s, .str t => .ok (.str (s ++ t))
  | .list xs, .list ys => .ok (.list (xs ++ ys))
  | a, b => onQuantities (fun m n => .ok (m.combine (· + ·) (· + ·) n).toValue) a b

/-- The difference of two numbers. -/
def subtract (a b : Value) : Except Fault Value :=
  onQuantities (fun m n => .ok (m.combine (· - ·) (· - ·) n).toValue) a b

/-- A list repeated; not at all for a negative count. -/
def repeated {α : Type} (items : List α) (count : Int) : List α :=
  (List.replicate count.toNat items).flatten

/-- The product of two numbers, or a text or list repeated. -/
def multiply : Value → Value → Except Fault Value
  | .str s, .int n => .ok (.str (String.ofList (repeated s.toList n)))
  | .int n, .str s => .ok (.str (String.ofList (repeated s.toList n)))
  | .list xs, .int n => .ok (.list (repeated xs n))
  | .int n, .list xs => .ok (.list (repeated xs n))
  | a, b => onQuantities (fun m n => .ok (m.combine (· * ·) (· * ·) n).toValue) a b

/-- The quotient rounded to the floor. -/
def floorDivide (a b : Value) : Except Fault Value :=
  onQuantities (fun m n =>
    if n.isZero then .error (.plain .zeroDivision)
    else .ok (m.combine Int.fdiv (fun x y => (x / y).floor) n).toValue) a b

/-- The rest of the division that rounds to the floor. -/
def modulo (a b : Value) : Except Fault Value :=
  onQuantities (fun m n =>
    if n.isZero then .error (.plain .zeroDivision)
    else .ok (m.combine Int.fmod (fun x y => x - y * (x / y).floor) n).toValue) a b

/-- The number with the other sign. -/
def negate (v : Value) : Except Fault Value :=
  match v with
  | .absent why => .error (.absent why)
  | v => match v.quantity? with
    | some (.whole n) => .ok (.int (-n))
    | some (.binary x) => .ok (.float (-x))
    | none => .error .wrongType

end Value

end TemplateEngine
