/-!
# Numbers written in digits

Digits stand for a number in a base up to sixteen. A number with a point and a power of ten is
read as the nearest floating-point number.

## Main definitions

* `digitOf?`: what a character stands for as a digit.
* `ofDigits?`: the number that digits stand for in a base.
* `decimalToFloat`: the number with digits before and behind a point and a power of ten.
-/

namespace TemplateEngine.Decimal

/-- What a character stands for as a digit; the letters from A to F come behind nine. -/
def digitOf? (c : Char) : Option Nat :=
  if c.isDigit then some (c.toNat - 48)
  else if 'a' ≤ c ∧ c ≤ 'f' then some (c.toNat - 87)
  else if 'A' ≤ c ∧ c ≤ 'F' then some (c.toNat - 55)
  else none

/-- The number that digits stand for in a base, behind those that were read already. -/
def ofDigitsFrom? (base : Nat) : Nat → List Char → Option Nat
  | n, [] => some n
  | n, c :: rest =>
    match digitOf? c with
    | some d => if d < base then ofDigitsFrom? base (n * base + d) rest else none
    | none => none

/-- The number that digits stand for in a base; no digits stand for none. -/
def ofDigits? (base : Nat) (digits : List Char) : Option Nat :=
  if digits = [] then none else ofDigitsFrom? base 0 digits

/-- The number that decimal digits stand for; a character that is no digit counts as zero. -/
def ofDecimalDigits (digits : List Char) : Nat :=
  digits.foldl (fun n c => n * 10 + (digitOf? c).getD 0) 0

/-- The number with given digits before and behind the point, and a power of ten. -/
def decimalToFloat (whole fraction : List Char) (negative : Bool) (power : Nat) : Float :=
  let mantissa := ofDecimalDigits (whole ++ fraction)
  if negative then Float.ofScientific mantissa true (fraction.length + power)
  else if fraction.length ≤ power then Float.ofScientific mantissa false (power - fraction.length)
  else Float.ofScientific mantissa true (fraction.length - power)

end TemplateEngine.Decimal
