/-!
# The shortest decimal that reads back as a given binary number

A finite number is `m · 2 ^ q`. The decimals that read back as it lie between the middles of the
gaps to its two neighbours, the middles themselves included if `m` is even. Of the grids of one,
two, … seventeen digits the first one with a point in that interval is taken, and of its two
points around the number the nearer one.

## Main definitions

* `Binary`: a finite binary number `m · 2 ^ q`, with the flag that its lower gap is half as wide.
* `Decimal`: digits and a power of ten.
* `Binary.shortest`: the shortest decimal that reads back.
* `Number`: what a floating-point number is, and its text.
-/

namespace TemplateEngine

/-- A positive binary number `m · 2 ^ q`. -/
structure Binary where
  m : Nat
  q : Int
  /-- Whether the next number below is only half a gap away. -/
  lowerGapHalved : Bool := false
  deriving Repr

/-- The number `digits · 10 ^ exponent`. -/
structure Decimal where
  digits : Nat
  exponent : Int
  deriving Repr, DecidableEq

namespace Binary

/-- Compares `a · 2 ^ p` with `b · 10 ^ e` in whole numbers: whether the first is at most the
second. -/
def atMost (a : Nat) (p : Int) (b : Nat) (e : Int) : Bool :=
  a * Nat.pow 2 p.toNat * Nat.pow 10 (-e).toNat ≤ b * Nat.pow 10 e.toNat * Nat.pow 2 (-p).toNat

/-- Compares `b · 10 ^ e` with `a · 2 ^ p` in whole numbers: whether the first is at most the
second. -/
def atLeast (a : Nat) (p : Int) (b : Nat) (e : Int) : Bool :=
  b * Nat.pow 10 e.toNat * Nat.pow 2 (-p).toNat ≤ a * Nat.pow 2 p.toNat * Nat.pow 10 (-e).toNat

/-- Whether `digits · 10 ^ e` reads back as the number. Quarters of the gap are counted. -/
def reads (x : Binary) (digits : Nat) (e : Int) : Bool :=
  let low := if x.lowerGapHalved then 4 * x.m - 1 else 4 * x.m - 2
  let high := 4 * x.m + 2
  if x.m % 2 = 0 then
    atMost low (x.q - 2) digits e && atLeast high (x.q - 2) digits e
  else
    !atLeast low (x.q - 2) digits e && !atMost high (x.q - 2) digits e

/-- The whole part of `m · 2 ^ q / 10 ^ e`. -/
def floorAt (x : Binary) (e : Int) : Nat :=
  x.m * Nat.pow 2 x.q.toNat * Nat.pow 10 (-e).toNat /
    (Nat.pow 10 e.toNat * Nat.pow 2 (-x.q).toNat)

/-- The least `k`, at or above a start, with the number below `10 ^ k`. -/
def magnitudeFrom (x : Binary) : Nat → Int → Int
  | 0, k => k
  | fuel + 1, k => if atMost x.m x.q 1 k && !atLeast x.m x.q 1 k then k
      else magnitudeFrom x fuel (k + 1)

/-- The power of ten just above the number. -/
def magnitude (x : Binary) : Int := x.magnitudeFrom 700 (-330)

/-- Of two neighbouring points of a grid the one nearer to the number; a tie goes to the even
one. -/
def nearer (x : Binary) (below : Nat) (e : Int) : Nat :=
  if atLeast (2 * x.m) x.q (2 * below + 1) e then
    if atMost (2 * x.m) x.q (2 * below + 1) e && below % 2 = 0 then below else below + 1
  else below

/-- The point of the grid of step `10 ^ e` that reads back, if there is one. -/
def onGrid? (x : Binary) (e : Int) : Option Nat :=
  let below := x.floorAt e
  match x.reads below e, x.reads (below + 1) e with
  | true, true => some (x.nearer below e)
  | true, false => some below
  | false, true => some (below + 1)
  | false, false => none

/-- The first of the given digit counts with a point that reads back. -/
def firstGrid (x : Binary) (magnitude : Int) : List Nat → Decimal
  | [] => ⟨x.nearer (x.floorAt (magnitude - 17)) (magnitude - 17), magnitude - 17⟩
  | count :: rest => match x.onGrid? (magnitude - count) with
    | some digits => ⟨digits, magnitude - count⟩
    | none => firstGrid x magnitude rest

/-- The shortest decimal that reads back as the number. -/
def shortest (x : Binary) : Decimal := x.firstGrid x.magnitude ((List.range 17).map (· + 1))

end Binary

/-- A floating-point number, taken apart. -/
inductive Number where
  | notANumber
  | infinite (negative : Bool)
  | zero (negative : Bool)
  | finite (negative : Bool) (value : Binary)
  deriving Repr

namespace Number

/-- Takes a floating-point number apart by its bits. -/
def ofFloat (x : Float) : Number :=
  let bits : Nat := x.toBits.toNat
  let negative := bits / Nat.pow 2 63 == 1
  let exponent : Nat := bits / Nat.pow 2 52 % Nat.pow 2 11
  let fraction : Nat := bits % Nat.pow 2 52
  if exponent = 2047 then
    if fraction = 0 then .infinite negative else .notANumber
  else if exponent = 0 then
    if fraction = 0 then .zero negative else .finite negative ⟨fraction, -1074, false⟩
  else
    .finite negative
      ⟨Nat.pow 2 52 + fraction, (exponent : Int) - 1075, fraction == 0 && decide (1 < exponent)⟩

end Number

namespace Decimal

/-- Drops trailing zeros of the digits. -/
def trimmed : Nat → Decimal → Decimal
  | 0, d => d
  | fuel + 1, d =>
    if d.digits % 10 = 0 ∧ d.digits ≠ 0 then trimmed fuel ⟨d.digits / 10, d.exponent + 1⟩ else d

/-- A run of one character. -/
def run (n : Nat) (c : Char) : String := String.ofList (List.replicate n c)

/-- A whole number with a sign and at least two digits. -/
def signedExponent (e : Int) : String :=
  (if e < 0 then "-" else "+") ++ (if e.natAbs < 10 then "0" else "") ++ toString e.natAbs

/-- The text of a decimal: positional from one ten-thousandth up to below ten to the sixteenth,
with at least one place behind the point, and with a power of ten otherwise. -/
def text (d : Decimal) : String :=
  let d := d.trimmed 20
  let digits := toString d.digits
  let count : Int := digits.length
  let point := count + d.exponent
  if -4 < point ∧ point ≤ 16 then
    if point ≤ 0 then "0." ++ run (-point).toNat '0' ++ digits
    else if count ≤ point then digits ++ run (point - count).toNat '0' ++ ".0"
    else
      String.ofList (digits.toList.take point.toNat) ++ "." ++
        String.ofList (digits.toList.drop point.toNat)
  else
    let lead := String.ofList (digits.toList.take 1)
    let rest := String.ofList (digits.toList.drop 1)
    lead ++ (if rest = "" then "" else "." ++ rest) ++ "e" ++ signedExponent (point - 1)

end Decimal

namespace Number

/-- The sign of a negative number. -/
def sign (negative : Bool) : String := if negative then "-" else ""

/-- The text of a floating-point number: the fewest digits that read back. -/
def text : Number → String
  | .notANumber => "nan"
  | .infinite negative => sign negative ++ "inf"
  | .zero negative => sign negative ++ "0.0"
  | .finite negative value => sign negative ++ value.shortest.text

end Number

end TemplateEngine
