/-!
# Binary floating-point numbers

The numbers of the 64-bit binary format, how a decimal number is rounded to one, and how one is written with the
fewest decimal digits that read back as it.

## Main definitions

* `Binary64` — the numbers
* `Binary64.ofDecimal` — the nearest number to a decimal, ties to even
* `Binary64.mul`, `Binary64.div` — the nearest number to a product or a quotient
* `Binary64.stepwise?` — a number near a decimal, found with one rounding a step
* `Binary64.shortest` — the fewest digits that read back, the nearest of those
* `Binary64.positional` — those digits without an exponent
-/

namespace ServiceContainer.Number

/-- A number of the 64-bit binary format. A finite one is `mantissa · 2 ^ exponent`, with a mantissa below `2 ^ 53`
and an exponent of at least -1074, and the mantissa is at least `2 ^ 52` unless the exponent is the least. -/
inductive Binary64 where
  | finite (negative : Bool) (mantissa : Nat) (exponent : Int)
  | infinite (negative : Bool)
  | nan
  deriving DecidableEq, Repr

namespace Binary64

/-- The number of binary digits. -/
def bitLength (n : Nat) : Nat := if n = 0 then 0 else n.log2 + 1

/-- The quotient rounded to the nearest integer, ties to even. -/
def roundDiv (num den : Nat) : Nat :=
  let q := num / den
  let r := num % den
  if 2 * r > den || (2 * r == den && q % 2 == 1) then q + 1 else q

/-- The nearest number to the quotient of two positive integers. -/
def ofRatio (negative : Bool) (num den : Nat) : Binary64 :=
  let guess : Int := (bitLength num : Int) - bitLength den - 53
  let scaled (e : Int) : Nat :=
    if 0 ≤ e then roundDiv num (den * Nat.pow 2 e.toNat) else roundDiv (num * Nat.pow 2 (-e).toNat) den
  let start := max guess (-1074)
  let e := if scaled start ≥ Nat.pow 2 53 then start + 1 else start
  let m := scaled e
  let (m, e) := if m ≥ Nat.pow 2 53 then (Nat.pow 2 52, e + 1) else (m, e)
  if e > 971 then .infinite negative else .finite negative m e

/-- The nearest number to `digits · 10 ^ power`. -/
def ofDecimal (negative : Bool) (digits : Nat) (power : Int) : Binary64 :=
  if digits = 0 then .finite negative 0 (-1074)
  else
    let size : Int := (Nat.toDigits 10 digits).length + power
    if size > 400 then .infinite negative
    else if size < -400 then .finite negative 0 (-1074)
    else if 0 ≤ power then ofRatio negative (digits * Nat.pow 10 power.toNat) 1
    else ofRatio negative digits (Nat.pow 10 (-power).toNat)

/-- The number is zero, of either sign. -/
def isZero : Binary64 → Bool
  | .finite _ m _ => m == 0
  | _ => false

/-- The positive rational `mantissa · 2 ^ exponent` as a quotient. -/
def ratio (mantissa : Nat) (exponent : Int) : Nat × Nat :=
  if 0 ≤ exponent then (mantissa * Nat.pow 2 exponent.toNat, 1) else (mantissa, Nat.pow 2 (-exponent).toNat)

/-- The nearest number to the quotient of two integers, of which the second is positive. -/
def ofQuotient (negative : Bool) (num den : Nat) : Binary64 :=
  if num = 0 then .finite negative 0 (-1074) else ofRatio negative num den

/-- The nearest number to a product. -/
def mul : Binary64 → Binary64 → Binary64
  | .finite s m e, .finite t n f =>
    let (a, b) := ratio m e
    let (c, d) := ratio n f
    ofQuotient (s != t) (a * c) (b * d)
  | .infinite s, .finite t n _ | .finite t n _, .infinite s => if n = 0 then .nan else .infinite (s != t)
  | .infinite s, .infinite t => .infinite (s != t)
  | .nan, _ | _, .nan => .nan

/-- The nearest number to a quotient. -/
def div : Binary64 → Binary64 → Binary64
  | .finite s m e, .finite t n f =>
    if n = 0 then if m = 0 then .nan else .infinite (s != t)
    else
      let (a, b) := ratio m e
      let (c, d) := ratio n f
      ofQuotient (s != t) (a * d) (b * c)
  | .infinite s, .finite t _ _ => .infinite (s != t)
  | .finite s _ _, .infinite t => .finite (s != t) 0 (-1074)
  | .infinite _, .infinite _ => .nan
  | .nan, _ | _, .nan => .nan

/-- The nearest number to a power of ten. -/
def powerOfTen (n : Nat) : Binary64 := ofDecimal false 1 n

/-- A number divided by a power of ten, of which each step takes at most the greatest one there is. Three steps make
any number of up to 64 binary digits zero; `fuel` bounds them. -/
def dividedByPower (x : Binary64) (power : Nat) : Nat → Binary64
  | 0 => x
  | fuel + 1 =>
    if power ≤ 308 || x.isZero then x.div (powerOfTen (min power 308))
    else dividedByPower (x.div (powerOfTen 308)) (power - 308) fuel

/-- A number near `digits · 10 ^ power`: the digits are rounded, then their product with the power of ten or their
quotient by it. It may differ from the nearest number in the last place. None when it is too large. -/
def stepwise? (negative : Bool) (digits : Nat) (power : Int) : Option Binary64 :=
  let x := ofQuotient negative digits 1
  if power < 0 || x.isZero then some (dividedByPower x (-power).toNat 3)
  else if power > 308 then none
  else match x.mul (powerOfTen power.toNat) with
    | .infinite _ => none
    | y => some y

/-- The least power of ten above the quotient of two positive integers, found from a power that is not above
it; `fuel` bounds the steps. -/
def scaleFrom (num den : Nat) (p : Int) : Nat → Int
  | 0 => p
  | fuel + 1 =>
    let below := if 0 ≤ p then den * Nat.pow 10 p.toNat ≤ num else den ≤ num * Nat.pow 10 (-p).toNat
    if below then scaleFrom num den (p + 1) fuel else p

/-- The least power of ten above the positive number. -/
def scale (mantissa : Nat) (exponent : Int) : Int :=
  let (num, den) := ratio mantissa exponent
  scaleFrom num den (((bitLength mantissa : Int) + exponent - 1) * 30103 / 100000 - 1) 5

/-- The multiple of `10 ^ power` next to the positive number that reads back as it: of the two neighbours the
nearer, of two as near the greater. -/
def onGrid? (mantissa : Nat) (exponent power : Int) : Option Nat :=
  let (num, den) := ratio mantissa exponent
  let (a, b) := if 0 ≤ power then (num, den * Nat.pow 10 power.toNat) else (num * Nat.pow 10 (-power).toNat, den)
  let low := a / b
  let neighbours := if b ≤ 2 * (a % b) then [low + 1, low] else [low, low + 1]
  neighbours.find? fun d => d != 0 && ofDecimal false d power == .finite false mantissa exponent

/-- The fewest decimal digits that read back as the positive number, and the power of ten of the last of them. -/
def shortest (mantissa : Nat) (exponent : Int) : Nat × Int :=
  let k := scale mantissa exponent
  let found := (List.range 17).findSome? fun (i : Nat) =>
    let power := k - (i + 1 : Nat)
    (onGrid? mantissa exponent power).map (·, power)
  found.getD (mantissa, exponent)

/-- Digits with a power of ten, written without an exponent. -/
def positionalDigits (digits : Nat) (power : Int) : List Char :=
  let text := Nat.toDigits 10 digits
  if 0 ≤ power then text ++ List.replicate power.toNat '0'
  else
    let places := (-power).toNat
    let padded := List.replicate (places + 1 - text.length) '0' ++ text
    padded.take (padded.length - places) ++ '.' :: padded.drop (padded.length - places)

/-- The text of a number: its shortest digits without an exponent. A whole number has no point. -/
def positional : Binary64 → String
  | .finite negative m e =>
    let body := if m = 0 then ['0'] else let (digits, power) := shortest m e; positionalDigits digits power
    String.ofList (if negative then '-' :: body else body)
  | .infinite negative => if negative then "-inf" else "inf"
  | .nan => "NaN"

end Binary64

end ServiceContainer.Number
