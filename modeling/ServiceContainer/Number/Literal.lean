import ServiceContainer.Number.Binary64
import ServiceContainer.Text.CharClass

/-!
# Numbers written as texts

## Main definitions

* `isWord` — integers of 64 bits
* `integer?` — a text that is an integer of 64 bits
* `decimal?` — a text that is a binary number
-/

namespace ServiceContainer.Number

/-- A sign, and whether it is negative. -/
def splitSign : List Char → Bool × List Char
  | '-' :: rest => (true, rest)
  | '+' :: rest => (false, rest)
  | cs => (false, cs)

/-- The number of decimal digits. -/
def decimalNumber (cs : List Char) : Nat := cs.foldl (fun n c => n * 10 + (c.toNat - 48)) 0

/-- The text is digits, at least one. -/
def isDigits (cs : List Char) : Bool := !cs.isEmpty && cs.all Char.isDigit

/-- The integer has 64 bits, one of them for the sign. -/
def isWord (n : Int) : Bool := -(Nat.pow 2 63 : Nat) ≤ n && n < (Nat.pow 2 63 : Nat)

/-- A text that is an integer of 64 bits. -/
def integer? (text : String) : Option Int :=
  let (negative, digits) := splitSign text.toList
  let n : Int := decimalNumber digits
  let n := if negative then -n else n
  if isDigits digits && isWord n then some n else none

/-- The power of ten that follows the digits, if there is one. -/
def power? : List Char → Option Int
  | [] => some 0
  | c :: rest =>
    if c == 'e' || c == 'E' then
      let (negative, digits) := splitSign rest
      let n : Int := decimalNumber digits
      if isDigits digits then some (if negative then -n else n) else none
    else none

/-- A text that is a binary number: digits with a point somewhere or nowhere and a power of ten, or a word for a
number that is not finite. -/
def decimal? (text : String) : Option Binary64 :=
  let (negative, body) := splitSign text.toList
  let word := String.ofList (body.map Char.toLower)
  if word == "inf" || word == "infinity" then some (.infinite negative)
  else if word == "nan" then some .nan
  else
    let digits := body.takeWhile Char.isDigit
    let rest := body.dropWhile Char.isDigit
    let (fraction, rest) := match rest with
      | '.' :: rest => (rest.takeWhile Char.isDigit, rest.dropWhile Char.isDigit)
      | rest => ([], rest)
    if digits.isEmpty && fraction.isEmpty then none
    else
      (power? rest).map fun power =>
        .ofDecimal negative (decimalNumber (digits ++ fraction)) (power - fraction.length)

end ServiceContainer.Number
