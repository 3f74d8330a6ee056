import ServiceContainer.Number.Literal
import ServiceContainer.Toml.Text

/-!
# Numbers and moments of a TOML document

## Main definitions

* `number?` — integers and binary numbers
* `moment?` — dates, times, and dates with times
-/

namespace ServiceContainer.Toml

open Number

/-! ### Numbers -/

/-- Digits at the front of the text, at least one, where single underscores may stand between two of them. -/
def digits? (isDigit : Char → Bool) : List Char → Option (List Char × List Char)
  | [] => none
  | c :: rest => if isDigit c then (more rest).map fun (ds, rest) => (c :: ds, rest) else none
where
  /-- Digits after one. -/
  more : List Char → Option (List Char × List Char)
    | '_' :: c :: rest =>
      if isDigit c then (more rest).map fun (ds, rest) => (c :: ds, rest) else none
    | ['_'] => none
    | c :: rest =>
      if isDigit c then (more rest).map fun (ds, rest) => (c :: ds, rest) else some ([], c :: rest)
    | [] => some ([], [])

/-- The number of digits in a base. -/
def digitsNumber (base : Nat) (ds : List Char) : Nat :=
  ds.foldl (fun n c => n * base + (Json.hexValue? c).getD 0) 0

/-- An integer, which takes 64 bits. -/
def integer? (n : Int) : Option Document :=
  if Number.isWord n then some (.integer n) else none

/-- An integer without sign in a base. -/
def based? (base : Nat) (cs : List Char) : Option (Document × List Char) := do
  let isDigit (c : Char) : Bool := match Json.hexValue? c with
    | some n => n < base
    | none => false
  let (ds, rest) ← digits? isDigit cs
  some (← integer? (digitsNumber base ds), rest)

/-- The digits before the point: a zero alone, or digits without a zero in front. -/
def wholePart? : List Char → Option (List Char × List Char)
  | '0' :: rest => some (['0'], rest)
  | cs => digits? Char.isDigit cs

/-- The digits after a point, which may be absent. -/
def fractionPart? : List Char → Option (Option (List Char) × List Char)
  | '.' :: rest => (digits? Char.isDigit rest).map fun (ds, rest) => (some ds, rest)
  | cs => some (none, cs)

/-- A sign, and whether it is negative. -/
def sign : List Char → Bool × List Char
  | '-' :: rest => (true, rest)
  | '+' :: rest => (false, rest)
  | cs => (false, cs)

/-- The exponent, which may be absent. -/
def exponentPart? : List Char → Option (Option Int × List Char)
  | c :: rest =>
    if c == 'e' || c == 'E' then
      let (negative, rest) := sign rest
      (digits? Char.isDigit rest).map fun (ds, rest) =>
        let n : Int := digitsNumber 10 ds
        (some (if negative then -n else n), rest)
    else some (none, c :: rest)
  | [] => some (none, [])

/-- A decimal number. It may be too small for the binary format, but not too large. -/
def decimal? (negative : Bool) (cs : List Char) : Option (Document × List Char) := do
  let (ds, rest) ← wholePart? cs
  let (fraction, rest) ← fractionPart? rest
  let (exponent, rest) ← exponentPart? rest
  if fraction.isNone && exponent.isNone then
    let n : Int := digitsNumber 10 ds
    some (← integer? (if negative then -n else n), rest)
  else
    let fraction := fraction.getD []
    match Binary64.ofDecimal negative (digitsNumber 10 (ds ++ fraction)) (exponent.getD 0 - fraction.length) with
    | .infinite false => none
    | x => some (.decimal x, rest)

/-- A number. -/
def number? (cs : List Char) : Option (Document × List Char) :=
  match cs with
  | '0' :: 'x' :: rest => based? 16 rest
  | '0' :: 'o' :: rest => based? 8 rest
  | '0' :: 'b' :: rest => based? 2 rest
  | cs =>
    let (negative, rest) := sign cs
    match rest with
    | 'i' :: 'n' :: 'f' :: rest => some (.decimal (.infinite negative), rest)
    | 'n' :: 'a' :: 'n' :: rest => some (.decimal .nan, rest)
    | rest => decimal? negative rest

/-! ### Moments -/

/-- A number of exactly `count` digits. -/
def fixedNumber? (count : Nat) (cs : List Char) : Option (Nat × List Char) :=
  let ds := cs.take count
  if ds.length == count && ds.all Char.isDigit then some (digitsNumber 10 ds, cs.drop count) else none

/-- A number of two digits in a range. -/
def pair? (low high : Nat) (cs : List Char) : Option (Nat × List Char) := do
  let (n, rest) ← fixedNumber? 2 cs
  if low ≤ n && n ≤ high then some (n, rest) else none

/-- The text after a character. -/
def after? (c : Char) : List Char → Option (List Char)
  | x :: rest => if x == c then some rest else none
  | [] => none

/-- A number with at least `width` digits. -/
def padded (width n : Nat) : String :=
  let ds := Nat.toDigits 10 n
  String.ofList (List.replicate (width - ds.length) '0' ++ ds)

/-- The number of days of a month. -/
def daysOfMonth (year month : Nat) : Nat :=
  let leap := year % 4 == 0 && (year % 100 != 0 || year % 400 == 0)
  if month == 2 then (if leap then 29 else 28)
  else if [4, 6, 9, 11].contains month then 30
  else 31

/-- A date. -/
def date? (cs : List Char) : Option (String × List Char) := do
  let (year, rest) ← fixedNumber? 4 cs
  let (month, rest) ← pair? 1 12 (← after? '-' rest)
  let (day, rest) ← pair? 1 (daysOfMonth year month) (← after? '-' rest)
  some (padded 4 year ++ "-" ++ padded 2 month ++ "-" ++ padded 2 day, rest)

/-- A fraction of a second, to nine digits and without zeros at its end. -/
def secondFraction : List Char → String × List Char
  | '.' :: rest =>
    match rest.takeWhile Char.isDigit with
    | [] => ("", '.' :: rest)
    | ds =>
      let kept := ((ds.take 9).reverse.dropWhile (· == '0')).reverse
      (if kept.isEmpty then "" else "." ++ String.ofList kept, rest.dropWhile Char.isDigit)
  | cs => ("", cs)

/-- A time of day. -/
def time? (cs : List Char) : Option (String × List Char) := do
  let (hour, rest) ← pair? 0 23 cs
  let (minute, rest) ← pair? 0 59 (← after? ':' rest)
  let (second, rest) ← pair? 0 60 (← after? ':' rest)
  let (fraction, rest) := secondFraction rest
  some (padded 2 hour ++ ":" ++ padded 2 minute ++ ":" ++ padded 2 second ++ fraction, rest)

/-- The distance from the standard time, if it is given. -/
def offset? : List Char → Option (String × List Char)
  | c :: rest =>
    if c == 'Z' || c == 'z' then some ("Z", rest)
    else if c == '+' || c == '-' then do
      let (hour, rest) ← pair? 0 23 rest
      let (minute, rest) ← pair? 0 59 (← after? ':' rest)
      let mark := if c == '-' && hour + minute != 0 then "-" else "+"
      some (mark ++ padded 2 hour ++ ":" ++ padded 2 minute, rest)
    else some ("", c :: rest)
  | [] => some ("", [])

/-- A date, with a time or without. -/
def dateTime? (cs : List Char) : Option (String × List Char) := do
  let (date, rest) ← date? cs
  match rest with
  | c :: after =>
    if c == 'T' || c == 't' || c == ' ' then
      match time? after with
      | some (time, after) => do
        let (offset, after) ← offset? after
        some (date ++ "T" ++ time ++ offset, after)
      | none => some (date, rest)
    else some (date, rest)
  | [] => some (date, rest)

/-- A moment begins here: four digits and a dash, or two and a colon. -/
def beginsMoment (cs : List Char) : Bool :=
  match fixedNumber? 4 cs, fixedNumber? 2 cs with
  | some (_, '-' :: _), _ => true
  | _, some (_, ':' :: _) => true
  | _, _ => false

/-- A date, a time, or both. -/
def moment? (cs : List Char) : Option (Document × List Char) :=
  ((dateTime? cs).orElse fun _ => time? cs).map fun (s, rest) => (.moment s, rest)

end ServiceContainer.Toml
