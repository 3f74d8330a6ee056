/-!
# Ranges of characters

Tables of the Unicode character properties are lists of ranges. A range has a step, because upper-case and
lower-case letters often alternate.

## Main definitions

* `CharRange` — every `step`-th character from `first` to `last`
* `CharRange.contains`, `inRanges` — membership
* `CaseRun` — a range whose characters have their lower-case form at a common distance
-/

namespace ServiceContainer.Text

/-- Every `step`-th code point from `first` to `last`. -/
structure CharRange where
  first : Nat
  last : Nat
  step : Nat
  deriving DecidableEq, Repr

/-- The code point `n` lies in the range. -/
def CharRange.contains (r : CharRange) (n : Nat) : Bool :=
  r.first ≤ n && n ≤ r.last && (n - r.first) % r.step == 0

/-- The character lies in one of the ranges. -/
def inRanges (ranges : List CharRange) (c : Char) : Bool :=
  ranges.any (·.contains c.toNat)

/-- A range of characters whose lower-case form is `shift` code points away. -/
structure CaseRun where
  range : CharRange
  shift : Int
  deriving DecidableEq, Repr

end ServiceContainer.Text
