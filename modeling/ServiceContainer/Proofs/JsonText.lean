import Mathlib.Data.List.Basic
import Mathlib.Tactic.ByContra
import ServiceContainer.Document.Decode
import ServiceContainer.Json.Reader

/-!
# Texts in JSON, and how they are read

The grammar of JSON as relations between texts and what they write, and that the reader finds what a text writes. A
string of which a character is half of a pair of surrogates writes no text, and a name in which one stands ends what is
read of a table; both may stand in a value that nobody reads.

## Main definitions

* `Json.Chars`, `Json.IsNumber` — what stands in a string, and numbers
* `Json.Text`, `Json.Items`, `Json.Fields` — the texts of values, of items and of fields

## Main statements

* `Json.stringUpTo_append`, `Json.number?_append` — strings and numbers are read to their ends
* `Json.Text.value_eq` — so is a value
* `Json.read_of_text` — a text is read as the document that it writes
-/

namespace ServiceContainer.Json

/-! ### The grammar of single values -/

/-- White space. -/
def IsBlank (cs : List Char) : Prop := ∀ c ∈ cs, isSpace c = true

/-- Four hexadecimal digits write a number. -/
def IsQuartet (n : Nat) (cs : List Char) : Prop :=
  ∃ a b c d i j k l, cs = [a, b, c, d] ∧ hexValue? a = some i ∧ hexValue? b = some j ∧ hexValue? c = some k ∧
    hexValue? d = some l ∧ n = i * 4096 + j * 256 + k * 16 + l

/-- The number of the first half of a pair of surrogates. -/
def IsHigh (n : Nat) : Prop := 0xD800 ≤ n ∧ n < 0xDC00

/-- The number of the second half of a pair of surrogates. -/
def IsLow (n : Nat) : Prop := 0xDC00 ≤ n ∧ n < 0xE000

/-- What stands between the quotes of a string, and the characters that it writes, unless one of them is none. -/
inductive Chars : Option (List Char) → List Char → Prop
  | nil : Chars (some []) []
  /-- A character that stands for itself. -/
  | plain {c : Char} {xs : Option (List Char)} {cs : List Char} (hquote : c ≠ '\x22') (hslash : c ≠ '\\')
      (hcontrol : 0x20 ≤ c.toNat) (h : Chars xs cs) : Chars (xs.map (c :: ·)) (c :: cs)
  /-- A letter after a backslash. -/
  | short {e c : Char} {xs : Option (List Char)} {cs : List Char} (he : escaped? e = some c) (h : Chars xs cs) :
      Chars (xs.map (c :: ·)) ('\\' :: e :: cs)
  /-- A character by its number. -/
  | unit {n : Nat} {q : List Char} {xs : Option (List Char)} {cs : List Char} (hq : IsQuartet n q)
      (hhigh : ¬IsHigh n) (hlow : ¬IsLow n) (h : Chars xs cs) :
      Chars (xs.map (Char.ofNat n :: ·)) ('\\' :: 'u' :: (q ++ cs))
  /-- A character by a pair of surrogates. -/
  | pair {m n : Nat} {q q' : List Char} {xs : Option (List Char)} {cs : List Char} (hq : IsQuartet m q)
      (hhigh : IsHigh m) (hq' : IsQuartet n q') (hlow : IsLow n) (h : Chars xs cs) :
      Chars (xs.map (Char.ofNat (0x10000 + (m - 0xD800) * 0x400 + (n - 0xDC00)) :: ·))
        ('\\' :: 'u' :: (q ++ '\\' :: 'u' :: (q' ++ cs)))
  /-- A second half without a first one. -/
  | low {n : Nat} {q : List Char} {xs : Option (List Char)} {cs : List Char} (hq : IsQuartet n q)
      (hlow : IsLow n) (h : Chars xs cs) : Chars none ('\\' :: 'u' :: (q ++ cs))
  /-- A first half without a second one. -/
  | high {n : Nat} {q : List Char} {xs : Option (List Char)} {cs : List Char} (hq : IsQuartet n q)
      (hhigh : IsHigh n) (halone : ∀ m q' rest, IsQuartet m q' → IsLow m → cs ≠ '\\' :: 'u' :: (q' ++ rest))
      (h : Chars xs cs) : Chars none ('\\' :: 'u' :: (q ++ cs))

/-- Decimal digits, at least one. -/
def IsDigits (cs : List Char) : Prop := cs ≠ [] ∧ ∀ c ∈ cs, c.isDigit = true

/-- The digits before the point of a number. -/
inductive IsWhole : List Char → Prop
  | zero : IsWhole ['0']
  | digits {cs : List Char} (h : IsDigits cs) (hfront : cs.head? ≠ some '0') : IsWhole cs

/-- The point of a number and the digits after it, which may be absent. -/
inductive IsFraction : List Char → Prop
  | none : IsFraction []
  | digits {cs : List Char} (h : IsDigits cs) : IsFraction ('.' :: cs)

/-- The exponent of a number, which may be absent. -/
inductive IsExponent : List Char → Prop
  | none : IsExponent []
  | digits {e : Char} {cs : List Char} (he : e = 'e' ∨ e = 'E') (h : IsDigits cs) : IsExponent (e :: cs)
  | signed {e s : Char} {cs : List Char} (he : e = 'e' ∨ e = 'E') (hs : s = '-' ∨ s = '+') (h : IsDigits cs) :
      IsExponent (e :: s :: cs)

/-- A number. -/
def IsNumber (cs : List Char) : Prop :=
  ∃ sign whole fraction exponent, (sign = [] ∨ sign = ['-']) ∧ IsWhole whole ∧ IsFraction fraction ∧
    IsExponent exponent ∧ cs = sign ++ (whole ++ (fraction ++ exponent))

/-! ### The grammar of documents -/

/-- The fields before the first name that has half a character. -/
def named : List (Option (List Char) × Document) → List (String × Document)
  | (some name, d) :: rest => (String.ofList name, d) :: named rest
  | (none, _) :: _ | [] => []

/-- How a table ends whose names these are. -/
def endingOf (fs : List (Option (List Char) × Document)) : TableEnd :=
  if fs.all (·.1.isSome) then .whole else .garbled

mutual

/-- The text of a value, without white space around it. -/
inductive Text : Document → List Char → Prop
  | null : Text .null "null".toList
  | boolean (b : Bool) : Text (.boolean b) (if b then "true" else "false").toList
  | string {xs cs : List Char} (h : Chars (some xs) cs) : Text (.text (String.ofList xs)) ('\x22' :: (cs ++ ['\x22']))
  /-- A string of which a character is none. -/
  | half {cs : List Char} (h : Chars none cs) : Text .excess ('\x22' :: (cs ++ ['\x22']))
  /-- A number; which binary number is nearest does not matter here. -/
  | number {d : Document} {cs : List Char} (h : IsNumber cs) (hd : number? cs = some (d, [])) : Text d cs
  | emptyArray {b : List Char} (hb : IsBlank b) : Text (.list []) ('[' :: (b ++ [']']))
  | array {ds : List Document} {cs : List Char} (h : Items ds cs) : Text (.list ds) ('[' :: (cs ++ [']']))
  | emptyTable {b : List Char} (hb : IsBlank b) : Text (.record []) ('\x7b' :: (b ++ ['\x7d']))
  | table {fs : List (Option (List Char) × Document)} {cs : List Char} (h : Fields fs cs) :
      Text ((endingOf fs).table (named fs)) ('\x7b' :: (cs ++ ['\x7d']))

/-- The text of items with commas between them. -/
inductive Items : List Document → List Char → Prop
  | one {d : Document} {b cs b' : List Char} (hb : IsBlank b) (h : Text d cs) (hb' : IsBlank b') :
      Items [d] (b ++ (cs ++ b'))
  | cons {d : Document} {ds : List Document} {b cs b' rest : List Char} (hb : IsBlank b) (h : Text d cs)
      (hb' : IsBlank b') (hrest : Items ds rest) : Items (d :: ds) (b ++ (cs ++ (b' ++ ',' :: rest)))

/-- The text of fields with commas between them. -/
inductive Fields : List (Option (List Char) × Document) → List Char → Prop
  | one {x : Option (List Char)} {d : Document} {b name b₁ b₂ cs b₃ : List Char} (hb : IsBlank b)
      (hname : Chars x name) (hb₁ : IsBlank b₁) (hb₂ : IsBlank b₂) (h : Text d cs) (hb₃ : IsBlank b₃) :
      Fields [(x, d)] (b ++ '\x22' :: (name ++ '\x22' :: (b₁ ++ ':' :: (b₂ ++ (cs ++ b₃)))))
  | cons {x : Option (List Char)} {d : Document} {fs : List (Option (List Char) × Document)}
      {b name b₁ b₂ cs b₃ rest : List Char} (hb : IsBlank b) (hname : Chars x name) (hb₁ : IsBlank b₁)
      (hb₂ : IsBlank b₂) (h : Text d cs) (hb₃ : IsBlank b₃) (hrest : Fields fs rest) :
      Fields ((x, d) :: fs)
        (b ++ '\x22' :: (name ++ '\x22' :: (b₁ ++ ':' :: (b₂ ++ (cs ++ (b₃ ++ ',' :: rest))))))

end

/-- A text with nothing but white space around it writes a document. -/
def Writes (text : String) (d : Document) : Prop :=
  ∃ b cs b', IsBlank b ∧ Text d cs ∧ IsBlank b' ∧ text = String.ofList (b ++ (cs ++ b'))

variable {n : Nat} {q cs rest : List Char} {xs : Option (List Char)}

/-! ### Strings -/

theorem unit?_append (h : IsQuartet n q) (rest : List Char) : unit? (q ++ rest) = some (n, rest) := by
  obtain ⟨a, b, c, d, i, j, k, l, rfl, ha, hb, hc, hd, rfl⟩ := h
  simp [unit?, ha, hb, hc, hd]

theorem unit?_eq_some {m : Nat} (h : unit? cs = some (m, rest)) : ∃ q, IsQuartet m q ∧ cs = q ++ rest := by
  rw [unit?.eq_def] at h
  split at h
  next a b c d rest' =>
    simp only [Option.bind_eq_bind, Option.bind_eq_some_iff, Option.some.injEq, Prod.mk.injEq] at h
    obtain ⟨i, ha, j, hb, k, hc, l, hd, hm, rfl⟩ := h
    exact ⟨[a, b, c, d], ⟨a, b, c, d, i, j, k, l, rfl, ha, hb, hc, hd, hm.symm⟩, rfl⟩
  · exact nomatch h

theorem quote_notMem_quartet (h : IsQuartet n q) : '\x22' ∉ q := by
  obtain ⟨a, b, c, d, i, j, k, l, rfl, ha, hb, hc, hd, -⟩ := h
  have hquote : hexValue? '\x22' = none := by decide
  intro hmem
  simp only [List.mem_cons, List.not_mem_nil, or_false] at hmem
  rcases hmem with rfl | rfl | rfl | rfl <;> simp_all

/-- No second half stands before the closing quote where none stands in the string. -/
theorem lowSurrogate?_eq_none (rest : List Char)
    (h : ∀ m q' rest, IsQuartet m q' → IsLow m → cs ≠ '\\' :: 'u' :: (q' ++ rest)) :
    numbered?.lowSurrogate? (cs ++ '\x22' :: rest) = none := by
  by_contra hsome
  obtain ⟨⟨m, rest'⟩, hlow⟩ := Option.ne_none_iff_exists'.mp hsome
  rw [numbered?.lowSurrogate?.eq_def] at hlow
  split at hlow
  next tail heq =>
    rw [Option.filter_eq_some_iff] at hlow
    obtain ⟨hunit, hrange⟩ := hlow
    obtain ⟨q', hq', rfl⟩ := unit?_eq_some hunit
    have hm : IsLow m := by simpa [IsLow] using hrange
    have hnotmem : '\x22' ∉ '\\' :: 'u' :: q' := by
      simp [quote_notMem_quartet hq']
    have heq' : cs ++ '\x22' :: rest = ('\\' :: 'u' :: q') ++ rest' := heq
    -- The quote stands behind the half, so the half is within the string.
    rcases List.append_eq_append_iff.mp heq' with ⟨t, hfront, hback⟩ | ⟨t, hfront, hback⟩
    · cases t with
      | nil => exact h m q' [] hq' hm (by simpa using hfront.symm)
      | cons c t =>
        obtain ⟨rfl, -⟩ := List.cons.inj hback
        exact hnotmem (by simp [hfront])
    · exact h m q' t hq' hm hfront
  · exact nomatch hlow

theorem stringUpTo_plain {c : Char} (fuel : Nat) (hquote : c ≠ '\x22') (hslash : c ≠ '\\') (hcontrol : 0x20 ≤ c.toNat) :
    stringUpTo (fuel + 1) (c :: cs) = (stringUpTo fuel cs).map fun x => (x.1.map (c :: ·), x.2) := by
  rw [stringUpTo.eq_def]
  simp only [beq_iff_eq, hquote, hslash, Nat.not_lt.mpr hcontrol, if_false]
  cases stringUpTo fuel cs <;> rfl

theorem stringUpTo_short {e c : Char} (fuel : Nat) (he : escaped? e = some c) :
    stringUpTo (fuel + 1) ('\\' :: e :: cs) = (stringUpTo fuel cs).map fun x => (x.1.map (c :: ·), x.2) := by
  have hletter : escaped? 'u' = none := by decide
  have hu : e ≠ 'u' := by
    rintro rfl
    exact nomatch hletter.symm.trans he
  rw [stringUpTo.eq_def]
  simp only [Char.reduceBEq, Bool.false_eq_true, if_false, if_true, he]
  cases stringUpTo fuel cs <;> rfl

theorem stringUpTo_numbered {x : Option Char} (fuel : Nat) (hx : numbered? cs = some (x, rest)) :
    stringUpTo (fuel + 1) ('\\' :: 'u' :: cs) =
      (stringUpTo fuel rest).map fun y => (x.bind fun c => y.1.map (c :: ·), y.2) := by
  rw [stringUpTo.eq_def]
  simp only [Char.reduceBEq, Bool.false_eq_true, if_false, if_true, hx, Option.bind_eq_bind, Option.bind_some]
  rcases stringUpTo fuel rest with _ | ⟨_ | ys, rest'⟩ <;> cases x <;> rfl

theorem numbered?_unit (hq : IsQuartet n q) (hhigh : ¬IsHigh n) (hlow : ¬IsLow n) :
    numbered? (q ++ rest) = some (some (Char.ofNat n), rest) := by
  simp only [IsHigh, IsLow] at hhigh hlow
  simp [numbered?, unit?_append hq, hhigh, hlow]

theorem numbered?_low (hq : IsQuartet n q) (hlow : IsLow n) : numbered? (q ++ rest) = some (none, rest) := by
  simp only [IsLow] at hlow
  simp [numbered?, unit?_append hq, hlow]

/-- A first half is no second half. -/
theorem IsHigh.not_isLow (h : IsHigh n) : ¬IsLow n := by
  simp only [IsHigh, IsLow] at h ⊢
  omega

theorem numbered?_alone (hq : IsQuartet n q) (hhigh : IsHigh n) (halone : numbered?.lowSurrogate? rest = none) :
    numbered? (q ++ rest) = some (none, rest) := by
  have hlow := hhigh.not_isLow
  simp only [IsHigh, IsLow] at hhigh hlow
  simp [numbered?, unit?_append hq, hlow, hhigh, halone]

theorem numbered?_pair {m : Nat} {q' : List Char} (hq : IsQuartet m q) (hhigh : IsHigh m) (hq' : IsQuartet n q')
    (hlow : IsLow n) : numbered? (q ++ '\\' :: 'u' :: (q' ++ rest)) =
      some (some (Char.ofNat (0x10000 + (m - 0xD800) * 0x400 + (n - 0xDC00))), rest) := by
  have hlow' : numbered?.lowSurrogate? ('\\' :: 'u' :: (q' ++ rest)) = some (n, rest) := by
    simp only [IsLow] at hlow
    simp [numbered?.lowSurrogate?, unit?_append hq', hlow]
  have hnot := hhigh.not_isLow
  simp only [IsHigh, IsLow] at hhigh hnot
  simp [numbered?, unit?_append hq, hnot, hhigh, hlow']

/-- After a character by its number, or half of one, the rest of the string is read. -/
theorem stringUpTo_after {x : Option Char} {fuel : Nat}
    (hx : numbered? (q ++ (cs ++ '\x22' :: rest)) = some (x, cs ++ '\x22' :: rest))
    (hcs : ∀ {fuel : Nat}, cs.length < fuel → stringUpTo fuel (cs ++ '\x22' :: rest) = some (xs, rest))
    (hfuel : ('\\' :: 'u' :: (q ++ cs)).length < fuel) :
    stringUpTo fuel ('\\' :: 'u' :: (q ++ cs) ++ '\x22' :: rest) =
      some (x.bind fun c => xs.map (c :: ·), rest) := by
  cases fuel with
  | zero => exact nomatch hfuel
  | succ fuel =>
    simp only [List.length_cons, List.length_append] at hfuel
    simp only [List.cons_append, List.append_assoc]
    rw [stringUpTo_numbered fuel hx, hcs (by omega)]
    rfl

/-- A string is read up to the quote that ends it. -/
theorem stringUpTo_append (h : Chars xs cs) {fuel : Nat} (hfuel : cs.length < fuel) :
    stringUpTo fuel (cs ++ '\x22' :: rest) = some (xs, rest) := by
  -- Each step of the reader takes one unit of the fuel and at least one character.
  induction h generalizing fuel with
  | nil =>
    cases fuel with
    | zero => exact nomatch hfuel
    | succ fuel => simp [stringUpTo]
  | plain hquote hslash hcontrol h ih =>
    cases fuel with
    | zero => exact nomatch hfuel
    | succ fuel =>
      rw [List.cons_append, stringUpTo_plain fuel hquote hslash hcontrol, ih (by simpa using hfuel)]
      rfl
  | short he h ih =>
    cases fuel with
    | zero => exact nomatch hfuel
    | succ fuel =>
      simp only [List.length_cons] at hfuel
      rw [List.cons_append, List.cons_append, stringUpTo_short fuel he, ih (by omega)]
      rfl
  | unit hq hhigh hlow h ih => exact stringUpTo_after (numbered?_unit hq hhigh hlow) ih hfuel
  | @pair m n q q' xs cs hq hhigh hq' hlow h ih =>
    -- The pair is read as one character, so both numbers stand before the rest.
    have hassoc : ∀ tail, q ++ '\\' :: 'u' :: (q' ++ tail) = (q ++ '\\' :: 'u' :: q') ++ tail := by simp
    rw [hassoc] at hfuel ⊢
    refine stringUpTo_after (x := some _) ?_ ih hfuel
    rw [← hassoc]
    exact numbered?_pair hq hhigh hq' hlow
  | low hq hlow h ih => exact stringUpTo_after (numbered?_low hq hlow) ih hfuel
  | high hq hhigh halone h ih =>
    exact stringUpTo_after (numbered?_alone hq hhigh (lowSurrogate?_eq_none rest halone)) ih hfuel

theorem anyString?_append (h : Chars xs cs) (rest : List Char) :
    anyString? (cs ++ '\x22' :: rest) = some (xs.map String.ofList, rest) := by
  have hfuel : cs.length < (cs ++ '\x22' :: rest).length + 1 := by
    rw [List.length_append]
    omega
  rw [anyString?, stringUpTo_append h hfuel]
  rfl

/-! ### Numbers -/

/-- A text where no number continues. -/
def Stops (cs : List Char) : Prop := ∀ c ∈ cs.head?, c.isDigit = false ∧ c ≠ '.' ∧ c ≠ 'e' ∧ c ≠ 'E'

/-- A text where no digits continue. -/
def NoDigit (cs : List Char) : Prop := ∀ c ∈ cs.head?, c.isDigit = false

theorem Stops.noDigit (h : Stops cs) : NoDigit cs := fun c hc => (h c hc).1

theorem takeWhile_digits {ds : List Char} (h : ∀ c ∈ ds, c.isDigit = true) (hrest : NoDigit rest) :
    (ds ++ rest).takeWhile Char.isDigit = ds := by
  rw [List.takeWhile_append_of_pos h]
  cases rest with
  | nil => simp
  | cons c rest => simp [hrest c rfl]

theorem dropWhile_digits {ds : List Char} (h : ∀ c ∈ ds, c.isDigit = true) (hrest : NoDigit rest) :
    (ds ++ rest).dropWhile Char.isDigit = rest := by
  rw [List.dropWhile_append_of_pos h]
  cases rest with
  | nil => rfl
  | cons c rest => simp [hrest c rfl]

theorem digits?_append {ds : List Char} (h : IsDigits ds) (hrest : NoDigit rest) :
    digits? (ds ++ rest) = some (ds, rest) := by
  rw [digits?, takeWhile_digits h.2 hrest, dropWhile_digits h.2 hrest]
  split
  · exact absurd rfl h.1
  · rfl

theorem wholePart?_append {ds : List Char} (h : IsWhole ds) (hrest : NoDigit rest) :
    wholePart? (ds ++ rest) = some (ds, rest) := by
  cases h with
  | zero =>
    cases rest with
    | nil => rfl
    | cons c rest => simp [wholePart?, hrest c rfl]
  | digits h hfront =>
    rw [wholePart?.eq_2]
    · exact digits?_append h hrest
    · intro c rest' heq
      cases ds with
      | nil => exact h.1 rfl
      | cons d ds => exact hfront (by simpa using (List.cons.inj heq).1)

/-- What a fraction and an exponent are read as does not depend on what follows them. -/
theorem fractionPart?_append {fs : List Char} (h : IsFraction fs) (hrest : NoDigit rest)
    (hpoint : ∀ c ∈ rest.head?, c ≠ '.') : fractionPart? (fs ++ rest) = some (fs.drop 1, rest) := by
  cases h with
  | none =>
    cases rest with
    | nil => rfl
    | cons c rest =>
      have hc : c ≠ '.' := hpoint c rfl
      simp [fractionPart?, hc]
  | digits h => simp [fractionPart?, digits?_append h hrest]

theorem IsDigits.head {ds : List Char} (h : IsDigits ds) : ∃ d tail, ds = d :: tail ∧ d.isDigit = true := by
  cases ds with
  | nil => exact absurd rfl h.1
  | cons d tail => exact ⟨d, tail, rfl, h.2 d List.mem_cons_self⟩

theorem exponentPart?_append {es : List Char} (h : IsExponent es) :
    ∃ n, ∀ rest, Stops rest → exponentPart? (es ++ rest) = some (n, rest) := by
  cases h with
  | none =>
    refine ⟨none, fun rest hrest => ?_⟩
    cases rest with
    | nil => rfl
    | cons c rest =>
      obtain ⟨-, -, he, hE⟩ := hrest c rfl
      simp [exponentPart?, he, hE]
  | @digits e cs he h =>
    obtain ⟨d, tail, rfl, hd⟩ := h.head
    refine ⟨some (digitsValue (d :: tail)), fun rest hrest => ?_⟩
    have hletter : (e == 'e' || e == 'E') = true := by simpa using he
    have hminus : d ≠ '-' := by rintro rfl; exact nomatch hd
    have hplus : d ≠ '+' := by rintro rfl; exact nomatch hd
    have hdigits := digits?_append h hrest.noDigit
    rw [List.cons_append] at hdigits
    simp [exponentPart?, hletter, hminus, hplus, hdigits]
  | @signed e s cs he hs h =>
    have hletter : (e == 'e' || e == 'E') = true := by simpa using he
    rcases hs with rfl | rfl
    · refine ⟨some (-digitsValue cs), fun rest hrest => ?_⟩
      simp [exponentPart?, hletter, digits?_append h hrest.noDigit]
    · refine ⟨some (digitsValue cs), fun rest hrest => ?_⟩
      simp [exponentPart?, hletter, digits?_append h hrest.noDigit]

theorem noDigit_fraction {fs es : List Char} (hf : IsFraction fs) (he : IsExponent es) (hrest : Stops rest) :
    NoDigit (fs ++ (es ++ rest)) ∧ NoDigit (es ++ rest) ∧ ∀ c ∈ (es ++ rest).head?, c ≠ '.' := by
  have hexponent : NoDigit (es ++ rest) ∧ ∀ c ∈ (es ++ rest).head?, c ≠ '.' := by
    cases he with
    | none => exact ⟨hrest.noDigit, fun c hc => (hrest c hc).2.1⟩
    | digits he h | signed he hs h =>
      constructor <;> rintro c ⟨⟩ <;> rcases he with rfl | rfl <;> decide
  refine ⟨?_, hexponent⟩
  cases hf with
  | none => exact hexponent.1
  | digits h =>
    rintro c ⟨⟩
    decide

theorem IsWhole.head {ds : List Char} (h : IsWhole ds) : ∃ d tail, ds = d :: tail ∧ d.isDigit = true := by
  cases h with
  | zero => exact ⟨'0', [], rfl, rfl⟩
  | digits h hfront => exact h.head

/-- A number is read up to where it stops, as the same value whatever follows. -/
theorem number?_append {cs : List Char} (h : IsNumber cs) :
    ∃ d, ∀ rest, Stops rest → number? (cs ++ rest) = some (d, rest) := by
  obtain ⟨sign, whole, fraction, exponent, hsign, hwhole, hfraction, hexponent, rfl⟩ := h
  obtain ⟨n, hn⟩ := exponentPart?_append hexponent
  have hread : ∀ rest, Stops rest → ∀ negative, unsigned? negative (whole ++ (fraction ++ (exponent ++ rest))) =
      some (numberValue negative whole (fraction.drop 1) n, rest) := by
    intro rest hrest negative
    obtain ⟨hdigit, hdigit', hpoint⟩ := noDigit_fraction hfraction hexponent hrest
    rw [unsigned?, wholePart?_append hwhole hdigit]
    simp only [Option.bind_eq_bind, Option.bind_some, fractionPart?_append hfraction hdigit' hpoint, hn rest hrest]
  rcases hsign with rfl | rfl
  · obtain ⟨d, tail, rfl, hd⟩ := hwhole.head
    have hminus : d ≠ '-' := by rintro rfl; exact nomatch hd
    refine ⟨numberValue false (d :: tail) (fraction.drop 1) n, fun rest hrest => ?_⟩
    rw [← hread rest hrest false]
    simp [number?, hminus]
  · refine ⟨numberValue true whole (fraction.drop 1) n, fun rest hrest => ?_⟩
    rw [← hread rest hrest true]
    simp [number?]

/-! ### Blanks and fronts -/

theorem skipSpace_blank {b : List Char} (hb : IsBlank b) (cs : List Char) : skipSpace (b ++ cs) = skipSpace cs :=
  List.dropWhile_append_of_pos hb

theorem skipSpace_of_head {c : Char} (hc : isSpace c = false) (cs : List Char) : skipSpace (c :: cs) = c :: cs := by
  simp [skipSpace, hc]

theorem skipSpace_mark {b : List Char} {c : Char} (hb : IsBlank b) (hc : isSpace c = false) (cs : List Char) :
    skipSpace (b ++ c :: cs) = c :: cs := by
  rw [skipSpace_blank hb, skipSpace_of_head hc]

theorem IsNumber.head (h : IsNumber cs) : ∃ c tail, cs = c :: tail ∧ (c = '-' ∨ c.isDigit = true) := by
  obtain ⟨sign, whole, fraction, exponent, hsign, hwhole, hfraction, hexponent, rfl⟩ := h
  obtain ⟨d, tail, rfl, hd⟩ := hwhole.head
  rcases hsign with rfl | rfl
  · exact ⟨d, _, rfl, .inr hd⟩
  · exact ⟨'-', _, rfl, .inl rfl⟩

/-- The characters that a value of its own kind begins with are none that a number begins with. -/
theorem ne_of_front {c e : Char} (hc : c = '-' ∨ c.isDigit = true) (he : e.isDigit = false) (hminus : e ≠ '-') :
    c ≠ e := by
  rintro rfl
  rcases hc with rfl | hc
  · exact hminus rfl
  · exact nomatch hc.symm.trans he

theorem isSpace_of_front {c : Char} (hc : c = '-' ∨ c.isDigit = true) : isSpace c = false := by
  simp only [isSpace, Bool.or_eq_false_iff, beq_eq_false_iff_ne]
  exact ⟨⟨⟨ne_of_front hc (by decide) (by decide), ne_of_front hc (by decide) (by decide)⟩,
    ne_of_front hc (by decide) (by decide)⟩, ne_of_front hc (by decide) (by decide)⟩

theorem Text.head {d : Document} (h : Text d cs) :
    ∃ c tail, cs = c :: tail ∧ isSpace c = false ∧ c ≠ ']' ∧ c ≠ '\x7d' := by
  cases h with
  | null => exact ⟨_, _, rfl, by decide⟩
  | boolean b => cases b <;> exact ⟨_, _, rfl, by decide⟩
  | number h hd =>
    obtain ⟨c, tail, rfl, hc⟩ := h.head
    have hbracket : c ≠ ']' := ne_of_front hc (by decide) (by decide)
    exact ⟨c, tail, rfl, isSpace_of_front hc, hbracket, ne_of_front hc (by decide) (by decide)⟩
  | _ => exact ⟨_, _, rfl, by decide⟩

theorem Text.skipSpace_eq {d : Document} (h : Text d cs) (rest : List Char) : skipSpace (cs ++ rest) = cs ++ rest := by
  obtain ⟨c, tail, rfl, hc, -⟩ := h.head
  exact skipSpace_of_head hc _

/-! ### Values -/

/-- A number is read where it stands. -/
theorem value_of_number {d : Document} (h : IsNumber cs) (hd : number? cs = some (d, [])) (hrest : Stops rest)
    (fuel : Nat) : value (fuel + 1) (cs ++ rest) = (d, some rest) := by
  obtain ⟨d', hread⟩ := number?_append h
  have hnil := hread [] (fun c hc => nomatch hc)
  rw [List.append_nil, hd] at hnil
  obtain ⟨rfl, -⟩ := Prod.mk.inj (Option.some.inj hnil)
  have hread := hread rest hrest
  obtain ⟨c, tail, rfl, hc⟩ := h.head
  rw [List.cons_append] at hread ⊢
  rw [value.eq_2, skipSpace_of_head (isSpace_of_front hc)]
  have hbracket : c ≠ '[' := ne_of_front hc (by decide) (by decide)
  have hbrace : c ≠ '\x7b' := ne_of_front hc (by decide) (by decide)
  have hscalar : scalar? (c :: (tail ++ rest)) = some (d, rest) := by
    rw [← hread]
    have hquote : c ≠ '\x22' := ne_of_front hc (by decide) (by decide)
    have ht : c ≠ 't' := ne_of_front hc (by decide) (by decide)
    have hf : c ≠ 'f' := ne_of_front hc (by decide) (by decide)
    have hn : c ≠ 'n' := ne_of_front hc (by decide) (by decide)
    simp [scalar?, hquote, ht, hf, hn]
  simp [hbracket, hbrace, hscalar]

theorem value_blank {b : List Char} (hb : IsBlank b) (fuel : Nat) (cs : List Char) :
    value fuel (b ++ cs) = value fuel cs := by
  cases fuel with
  | zero => rfl
  | succ fuel => rw [value.eq_2, value.eq_2, skipSpace_blank hb]

/-- A string is read where it stands. -/
theorem value_of_string (h : Chars xs cs) (fuel : Nat) (rest : List Char) :
    value (fuel + 1) ('\x22' :: (cs ++ '\x22' :: rest)) =
      ((xs.map (.text <| String.ofList ·)).getD .excess, some rest) := by
  rw [value.eq_2, skipSpace_of_head (by decide)]
  simp [scalar?, anyString?_append h]
  cases xs <;> rfl

theorem items_of_value {d : Document} {b tail : List Char} {fuel : Nat} (hb : IsBlank b) (h : Text d cs)
    (hvalue : value fuel (cs ++ tail) = (d, some tail)) : items (fuel + 1) (b ++ (cs ++ tail)) =
      match skipSpace tail with
      | ',' :: rest =>
        let (ds, whole, rest) := items fuel rest
        (d :: ds, whole, rest)
      | ']' :: rest => ([d], true, some rest)
      | _ => ([d], false, none) := by
  rw [items.eq_2, skipSpace_blank hb, h.skipSpace_eq]
  obtain ⟨c, cs', rfl, -, hc, -⟩ := h.head
  simp [hc]
  rewrite [← List.cons_append, hvalue]
  rfl

theorem field_of_value {d : Document} {name : String} {b b' tail : List Char} {fuel : Nat} (hb : IsBlank b)
    (hb' : IsBlank b') (hvalue : value fuel (cs ++ tail) = (d, some tail)) :
    field (fuel + 1) name (b ++ ':' :: (b' ++ (cs ++ tail))) =
      match skipSpace tail with
      | ',' :: rest =>
        let (ds, ending, rest) := fields fuel rest
        ((name, d) :: ds, ending, rest)
      | '\x7d' :: rest => ([(name, d)], .whole, some rest)
      | _ => ([(name, d)], .cut, none) := by
  rw [field.eq_2, skipSpace_mark hb (by decide)]
  simp only [value_blank hb']
  rewrite [hvalue]
  rfl

theorem fields_of_name {b name tail : List Char} {fuel : Nat} (hb : IsBlank b) (hname : Chars xs name) :
    fields (fuel + 1) (b ++ '\x22' :: (name ++ '\x22' :: tail)) =
      match xs with
      | some xs => field fuel (String.ofList xs) tail
      | none =>
        match field fuel "" tail with
        | (_, _, some rest) => ([], .garbled, some rest)
        | (_, _, none) => ([], .cut, none) := by
  rw [fields.eq_2, skipSpace_mark hb (by decide)]
  simp only [anyString?_append hname]
  cases xs <;> rfl

theorem stops_cons {c : Char} (hc : c.isDigit = false ∧ c ≠ '.' ∧ c ≠ 'e' ∧ c ≠ 'E') (cs : List Char) :
    Stops (c :: cs) := by
  rintro _ ⟨⟩
  exact hc

theorem stops_blank {b : List Char} (hb : IsBlank b) (hrest : Stops rest) : Stops (b ++ rest) := by
  cases b with
  | nil => exact hrest
  | cons c b =>
    rintro _ ⟨⟩
    have hc := hb c List.mem_cons_self
    simp only [isSpace, Bool.or_eq_true, beq_iff_eq] at hc
    rcases hc with ((rfl | rfl) | rfl) | rfl <;> decide

theorem value_array (fuel : Nat) (cs : List Char) : value (fuel + 1) ('[' :: cs) =
    match skipSpace cs with
    | ']' :: rest => (.array [] true, some rest)
    | rest =>
      let (xs, whole, rest) := items fuel rest
      (.array xs whole, rest) := by
  rw [value.eq_2, skipSpace_of_head (by decide)]
  rfl

theorem value_table (fuel : Nat) (cs : List Char) : value (fuel + 1) ('\x7b' :: cs) =
    match skipSpace cs with
    | '\x7d' :: rest => (.table [] true, some rest)
    | rest =>
      let (xs, ending, rest) := fields fuel rest
      (ending.table xs, rest) := by
  rw [value.eq_2, skipSpace_of_head (by decide)]
  rfl

theorem skipSpace_skipSpace (cs : List Char) : skipSpace (skipSpace cs) = skipSpace cs := by
  induction cs with
  | nil => rfl
  | cons c cs ih =>
    cases hc : isSpace c with
    | true => rw [show skipSpace (c :: cs) = skipSpace cs by simp [skipSpace, hc], ih]
    | false => rw [skipSpace_of_head hc, skipSpace_of_head hc]

theorem items_skipSpace (fuel : Nat) (cs : List Char) : items fuel (skipSpace cs) = items fuel cs := by
  cases fuel with
  | zero => rfl
  | succ fuel => rw [items.eq_2, items.eq_2, skipSpace_skipSpace]

theorem fields_skipSpace (fuel : Nat) (cs : List Char) : fields fuel (skipSpace cs) = fields fuel cs := by
  cases fuel with
  | zero => rfl
  | succ fuel => rw [fields.eq_2, fields.eq_2, skipSpace_skipSpace]

theorem Items.head {ds : List Document} (h : Items ds cs) (rest : List Char) :
    ∃ c tail, skipSpace (cs ++ rest) = c :: tail ∧ c ≠ ']' := by
  cases h with
  | one hb h | cons hb h =>
    obtain ⟨c, tail, hcs, -, hc, -⟩ := h.head
    simp only [List.append_assoc, skipSpace_blank hb, h.skipSpace_eq]
    rw [hcs]
    exact ⟨c, _, rfl, hc⟩

theorem Fields.head {fs : List (Option (List Char) × Document)} (h : Fields fs cs) (rest : List Char) :
    ∃ tail, skipSpace (cs ++ rest) = '\x22' :: tail := by
  cases h with
  | one hb | cons hb =>
    simp only [List.append_assoc, List.cons_append, skipSpace_mark hb (show isSpace '\x22' = false by decide)]
    exact ⟨_, rfl⟩

mutual

/-- A value is read to its end, before anything that does not continue it. -/
theorem Text.value_eq {d : Document} {cs : List Char} (h : Text d cs) (fuel : Nat) (rest : List Char)
    (hfuel : cs.length < fuel) (hrest : Stops rest) : value fuel (cs ++ rest) = (d, some rest) := by
  cases fuel with
  | zero => exact nomatch hfuel
  | succ fuel =>
  cases h with
  | null => rfl
  | boolean b => cases b <;> rfl
  | string h | half h => simpa using value_of_string h fuel rest
  | number h hd => exact value_of_number h hd hrest fuel
  | emptyArray hb =>
    simp only [List.cons_append, List.append_assoc, List.nil_append]
    rw [value_array, skipSpace_mark hb (by decide)]
    rfl
  | array h =>
    simp only [List.length_cons, List.length_append, List.length_nil] at hfuel
    have hitems := h.items_eq fuel rest (by omega)
    simp only [List.cons_append, List.append_assoc, List.nil_append]
    rw [← items_skipSpace] at hitems
    obtain ⟨c, tail, hhead, hc⟩ := h.head (']' :: rest)
    rw [value_array]
    rw [hhead] at hitems ⊢
    simp [hc, hitems, Document.list]
  | emptyTable hb =>
    simp only [List.cons_append, List.append_assoc, List.nil_append]
    rw [value_table, skipSpace_mark hb (by decide)]
    rfl
  | table h =>
    simp only [List.length_cons, List.length_append, List.length_nil] at hfuel
    have hfields := h.fields_eq fuel rest (by omega)
    simp only [List.cons_append, List.append_assoc, List.nil_append]
    rw [← fields_skipSpace] at hfields
    obtain ⟨tail, hhead⟩ := h.head ('\x7d' :: rest)
    rw [value_table]
    rw [hhead] at hfields ⊢
    simp [hfields]

theorem Items.items_eq {ds : List Document} {cs : List Char} (h : Items ds cs) (fuel : Nat) (rest : List Char)
    (hfuel : cs.length + 1 < fuel) : items fuel (cs ++ ']' :: rest) = (ds, true, some rest) := by
  cases fuel with
  | zero => exact nomatch hfuel
  | succ fuel =>
  cases h with
  | @one d b cs b' hb h hb' =>
    simp only [List.length_append] at hfuel
    simp only [List.append_assoc]
    have hvalue := h.value_eq fuel (b' ++ ']' :: rest) (by omega) (stops_blank hb' (stops_cons (by decide) rest))
    rw [items_of_value hb h hvalue, skipSpace_mark hb' (by decide)]
    rfl
  | @cons d ds b cs b' rest' hb h hb' hds =>
    simp only [List.length_append, List.length_cons] at hfuel
    simp only [List.append_assoc, List.cons_append]
    have hvalue := h.value_eq fuel (b' ++ ',' :: (rest' ++ ']' :: rest)) (by omega)
      (stops_blank hb' (stops_cons (by decide) _))
    rw [items_of_value hb h hvalue, skipSpace_mark hb' (by decide)]
    simp only [hds.items_eq fuel rest (by omega)]

theorem Fields.fields_eq {fs : List (Option (List Char) × Document)} {cs : List Char} (h : Fields fs cs) (fuel : Nat)
    (rest : List Char) (hfuel : cs.length + 1 < fuel) :
    fields fuel (cs ++ '\x7d' :: rest) = (named fs, endingOf fs, some rest) := by
  obtain ⟨fuel, rfl⟩ : ∃ k, fuel = k + 2 := ⟨fuel - 2, by omega⟩
  cases h with
  | @one x d b name b₁ b₂ cs b₃ hb hname hb₁ hb₂ h hb₃ =>
    simp only [List.length_append, List.length_cons] at hfuel
    simp only [List.append_assoc, List.cons_append]
    have hvalue := h.value_eq fuel (b₃ ++ '\x7d' :: rest) (by omega) (stops_blank hb₃ (stops_cons (by decide) rest))
    rw [fields_of_name hb hname]
    simp only [field_of_value hb₁ hb₂ hvalue, skipSpace_mark hb₃ (show isSpace '\x7d' = false by decide)]
    cases x <;> rfl
  | @cons x d fs b name b₁ b₂ cs b₃ rest' hb hname hb₁ hb₂ h hb₃ hfs =>
    simp only [List.length_append, List.length_cons] at hfuel
    simp only [List.append_assoc, List.cons_append]
    have hvalue := h.value_eq fuel (b₃ ++ ',' :: (rest' ++ '\x7d' :: rest)) (by omega)
      (stops_blank hb₃ (stops_cons (by decide) _))
    rw [fields_of_name hb hname]
    simp only [field_of_value hb₁ hb₂ hvalue, skipSpace_mark hb₃ (show isSpace ',' = false by decide)]
    simp only [hfs.fields_eq fuel rest (by omega)]
    cases x with
    | none => rfl
    | some name => simp [named, endingOf]; rfl

end

/-- A text is read as the document that it writes. -/
theorem read_of_text {d : Document} {b b' : List Char} (hb : IsBlank b) (h : Text d cs) (hb' : IsBlank b') :
    read (String.ofList (b ++ (cs ++ b'))) = (d, true) := by
  have hstops : Stops (b' ++ []) := stops_blank hb' fun c hc => nomatch hc
  rw [List.append_nil] at hstops
  have hvalue := h.value_eq ((b ++ (cs ++ b')).length + 1) b' (by simp only [List.length_append]; omega) hstops
  have hempty : skipSpace b' = [] := by
    rw [← List.append_nil b', skipSpace_blank hb']
    rfl
  rw [read, String.toList_ofList]
  simp only [value_blank hb, hvalue, hempty, List.isEmpty_nil]

/-! ### What documents that are written consist of -/

/-- There is a text that writes the document. -/
def Writable (d : Document) : Prop := ∃ cs, Text d cs

theorem numeral_cases (negative : Bool) (digits fraction : List Char) (exponent : Option Int) :
    (∃ x, numeral negative digits fraction exponent = .decimal x) ∨
      numeral negative digits fraction exponent = .excess := by
  simp only [numeral]
  split
  · exact .inr rfl
  · cases Number.Binary64.stepwise? negative _ _ with
    | none => exact .inr rfl
    | some x => exact .inl ⟨x, rfl⟩

theorem numberValue_cases (negative : Bool) (digits fraction : List Char) (exponent : Option Int) :
    (∃ n, numberValue negative digits fraction exponent = .integer n) ∨
      (∃ x, numberValue negative digits fraction exponent = .decimal x) ∨
      numberValue negative digits fraction exponent = .excess := by
  cases negative <;> simp only [numberValue, Bool.false_eq_true, if_true, if_false] <;> split
  all_goals first
    | exact .inl ⟨_, rfl⟩
    | exact .inr (numeral_cases _ _ _ _)

theorem number?_cases {d : Document} (h : number? cs = some (d, rest)) :
    (∃ n, d = .integer n) ∨ (∃ x, d = .decimal x) ∨ d = .excess := by
  have hunsigned : ∃ negative cs, unsigned? negative cs = some (d, rest) := by
    rw [number?.eq_def] at h
    split at h
    · exact ⟨_, _, h⟩
    · exact ⟨_, _, h⟩
  obtain ⟨negative, cs', h⟩ := hunsigned
  simp only [unsigned?, Option.bind_eq_bind, Option.bind_eq_some_iff, Option.some.injEq, Prod.mk.injEq] at h
  obtain ⟨x, -, y, -, z, -, rfl, -⟩ := h
  exact numberValue_cases negative x.1 y.1 z.1

/-- A value that is written is written to its end. -/
theorem Text.skip_eq {d : Document} (h : Text d cs) : d.skip = .ok () := by
  cases h with
  | number h hd => rcases number?_cases hd with ⟨n, rfl⟩ | ⟨x, rfl⟩ | rfl <;> rfl
  | table h =>
    rw [endingOf]
    split <;> rfl
  | _ => rfl

theorem Items.writable {ds : List Document} {cs : List Char} (h : Items ds cs) : ∀ d ∈ ds, Writable d := by
  cases h with
  | one hb h =>
    rintro d (_ | ⟨_, ⟨⟩⟩)
    exact ⟨_, h⟩
  | cons hb h hb' hds =>
    rintro d (_ | ⟨_, hd⟩)
    · exact ⟨_, h⟩
    · exact hds.writable d hd

theorem Fields.writable {fs : List (Option (List Char) × Document)} {cs : List Char} (h : Fields fs cs) :
    ∀ x ∈ fs, Writable x.2 := by
  cases h with
  | one hb hname hb₁ hb₂ h =>
    rintro x (_ | ⟨_, ⟨⟩⟩)
    exact ⟨_, h⟩
  | cons hb hname hb₁ hb₂ h hb₃ hfs =>
    rintro x (_ | ⟨_, hx⟩)
    · exact ⟨_, h⟩
    · exact hfs.writable x hx

theorem writable_of_mem_named {fs : List (Option (List Char) × Document)} (h : ∀ x ∈ fs, Writable x.2) :
    ∀ x ∈ named fs, Writable x.2 := by
  induction fs with
  | nil => exact fun x hx => nomatch hx
  | cons f fs ih =>
    obtain ⟨hf, hfs⟩ := List.forall_mem_cons.mp h
    obtain ⟨_ | name, d⟩ := f
    · exact fun x hx => nomatch hx
    · exact List.forall_mem_cons.mpr ⟨hf, ih hfs⟩

theorem Writable.items {ds : List Document} (h : Writable (.list ds)) : ∀ d ∈ ds, Writable d := by
  obtain ⟨cs, h⟩ := h
  generalize hd : Document.list ds = d at h
  cases h with
  | number h hnumber => rcases number?_cases hnumber with ⟨n, rfl⟩ | ⟨x, rfl⟩ | rfl <;> exact nomatch hd
  | emptyArray hb =>
    obtain ⟨rfl, -⟩ := Document.array.inj hd
    exact fun d hd => nomatch hd
  | array h =>
    obtain ⟨rfl, -⟩ := Document.array.inj hd
    exact h.writable
  | table h =>
    rw [endingOf] at hd
    split at hd <;> exact nomatch hd
  | _ => exact nomatch hd

theorem Writable.fields {xs : List (String × Document)} (h : Writable (.record xs)) : ∀ x ∈ xs, Writable x.2 := by
  obtain ⟨cs, h⟩ := h
  generalize hd : Document.record xs = d at h
  cases h with
  | number h hnumber => rcases number?_cases hnumber with ⟨n, rfl⟩ | ⟨x, rfl⟩ | rfl <;> exact nomatch hd
  | emptyTable hb =>
    obtain ⟨rfl, -⟩ := Document.table.inj hd
    exact fun x hx => nomatch hx
  | table h =>
    rw [endingOf] at hd
    split at hd
    · obtain ⟨rfl, -⟩ := Document.table.inj hd
      exact writable_of_mem_named h.writable
    · exact nomatch hd
  | _ => exact nomatch hd

end ServiceContainer.Json
