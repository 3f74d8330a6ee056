import Mathlib
import ServiceContainer.Naming
import ServiceContainer.Proofs.TypePaths

/-!
# Names that read back as they are

The members of a provider get their names by reading a text as an identifier, and reading skips what separates tokens.
A text without separators is read whole or not at all, so different texts give different names. The texts that are made
from a key have no separators, because the words of a key have none and lowering a character makes none.

## Main definitions

* `isSolid` — the characters that separate nothing
* `TypeExpr.IsLexical` — types of which every word is one

## Main statements

* `identifier_eq_ok` — a text without separators is the identifier that it is read as
* `serviceIdentifier_solid` — the identifier of a key has no separators
-/

namespace ServiceContainer

open Text Syntax

/-! ### Characters that separate nothing -/

/-- White space between tokens, the character that begins comments, and the byte order mark. -/
def separators : List CharRange := whiteSpace ++ [⟨0x200e, 0x200f, 1⟩, ⟨0x2f, 0x2f, 1⟩, ⟨0xfeff, 0xfeff, 1⟩]

/-- The character is no separator. -/
def isSolid (c : Char) : Bool := !inRanges separators c

/-- No code point from `first` to `last` is a separator. -/
def isClear (first last : Int) : Bool := separators.all fun s => last < s.first || s.last < first

theorem isSolid_of_isClear (first last : Int) {c : Char} (h : isClear first last = true)
    (hf : first ≤ c.toNat) (hl : c.toNat ≤ last) : isSolid c = true := by
  simp only [isSolid, inRanges, Bool.not_eq_true', List.any_eq_false, CharRange.contains, Bool.and_eq_true,
    decide_eq_true_eq]
  rintro s hs ⟨⟨hfirst, hlast⟩, -⟩
  have hclear := List.all_eq_true.mp h s hs
  simp only [Bool.or_eq_true, decide_eq_true_eq] at hclear
  omega

/-- The tables of characters that stand in words. -/
def wordTables : List (List CharRange) :=
  [Table.identifierStart, Table.identifierExtend, Table.alphabetic, Table.number]

theorem wordTables_isClear : ∀ table ∈ wordTables, ∀ r ∈ table, isClear r.first r.last = true := by
  -- The tables are long, and the kernel compares natural numbers much faster than integers.
  have hclear : (wordTables.all fun table => table.all fun r => separators.all fun s =>
      r.last.blt s.first || s.last.blt r.first) = true := by decide +kernel
  simp only [List.all_eq_true, Bool.or_eq_true, Nat.blt_eq] at hclear
  intro table htable r hr
  simp only [isClear, List.all_eq_true, Bool.or_eq_true, decide_eq_true_eq, Int.ofNat_lt]
  exact hclear table htable r hr

/-- The characters that stand in words are solid. -/
theorem isSolid_of_inRanges {table : List CharRange} {c : Char} (htable : table ∈ wordTables)
    (hc : inRanges table c = true) : isSolid c = true := by
  obtain ⟨r, hr, hrc⟩ := List.any_eq_true.mp hc
  simp only [CharRange.contains, Bool.and_eq_true, decide_eq_true_eq] at hrc
  exact isSolid_of_isClear _ _ (wordTables_isClear table htable r hr) (by omega) (by omega)

theorem isSolid_of_isAlphanum {c : Char} (h : c.isAlphanum = true) : isSolid c = true := by
  have hc : (48 ≤ c.toNat ∧ c.toNat ≤ 57) ∨ (65 ≤ c.toNat ∧ c.toNat ≤ 90) ∨ (97 ≤ c.toNat ∧ c.toNat ≤ 122) := by
    simp only [Char.isAlphanum, Char.isAlpha, Char.isUpper, Char.isLower, Char.isDigit, Bool.or_eq_true,
      Bool.and_eq_true, decide_eq_true_eq, UInt32.le_iff_toNat_le, ge_iff_le] at h
    simp only [Char.toNat]
    rcases h with (h | h) | h <;> simp_all
  rcases hc with hc | hc | hc
  · exact isSolid_of_isClear 48 57 (by decide) (by omega) (by omega)
  · exact isSolid_of_isClear 65 90 (by decide) (by omega) (by omega)
  · exact isSolid_of_isClear 97 122 (by decide) (by omega) (by omega)

theorem isSolid_of_identifierStart {c : Char} (h : inRanges Table.identifierStart c = true) : isSolid c = true :=
  isSolid_of_inRanges (by simp [wordTables]) h

theorem isSolid_of_isIdentifierStart {c : Char} (h : isIdentifierStart c = true) : isSolid c = true := by
  rw [isIdentifierStart] at h
  split at h
  · rcases Bool.or_eq_true_iff.mp h with h | h
    · exact isSolid_of_isAlphanum (by simp [Char.isAlphanum, h])
    · rw [beq_iff_eq.mp h]
      decide
  · exact isSolid_of_identifierStart h

theorem isSolid_of_isIdentifierContinue {c : Char} (h : isIdentifierContinue c = true) : isSolid c = true := by
  rw [isIdentifierContinue] at h
  split at h
  · rcases Bool.or_eq_true_iff.mp h with h | h
    · exact isSolid_of_isAlphanum h
    · rw [beq_iff_eq.mp h]
      decide
  · rcases Bool.or_eq_true_iff.mp h with h | h
    · exact isSolid_of_identifierStart h
    · exact isSolid_of_inRanges (by simp [wordTables]) h

theorem isSolid_of_isWordChar {c : Char} (h : isWordChar c = true) : isSolid c = true := by
  simp only [isWordChar, isAlphanumeric] at h
  rcases Bool.or_eq_true_iff.mp h with h | h
  · split at h
    · exact isSolid_of_isAlphanum h
    · rcases Bool.or_eq_true_iff.mp h with h | h
      · exact isSolid_of_inRanges (by simp [wordTables]) h
      · exact isSolid_of_inRanges (by simp [wordTables]) h
  · rw [beq_iff_eq.mp h]
    decide

/-! ### Lowering keeps characters solid -/

theorem isSolid_toLower {c : Char} (h : isSolid c = true) : isSolid c.toLower = true := by
  -- A capital letter moves into the range of the small ones; every other character stays.
  by_cases hu : c.val ≥ 'A'.val ∧ c.val ≤ 'Z'.val
  · have hn : c.toLower.toNat = (c.val + ('a'.val - 'A'.val)).toNat := by rw [Char.toLower, dif_pos hu]; rfl
    have hup : 65 ≤ c.val.toNat ∧ c.val.toNat ≤ 90 := hu
    rw [UInt32.toNat_add, show ('a'.val - 'A'.val).toNat = 32 from rfl] at hn
    exact isSolid_of_isClear 97 122 (by decide) (by omega) (by omega)
  · rwa [Char.toLower, dif_neg hu]

theorem toNat_ofNat (n : Nat) : (Char.ofNat n).toNat = n ∨ (Char.ofNat n).toNat = 0 := by
  rw [Char.ofNat]
  split
  · left
    rfl
  · right
    rfl

/-- The runs of the lowering table lead to no separator. -/
theorem lowering_isClear :
    (Table.lowering.all fun run => isClear (run.range.first + run.shift) (run.range.last + run.shift)) = true := by
  decide

theorem isSolid_lowerChar {c d : Char} (h : isSolid c = true) (hd : d ∈ lowerChar c) : isSolid d = true := by
  rw [lowerChar] at hd
  split at hd
  · rw [List.mem_singleton.mp hd]
    exact isSolid_toLower h
  · split at hd
    · simp only [List.mem_cons, List.not_mem_nil, or_false] at hd
      rcases hd with rfl | rfl <;> decide
    · split at hd
      next run hrun =>
        have hclear := List.all_eq_true.mp lowering_isClear run (List.mem_of_find?_eq_some hrun)
        have hc := List.find?_some hrun
        simp only [CharRange.contains, Bool.and_eq_true, decide_eq_true_eq] at hc
        rw [List.mem_singleton.mp hd]
        have hzero {d : Char} (hd : d.toNat = 0) : isSolid d = true :=
          isSolid_of_isClear 0 0 (by decide) (by omega) (by omega)
        -- A code point that is no character, or below zero, becomes the character zero, which is solid too.
        rcases toNat_ofNat (Int.toNat (c.toNat + run.shift)) with hn | hn
        · by_cases hneg : (c.toNat : Int) + run.shift ≤ 0
          · exact hzero (by omega)
          · exact isSolid_of_isClear _ _ hclear (by omega) (by omega)
        · exact hzero hn
      next =>
        rwa [List.mem_singleton.mp hd]

/-! ### Reading a text without separators -/

theorem isBlank_of_isSolid {c : Char} (h : isSolid c = true) : isBlank c = false := by
  simp only [isSolid, separators, inRanges, List.any_append, Bool.not_eq_true', Bool.or_eq_false_iff] at h
  obtain ⟨hw, hmarks⟩ := h
  simp only [isBlank, isWhiteSpace, inRanges, hw, Bool.false_or, Bool.or_eq_false_iff, beq_eq_false_iff_ne]
  constructor <;> rintro rfl <;> exact absurd hmarks (by decide)

theorem ne_slash_of_isSolid {c : Char} (h : isSolid c = true) : c ≠ '/' := by
  rintro rfl
  exact absurd h (by decide)

theorem skipMark_of_isSolid {c : Char} {rest : List Char} (h : isSolid c = true) :
    skipMark (c :: rest) = c :: rest := by
  rw [skipMark]
  rintro mark heq
  rw [(List.cons.inj heq).1] at h
  exact absurd h (by decide)

theorem startsWith_slash (word : String) {c : Char} {rest : List Char} (hword : word.toList.head? = some '/')
    (hc : c ≠ '/') : startsWith word (c :: rest) = false := by
  obtain ⟨w, hw⟩ := List.head?_eq_some_iff.mp hword
  simp [startsWith, hw, List.isPrefixOf, Ne.symm hc]

theorem skipBlank_of_isSolid {c : Char} {rest : List Char} (h : isSolid c = true) :
    skipBlank (c :: rest) = c :: rest := by
  have hc := ne_slash_of_isSolid h
  simp [skipBlank, skipBlankUpTo, isBlank_of_isSolid h, startsLineComment, startsBlockComment,
    startsWith_slash "//" rfl hc, startsWith_slash "/*" rfl hc]

theorem documentation?_of_isSolid {c : Char} {rest : List Char} (h : isSolid c = true) :
    documentation? (c :: rest) = none := by
  have hc := ne_slash_of_isSolid h
  simp [documentation?, documentationText?, startsWith_slash "//!" rfl hc,
    startsWith_slash "/*!" rfl hc, startsWith_slash "///" rfl hc,
    startsWith_slash "/**" rfl hc]

/-- The trees at the front of a text that begins with a solid character. -/
theorem treesUpTo_of_isSolid {fuel : Nat} {c : Char} {rest : List Char} (h : isSolid c = true) :
    treesUpTo (fuel + 1) (c :: rest) =
      (if isClosing c then some ([], c :: rest)
      else match opened? (c :: rest) with
        | some d => do
          let (inner, rest) ← treesUpTo fuel rest
          match rest with
          | e :: rest =>
            if e == d.closing then do
              let (more, rest) ← treesUpTo fuel rest
              some (.group d inner :: more, rest)
            else none
          | [] => none
        | none => do
          let (token, rest) ← leaf? (c :: rest)
          let (more, rest) ← treesUpTo fuel rest
          some (.token token :: more, rest)) := by
  rw [treesUpTo, skipBlank_of_isSolid h]
  have hnone : documentation? (c :: rest) = none := documentation?_of_isSolid h
  dsimp only
  -- The match is on the call itself, which takes its equation with it, so rewriting would not find it.
  generalize documentation? (c :: rest) = d at hnone ⊢
  subst hnone
  rfl

/-- Nothing is skipped in a text without separators. -/
theorem treesUpTo_eq_nil {fuel : Nat} {cs rest : List Char} (hcs : ∀ c ∈ cs, isSolid c = true)
    (h : treesUpTo fuel cs = some ([], rest)) : rest = cs := by
  cases fuel with
  | zero => simp [treesUpTo] at h
  | succ fuel =>
    cases cs with
    | nil => simpa [treesUpTo, skipBlank, skipBlankUpTo] using h.symm
    | cons c cs =>
      rw [treesUpTo_of_isSolid (hcs c List.mem_cons_self)] at h
      split at h
      · simpa using h.symm
      · split at h
        · simp only [Option.bind_eq_bind, Option.bind_eq_some_iff] at h
          obtain ⟨_, _, h⟩ := h
          split at h
          · split at h <;> simp [Option.bind_eq_some_iff] at h
          · simp at h
        · simp [Option.bind_eq_some_iff] at h

theorem afterWord_suffix {cs rest : List Char} (h : afterWord cs = some rest) : rest <:+ cs := by
  cases cs with
  | nil => simp [afterWord] at h
  | cons c cs =>
    rw [afterWord] at h
    split at h
    · rw [← Option.some.inj h]
      exact (List.dropWhile_suffix _).trans (List.suffix_cons c cs)
    · simp at h

/-- The text of a name is what was read of it. -/
theorem name?_eq_some {cs rest : List Char} {text : String} (h : name? cs = some (text, rest)) :
    text.toList ++ rest = cs := by
  simp only [name?, Option.bind_eq_bind, Option.bind_eq_some_iff] at h
  obtain ⟨after, hafter, h⟩ := h
  have hsuffix : after <:+ cs := by
    split at hafter
    · exact (afterWord_suffix hafter).trans (List.drop_suffix 2 cs)
    · exact afterWord_suffix hafter
  obtain ⟨front, rfl⟩ := hsuffix
  split at h
  · simp at h
  · simp only [Option.some.injEq, Prod.mk.injEq] at h
    obtain ⟨rfl, rfl⟩ := h
    simp

/-- A token that is a word was read as a name. -/
theorem name?_of_leaf? {cs rest : List Char} {text : String} (h : leaf? cs = some (.ident text, rest)) :
    name? cs = some (text, rest) := by
  unfold leaf? at h
  split at h
  · cases h
  · split at h
    · cases h
    · split at h
      · split at h
        · obtain ⟨_, -, heq⟩ := Option.map_eq_some_iff.mp h
          exact nomatch (Prod.mk.inj heq).1
        · cases h
      · obtain ⟨⟨word, after⟩, hident, heq⟩ := Option.map_eq_some_iff.mp h
        cases heq
        rw [ident?, Option.ite_none_left_eq_some] at hident
        exact hident.2

/-- A text without separators that is read as one name is that name. -/
theorem treesUpTo_eq_ident {fuel : Nat} {cs : List Char} {name : String} (hcs : ∀ c ∈ cs, isSolid c = true)
    (h : treesUpTo fuel cs = some ([.token (.ident name)], [])) : name.toList = cs := by
  cases fuel with
  | zero => simp [treesUpTo] at h
  | succ fuel =>
    cases cs with
    | nil => simp [treesUpTo, skipBlank, skipBlankUpTo] at h
    | cons c cs =>
      rw [treesUpTo_of_isSolid (hcs c List.mem_cons_self)] at h
      split at h
      · simp at h
      · split at h
        · simp only [Option.bind_eq_bind, Option.bind_eq_some_iff] at h
          obtain ⟨_, _, h⟩ := h
          split at h
          · split at h <;> simp [Option.bind_eq_some_iff] at h
          · simp at h
        · simp only [Option.bind_eq_bind, Option.bind_eq_some_iff, Prod.exists, Option.some.injEq, Prod.mk.injEq,
            List.cons.injEq, Tree.token.injEq] at h
          obtain ⟨token, rest, hleaf, more, after, hmore, ⟨rfl, rfl⟩, rfl⟩ := h
          -- The first word is all there is: what is left of the text gives no tree, so it is empty.
          have htext := name?_eq_some (name?_of_leaf? hleaf)
          have hrest : ([] : List Char) = rest := treesUpTo_eq_nil (fun d hd => hcs d (by
            rw [← htext]
            exact List.mem_append_right _ hd)) hmore
          rw [← htext, ← hrest, List.append_nil]

theorem word?_eq_some {trees : List Tree} {text : String} (h : word? trees = some text) :
    ∃ rest, trees = .token (.ident text) :: rest := by
  unfold word? at h
  split at h
  next read rest =>
    obtain rfl := Option.some.inj h
    exact ⟨rest, rfl⟩
  next => exact nomatch h

namespace Syntax.Parser

variable {α β : Type} {front rest : List Tree}

theorem bind_eq_some {p : Parser α} {f : α → Parser β} {y : β} :
    (p >>= f) front = some (y, rest) ↔ ∃ x middle, p front = some (x, middle) ∧ f x middle = some (y, rest) := by
  change (p front).bind (fun r => f r.1 r.2) = _ ↔ _
  simp [Option.bind_eq_some_iff, Prod.exists]

theorem get_eq_some {x : List Tree} : (get : Parser (List Tree)) front = some (x, rest) ↔ x = front ∧ rest = front := by
  change some (front, front) = _ ↔ _
  simp [eq_comm]

theorem pure_eq_some {x y : α} : (pure x : Parser α) front = some (y, rest) ↔ y = x ∧ rest = front := by
  change some (x, front) = _ ↔ _
  simp [eq_comm]

theorem one_eq_some {t : Tree} (h : one front = some (t, rest)) : front = t :: rest := by
  cases front with
  | nil => exact nomatch h
  | cons u us =>
    obtain ⟨rfl, rfl⟩ := Prod.mk.inj (Option.some.inj h)
    rfl

theorem ident_eq_some {ts : List Tree} : ident front = some (ts, rest) ↔
    ∃ text, ts = [.token (.ident text)] ∧ front = .token (.ident text) :: rest ∧ text ∉ reservedWords := by
  have hat {text : String} {more : List Tree} :
      atIdent (.token (.ident text) :: more) = true ↔ text ∉ reservedWords := by simp [atIdent, word?]
  constructor
  · intro h
    obtain ⟨_, _, hget, hread⟩ := bind_eq_some.mp h
    obtain ⟨rfl, rfl⟩ := get_eq_some.mp hget
    split at hread
    next hident =>
      obtain ⟨t, _, hone, hpure⟩ := bind_eq_some.mp hread
      obtain ⟨rfl, rfl⟩ := pure_eq_some.mp hpure
      obtain ⟨text, htext, -⟩ := (Option.any_eq_true ..).mp hident
      obtain ⟨more, rfl⟩ := word?_eq_some htext
      obtain ⟨rfl, rfl⟩ := List.cons.inj (one_eq_some hone)
      exact ⟨text, rfl, rfl, hat.mp hident⟩
    next => exact nomatch hread
  · rintro ⟨text, rfl, rfl, hfree⟩
    refine bind_eq_some.mpr ⟨_, _, get_eq_some.mpr ⟨rfl, rfl⟩, ?_⟩
    rw [if_pos (hat.mpr hfree)]
    rfl

theorem name_eq_some {text : String} : name front = some (text, rest) ↔
    front = .token (.ident text) :: rest ∧ text ∉ reservedWords := by
  constructor
  · intro h
    obtain ⟨_, _, hident, hread⟩ := bind_eq_some.mp h
    obtain ⟨word, rfl, rfl, hfree⟩ := ident_eq_some.mp hident
    obtain ⟨rfl, rfl⟩ := pure_eq_some.mp hread
    exact ⟨rfl, hfree⟩
  · rintro ⟨rfl, hfree⟩
    exact bind_eq_some.mpr ⟨_, _, ident_eq_some.mpr ⟨text, rfl, rfl, hfree⟩, rfl⟩

end Syntax.Parser

/-- A text is read as an identifier when its one token is a name that is not reserved. -/
theorem identifier_eq_ok_iff {text name : String} : identifier text = .ok name ↔
    treesOf? (skipMark text.toList) = some [.token (.ident name)] ∧ name ∉ reservedWords := by
  have hread : identifier text = .ok name ↔ readIdent? text = some name := by
    rw [identifier]
    cases readIdent? text <;> simp
  simp only [hread, readIdent?, read?, trees?, readTrees?, Parser.onAll, Option.bind_eq_bind, Option.bind_eq_some_iff,
    Option.ite_none_right_eq_some, Option.some.injEq, Prod.exists, Parser.name_eq_some, List.isEmpty_iff]
  constructor
  · rintro ⟨trees, htrees, value, more, ⟨rfl, hfree⟩, rfl, rfl⟩
    exact ⟨htrees, hfree⟩
  · rintro ⟨htrees, hfree⟩
    exact ⟨_, htrees, _, _, ⟨rfl, hfree⟩, rfl, rfl⟩

/-- A text without separators is the identifier that it is read as. -/
theorem identifier_eq_ok {text name : String} (htext : ∀ c ∈ text.toList, isSolid c = true)
    (h : identifier text = .ok name) : name = text := by
  -- The byte order mark is a separator, so there is none to skip.
  have hmark : skipMark text.toList = text.toList := by
    cases hcs : text.toList with
    | nil => rfl
    | cons c cs => exact skipMark_of_isSolid (htext c (by rw [hcs]; exact List.mem_cons_self))
  obtain ⟨htrees, -⟩ := identifier_eq_ok_iff.mp h
  obtain ⟨⟨trees, rest⟩, hread, hend⟩ := Option.bind_eq_some_iff.mp htrees
  rw [Option.ite_none_right_eq_some, List.isEmpty_iff, Option.some.injEq] at hend
  obtain ⟨rfl, rfl⟩ := hend
  rw [hmark] at hread
  exact String.toList_inj.mp (treesUpTo_eq_ident htext hread)

/-! ### The words of a type -/

namespace Syntax

theorem mem_lexemes_of_mem {trees : List Tree} {t : Tree} {x : Lexeme} (ht : t ∈ trees) (hx : x ∈ t.lexemes) :
    x ∈ lexemes trees := by
  induction trees with
  | nil => cases ht
  | cons u us ih =>
    rw [lexemes, List.mem_append]
    rcases List.mem_cons.mp ht with rfl | ht
    · exact .inl hx
    · exact .inr (ih ht)

theorem lexemes_stripParens_subset (t : Tree) : t.stripParens.lexemes ⊆ t.lexemes := by
  fun_induction Tree.stripParens t with
  | case1 t ih =>
    intro x hx
    simp [Tree.lexemes, lexemes, ih hx]
  | case2 t => exact List.Subset.refl _

theorem lexemes_lastSegment?_subset {path parts : List Tree} (h : lastSegment? path = some parts) :
    lexemes parts ⊆ lexemes path := by
  rw [lastSegment?] at h
  split at h
  next inner hlast =>
    obtain rfl := Option.some.inj h
    intro x hx
    exact mem_lexemes_of_mem (List.mem_of_getLast? hlast) hx
  next => exact nomatch h

theorem lexemes_boundPath?_subset {t : Tree} {path : List Tree} (h : boundPath? t = some path) :
    lexemes path ⊆ t.lexemes := by
  unfold boundPath? at h
  split at h
  · obtain rfl := Option.some.inj h
    intro x hx
    simp [Tree.lexemes, lexemes, hx]
  · obtain rfl := Option.some.inj h
    exact List.Subset.refl _
  · cases h

end Syntax

namespace TypeExpr

/-- Every word of the type is one word of the language. Nothing else can stand where a tree that was read has a word:
see `ServiceContainer.Proofs.LexicalKeys`. -/
def IsLexical (t : TypeExpr) : Prop :=
  ∀ text, .token (.ident text) ∈ t.tree.lexemes → name? text.toList = some (text, [])

/-- A type that is a word is lexical. -/
theorem isLexical_ofName {name : String} (h : name? name.toList = some (name, [])) : (ofName name).IsLexical := by
  intro text hmem
  simp only [ofName, Tree.lexemes, lexemes, Tree.ident, List.append_nil, List.mem_singleton, Lexeme.token.injEq,
    Token.ident.injEq] at hmem
  rwa [hmem]

theorem IsLexical.of_subset {t u : TypeExpr} (h : t.IsLexical) (hsub : u.tree.lexemes ⊆ t.tree.lexemes) :
    u.IsLexical :=
  fun text hmem => h text (hsub hmem)

theorem lexemes_lastSegment?_subset {t : TypeExpr} {parts : List Tree} (h : t.lastSegment? = some parts) :
    lexemes parts ⊆ t.tree.lexemes := by
  refine List.Subset.trans ?_ (lexemes_stripParens_subset t.tree)
  rw [lastSegment?] at h
  split at h
  next path htree =>
    rw [htree]
    exact Syntax.lexemes_lastSegment?_subset h
  next bounds htree =>
    rw [htree]
    obtain ⟨path, hpath, hlast⟩ := Option.bind_eq_some_iff.mp h
    obtain ⟨bound, hbound, hfound⟩ := List.exists_of_findSome?_eq_some hpath
    intro x hx
    exact mem_lexemes_of_mem hbound (lexemes_boundPath?_subset hfound (Syntax.lexemes_lastSegment?_subset hlast hx))
  next => exact nomatch h

theorem IsLexical.of_mem_typeArguments {t u : TypeExpr} (h : t.IsLexical) (hu : u ∈ t.typeArguments) :
    u.IsLexical :=
  h.of_subset (Tree.lexemes_subset_of_mem_pieces (mem_pieces_of_typeArguments hu))

end TypeExpr

/-! ### The identifier of a key -/

theorem isSolid_of_afterWord {cs : List Char} (h : afterWord cs = some []) : ∀ c ∈ cs, isSolid c = true := by
  cases cs with
  | nil => exact nomatch h
  | cons c cs =>
    rw [afterWord, Option.ite_none_right_eq_some, Option.some.injEq, List.dropWhile_eq_nil_iff] at h
    intro d hd
    rcases List.mem_cons.mp hd with rfl | hd
    · exact isSolid_of_isIdentifierStart h.1
    · exact isSolid_of_isIdentifierContinue (h.2 d hd)

theorem isSolid_of_name? {cs : List Char} {text : String} (h : name? cs = some (text, [])) :
    ∀ c ∈ cs, isSolid c = true := by
  obtain ⟨rest, hword, hname⟩ := Option.bind_eq_some_iff.mp h
  simp only [Option.ite_none_left_eq_some, Option.some.injEq, Prod.mk.injEq] at hname
  obtain ⟨-, -, rfl⟩ := hname
  split at hword
  next hraw =>
    obtain ⟨word, rfl⟩ := List.isPrefixOf_iff_prefix.mp hraw
    intro c hc
    rcases List.mem_append.mp hc with hc | hc
    · have hmark : "r#".toList.all isSolid = true := by decide
      exact List.all_eq_true.mp hmark c hc
    · exact isSolid_of_afterWord hword c hc
  next => exact isSolid_of_afterWord hword

theorem TypeExpr.IsLexical.isSolid_simpleName? {t : TypeExpr} (h : t.IsLexical) {name : String}
    (hname : t.simpleName? = some name) : ∀ c ∈ name.toList, isSolid c = true := by
  obtain ⟨parts, hlast, hword⟩ := Option.bind_eq_some_iff.mp hname
  obtain ⟨rest, rfl⟩ := word?_eq_some hword
  refine isSolid_of_name? (h name (TypeExpr.lexemes_lastSegment?_subset hlast ?_))
  simp [lexemes, Tree.lexemes]

theorem isSolid_snakeAfter {before : Option Char} {cs : List Char} (h : ∀ c ∈ cs, isSolid c = true) :
    ∀ c ∈ snakeAfter before cs, isSolid c = true := by
  induction cs generalizing before with
  | nil => exact fun c hc => nomatch hc
  | cons d ds ih =>
    intro c hc
    rw [snakeAfter, List.mem_append, List.mem_append] at hc
    rcases hc with hc | hc | hc
    · split at hc
      · rw [List.mem_singleton.mp hc]
        decide
      · exact nomatch hc
    · exact isSolid_lowerChar (h d List.mem_cons_self) hc
    · exact ih (fun c hc => h c (List.mem_cons_of_mem d hc)) c hc

theorem isSolid_lowerAfter {before cs : List Char} (h : ∀ c ∈ cs, isSolid c = true) :
    ∀ c ∈ lowerAfter before cs, isSolid c = true := by
  induction cs generalizing before with
  | nil => exact fun c hc => nomatch hc
  | cons d ds ih =>
    intro c hc
    rw [lowerAfter, List.mem_append] at hc
    rcases hc with hc | hc
    · split at hc
      · rw [List.mem_singleton.mp hc]
        split <;> decide
      · exact isSolid_lowerChar (h d List.mem_cons_self) hc
    · exact ih (fun c hc => h c (List.mem_cons_of_mem d hc)) c hc

theorem TypeExpr.IsLexical.isSolid_argumentName {t : TypeExpr} (h : t.IsLexical) :
    ∀ c ∈ (argumentName t).toList, isSolid c = true := by
  rw [argumentName]
  split
  next name hname =>
    rw [snakeCase, String.toList_ofList]
    exact isSolid_snakeAfter (h.isSolid_simpleName? hname)
  next =>
    rw [String.toList_ofList]
    exact isSolid_lowerAfter fun c hc => isSolid_of_isWordChar (List.mem_filter.mp hc).2

/-- The identifier of a key has no separators. -/
theorem serviceIdentifier_solid {key : TypeExpr} {id : String} (hkey : key.IsLexical)
    (h : serviceIdentifier key = .ok id) : ∀ c ∈ id.toList, isSolid c = true := by
  rw [serviceIdentifier] at h
  split at h
  next name hname =>
    obtain rfl := Except.ok.inj h
    intro c hc
    simp only [String.toList_join, List.flatMap_cons, List.mem_append, List.mem_flatMap] at hc
    rcases hc with hc | ⟨piece, ⟨u, hu, hpiece⟩, hc⟩
    · rw [snakeCase, String.toList_ofList] at hc
      exact isSolid_snakeAfter (hkey.isSolid_simpleName? hname) c hc
    · simp only [List.mem_cons, List.not_mem_nil, or_false] at hpiece
      rcases hpiece with rfl | rfl
      · have hseparator : argumentSeparator.toList.all isSolid = true := by decide
        exact List.all_eq_true.mp hseparator c hc
      · exact (hkey.of_mem_typeArguments hu).isSolid_argumentName c hc
  next => exact nomatch h

/-- The name of an accessor is made from the identifier and nothing else. -/
theorem identifier_accessorName {id name : String} (hid : ∀ c ∈ id.toList, isSolid c = true)
    (h : identifier (accessorName id) = .ok name) : name = accessorName id := by
  refine identifier_eq_ok (fun c hc => ?_) h
  rw [accessorName, String.toList_append] at hc
  rcases List.mem_append.mp hc with hc | hc
  · have hfront : "resolve_".toList.all isSolid = true := by decide
    exact List.all_eq_true.mp hfront c hc
  · exact hid c hc

/-- The name of a cell is made from the identifier and nothing else. -/
theorem identifier_cellName {id name : String} (hid : ∀ c ∈ id.toList, isSolid c = true)
    (h : identifier (cellName id) = .ok name) : name = cellName id := by
  refine identifier_eq_ok (fun c hc => ?_) h
  rw [cellName, String.toList_append] at hc
  rcases List.mem_append.mp hc with hc | hc
  · exact hid c hc
  · have hback : "_instance".toList.all isSolid = true := by decide
    exact List.all_eq_true.mp hback c hc

theorem accessorName_injective : Function.Injective accessorName := fun _ _ h =>
  (String.append_right_inj _).mp h

theorem cellName_injective : Function.Injective cellName := fun _ _ h =>
  (String.append_left_inj _).mp h

end ServiceContainer
