import ServiceContainer.Proofs.Names

/-!
# Words and identifiers

A text is an identifier that reads back as it is when the lexer takes it for one word and the word is not reserved.
What is read as an identifier is such a text, whatever stood around it.

## Main definitions

* `IsWord` — characters of which the first can begin a word and every one can stand in it

## Main statements

* `identifier_eq_self_iff` — the texts that read back as they are
* `identifier_of_eq_ok` — an identifier reads back as it is
-/

namespace ServiceContainer

open Text Syntax

/-- The first character can begin a word, and every one can stand in a word. -/
def IsWord (cs : List Char) : Prop :=
  (∀ c ∈ cs.head?, isIdentifierStart c = true) ∧ ∀ c ∈ cs, isIdentifierContinue c = true

section

variable {cs rest : List Char} {c d : Char} {text name : String}

/-! ### Characters of words -/

theorem isIdentifierContinue_of_start (h : isIdentifierStart c = true) : isIdentifierContinue c = true := by
  rw [isIdentifierStart] at h
  rw [isIdentifierContinue]
  split at h
  next hascii => simpa [hascii, Char.isAlphanum, or_right_comm] using Or.inl h
  next hascii => simp [hascii, h]

theorem isWord_cons : IsWord (c :: cs) ↔
    isIdentifierStart c = true ∧ ∀ d ∈ cs, isIdentifierContinue d = true := by
  simp only [IsWord, List.head?_cons, Option.mem_def, Option.some.injEq, forall_eq', List.forall_mem_cons]
  exact ⟨fun h => ⟨h.1, h.2.2⟩, fun h => ⟨h.1, isIdentifierContinue_of_start h.1, h.2⟩⟩

/-- What stands in words can follow a word. -/
theorem IsWord.append {ds : List Char} (h : IsWord cs) (hcs : cs ≠ [])
    (hds : ∀ d ∈ ds, isIdentifierContinue d = true) : IsWord (cs ++ ds) := by
  obtain ⟨c, cs, rfl⟩ := List.exists_cons_of_ne_nil hcs
  rw [List.cons_append, isWord_cons]
  rw [isWord_cons] at h
  refine ⟨h.1, fun d hd => ?_⟩
  rcases List.mem_append.mp hd with hd | hd
  · exact h.2 d hd
  · exact hds d hd

theorem ne_of_not_start (hd : isIdentifierStart d = false) (h : isIdentifierStart c = true) : c ≠ d := by
  rintro rfl
  exact nomatch hd.symm.trans h

theorem ne_of_not_continue (hd : isIdentifierContinue d = false) (h : isIdentifierContinue c = true) : c ≠ d := by
  rintro rfl
  exact nomatch hd.symm.trans h

theorem afterWord_eq_nil : afterWord cs = some [] ↔ cs ≠ [] ∧ IsWord cs := by
  cases cs with
  | nil => simp [afterWord]
  | cons c cs => simp [afterWord, isWord_cons]

/-- What was read as a word is a word. -/
theorem afterWord_front (h : afterWord (cs ++ rest) = some rest) : afterWord cs = some [] := by
  cases hfront : cs ++ rest with
  | nil =>
    rw [hfront] at h
    exact nomatch h
  | cons c more =>
    rw [hfront, afterWord, Option.ite_none_right_eq_some, Option.some.injEq] at h
    obtain ⟨hc, hrest⟩ := h
    have hcs : cs = c :: more.takeWhile isIdentifierContinue := by
      have happend : cs ++ rest = (c :: more.takeWhile isIdentifierContinue) ++ rest := by
        rw [hfront, List.cons_append, ← hrest, List.takeWhile_append_dropWhile]
      exact List.append_cancel_right happend
    rw [hcs, afterWord_eq_nil, isWord_cons]
    exact ⟨List.cons_ne_nil _ _, hc, fun d hd => List.mem_takeWhile_imp hd⟩

/-! ### Names -/

/-- The names that cannot be raw. -/
def unrawable : List String := ["r#_", "r#super", "r#self", "r#Self", "r#crate"]

/-- The text without the mark of raw names. -/
def afterMark (cs : List Char) : List Char := if startsWith "r#" cs then cs.drop 2 else cs

theorem name?_eq_some_iff : name? cs = some (text, rest) ↔ afterWord (afterMark cs) = some rest ∧
    text = String.ofList (cs.take (cs.length - rest.length)) ∧ ¬ (startsWith "r#" cs = true ∧ text ∈ unrawable) := by
  simp only [name?, Option.bind_eq_bind, Option.bind_eq_some_iff, Option.ite_none_left_eq_some, Option.some.injEq,
    Prod.mk.injEq, Bool.and_eq_true, List.contains_iff_mem, afterMark]
  constructor
  · rintro ⟨after, hafter, hmark, rfl, rfl⟩
    exact ⟨hafter, rfl, hmark⟩
  · rintro ⟨hafter, rfl, hmark⟩
    exact ⟨rest, hafter, hmark, rfl, rfl⟩

/-- A text is a name when it is a word, or one after the mark of raw names. -/
theorem name?_eq_self_iff : name? text.toList = some (text, []) ↔
    afterWord (afterMark text.toList) = some [] ∧ ¬ (startsWith "r#" text.toList = true ∧ text ∈ unrawable) := by
  simp [name?_eq_some_iff]

theorem startsWith_mark : startsWith "r#" cs = true ↔ ∃ ds, cs = 'r' :: '#' :: ds := by
  rw [startsWith, List.isPrefixOf_iff_prefix]
  exact exists_congr fun ds => eq_comm

/-- A text whose second character is another one has no mark. -/
theorem afterMark_of_ne (h : cs[1]? ≠ some '#') : afterMark cs = cs := by
  rw [afterMark, if_neg]
  rw [startsWith_mark]
  rintro ⟨ds, rfl⟩
  exact h rfl

theorem afterMark_of_isWord (h : IsWord cs) : afterMark cs = cs :=
  afterMark_of_ne fun heq => ne_of_not_continue (by decide) (h.2 '#' (List.mem_of_getElem? heq)) rfl

/-- A word is a name. -/
theorem name?_of_isWord (hne : text.toList ≠ []) (h : IsWord text.toList) : name? text.toList = some (text, []) := by
  rw [name?_eq_self_iff, afterMark_of_isWord h, afterWord_eq_nil]
  refine ⟨⟨hne, h⟩, fun ⟨hraw, _⟩ => ?_⟩
  obtain ⟨ds, hds⟩ := startsWith_mark.mp hraw
  exact ne_of_not_continue (by decide) (h.2 '#' (by simp [hds])) rfl

/-- What was read as a name is a name. -/
theorem name?_of_name? (h : name? cs = some (text, rest)) : name? text.toList = some (text, []) := by
  have htext := name?_eq_some h
  obtain ⟨hafter, -, hmark⟩ := name?_eq_some_iff.mp h
  have hraw : startsWith "r#" text.toList = true → startsWith "r#" cs = true := by
    simp only [startsWith_mark]
    rintro ⟨ds, hds⟩
    exact ⟨ds ++ rest, by rw [← htext, hds]; rfl⟩
  rw [name?_eq_self_iff]
  refine ⟨?_, fun ⟨hraw', hmem⟩ => hmark ⟨hraw hraw', hmem⟩⟩
  by_cases hcs : startsWith "r#" cs = true
  · -- The mark is followed by the whole word, so it is part of the text.
    obtain ⟨ds, rfl⟩ := startsWith_mark.mp hcs
    rw [afterMark, if_pos hcs, List.drop_succ_cons, List.drop_succ_cons, List.drop_zero] at hafter
    obtain ⟨word, rfl⟩ := afterWord_suffix hafter
    have happend : text.toList ++ rest = ('r' :: '#' :: word) ++ rest := htext
    have hword := List.append_cancel_right happend
    rw [hword, afterMark, if_pos (startsWith_mark.mpr ⟨word, rfl⟩)]
    exact afterWord_front hafter
  · rw [afterMark, if_neg hcs, ← htext] at hafter
    rw [afterMark, if_neg fun hraw' => hcs (hraw hraw')]
    exact afterWord_front hafter

/-! ### A name is one token -/

/-- A name is a word, or one after the mark of raw names. -/
theorem exists_word_of_name? (h : name? cs = some (text, [])) :
    ∃ c ds, IsWord (c :: ds) ∧ (cs = c :: ds ∨ cs = 'r' :: '#' :: c :: ds) := by
  obtain ⟨hcs, hword⟩ := afterWord_eq_nil.mp (name?_eq_some_iff.mp h).1
  by_cases hraw : startsWith "r#" cs = true
  · rw [afterMark, if_pos hraw] at hcs hword
    obtain ⟨ds, rfl⟩ := startsWith_mark.mp hraw
    obtain ⟨c, ds, rfl⟩ := List.exists_cons_of_ne_nil hcs
    exact ⟨c, ds, hword, .inr rfl⟩
  · rw [afterMark, if_neg hraw] at hcs hword
    obtain ⟨c, ds, rfl⟩ := List.exists_cons_of_ne_nil hcs
    exact ⟨c, ds, hword, .inl rfl⟩

theorem afterRaw_eq_none {kind : StringKind} (h : (cs.dropWhile (· == '#')).head? ≠ some '\x22') :
    afterRaw kind cs = none := by
  unfold afterRaw
  dsimp only
  split
  next c more hcs =>
    have hc : (c == '\x22') = false := by simpa [hcs] using h
    rw [hc]
    rfl
  next => rfl

/-- No raw string begins within a word. -/
theorem afterRaw_of_continue {kind : StringKind} (h : ∀ d ∈ cs, isIdentifierContinue d = true) :
    afterRaw kind cs = none := by
  apply afterRaw_eq_none
  intro hhead
  have hmem := List.dropWhile_suffix (· == '#') |>.subset (List.mem_of_head? hhead)
  exact ne_of_not_continue (by decide) (h _ hmem) rfl

theorem isDigit_of_start (h : isIdentifierStart c = true) : c.isDigit = false := by
  by_contra hdigit
  simp only [Char.isDigit, Bool.not_eq_false, Bool.and_eq_true, decide_eq_true_eq, UInt32.le_iff_toNat_le,
    ge_iff_le] at hdigit
  change 48 ≤ c.toNat ∧ c.toNat ≤ 57 at hdigit
  have hascii : isAscii c = true := by
    rw [isAscii, decide_eq_true_eq]
    omega
  rw [isIdentifierStart, if_pos hascii] at h
  simp only [Char.isAlpha, Char.isUpper, Char.isLower, Bool.or_eq_true, Bool.and_eq_true, decide_eq_true_eq,
    beq_iff_eq, UInt32.le_iff_toNat_le, ge_iff_le] at h
  change ((65 ≤ c.toNat ∧ c.toNat ≤ 90) ∨ (97 ≤ c.toNat ∧ c.toNat ≤ 122)) ∨ c = '_' at h
  rcases h with (h | h) | rfl
  · omega
  · omega
  · exact absurd hdigit (by decide)

theorem hexValue?_of_not_digit {n : Nat} (hc : c.isDigit = false) (h : hexValue? c = some n) : ¬ n < 10 := by
  unfold hexValue? at h
  split at h
  next hdigit =>
    exact absurd (show c.isDigit = true by simpa [Char.isDigit, Char.le_def] using hdigit) (by simp [hc])
  next =>
    split at h
    next hletter =>
      simp only [Bool.and_eq_true, decide_eq_true_eq, Char.le_def, UInt32.le_iff_toNat_le] at hletter
      change 97 ≤ c.toNat ∧ c.toNat ≤ 102 at hletter
      have hn := Option.some.inj h
      omega
    next =>
      split at h
      next hletter =>
        simp only [Bool.and_eq_true, decide_eq_true_eq, Char.le_def, UInt32.le_iff_toNat_le] at hletter
        change 65 ≤ c.toNat ∧ c.toNat ≤ 70 at hletter
        have hn := Option.some.inj h
        omega
      next => exact nomatch h

theorem afterDigits_of_start (h : isIdentifierStart c = true) : afterDigits 10 true (c :: cs) = none := by
  have hdigit := isDigit_of_start h
  rw [afterDigits]
  split
  next => rfl
  next =>
    split
    next n hn =>
      rw [if_neg (hexValue?_of_not_digit hdigit hn), hdigit]
      rfl
    next => rfl

theorem afterInteger_of_start (h : isIdentifierStart c = true) : afterInteger (c :: cs) = none := by
  have hc : c ≠ '0' := by
    rintro rfl
    exact absurd h (by decide)
  unfold afterInteger
  have hdigits : afterDigits 10 true (c :: cs) = none := afterDigits_of_start h
  split
  next rest heq => exact absurd (List.cons.inj heq).1 hc
  next rest heq => exact absurd (List.cons.inj heq).1 hc
  next rest heq => exact absurd (List.cons.inj heq).1 hc
  next => rw [hdigits]; rfl

theorem afterFloat_of_start (h : isIdentifierStart c = true) : afterFloat (c :: cs) = none := by
  rw [afterFloat, List.head?_cons, Option.any_some, isDigit_of_start h]
  rfl

/-- A word begins no string: what follows its first letters is neither a quote nor a hash mark. -/
theorem afterString_of_word (h : IsWord (c :: cs)) : afterString (c :: cs) = none := by
  obtain ⟨hc, hcs⟩ := isWord_cons.mp h
  have hquote : c ≠ '\x22' := ne_of_not_start (by decide) hc
  have hmore {d : Char} {ds : List Char} (hds : c :: cs = c :: d :: ds) :
      d ≠ '\x22' ∧ ∀ e ∈ ds, isIdentifierContinue e = true := by
    rw [(List.cons.inj hds).2, List.forall_mem_cons] at hcs
    exact ⟨ne_of_not_continue (by decide) hcs.1, hcs.2⟩
  unfold afterString
  split
  next heq => exact absurd (List.cons.inj heq).1 hquote
  next heq =>
    rw [(List.cons.inj heq).2] at hcs
    exact afterRaw_of_continue hcs
  next heq =>
    obtain rfl := (List.cons.inj heq).1
    exact absurd rfl (hmore heq).1
  next heq =>
    obtain rfl := (List.cons.inj heq).1
    exact afterRaw_of_continue (hmore heq).2
  next heq =>
    obtain rfl := (List.cons.inj heq).1
    exact absurd rfl (hmore heq).1
  next heq =>
    obtain rfl := (List.cons.inj heq).1
    exact afterRaw_of_continue (hmore heq).2
  next => rfl

theorem afterString_of_mark (h : isIdentifierStart c = true) : afterString ('r' :: '#' :: c :: cs) = none := by
  have hhash : (c == '#') = false := beq_false_of_ne (ne_of_not_start (by decide) h)
  apply afterRaw_eq_none
  simp only [List.dropWhile_cons, beq_self_eq_true, if_true, hhash, Bool.false_eq_true, if_false, List.head?_cons]
  exact fun heq => ne_of_not_start (by decide) h (Option.some.inj heq)

theorem afterChar_eq_none (h : isIdentifierStart c = true) (hcs : cs.head? ≠ some '\x27') :
    afterChar (c :: cs) = none := by
  unfold afterChar
  split
  next heq => exact absurd (by rw [(List.cons.inj heq).2]; rfl) hcs
  next heq => exact absurd (List.cons.inj heq).1 (ne_of_not_start (by decide) h)
  next => rfl

/-- A name is no literal. -/
theorem afterAnyLiteral_of_name (h : name? cs = some (text, [])) : afterAnyLiteral cs = none := by
  obtain ⟨c, ds, hword, hcs⟩ := exists_word_of_name? h
  obtain ⟨hc, hds⟩ := isWord_cons.mp hword
  -- Either way the text begins with the beginning of a word, and no quote comes second.
  obtain ⟨d, more, rfl, hd, hmore, hstring⟩ : ∃ d more, cs = d :: more ∧ isIdentifierStart d = true ∧
      more.head? ≠ some '\x27' ∧ afterString (d :: more) = none := by
    rcases hcs with rfl | rfl
    · refine ⟨c, ds, rfl, hc, fun hhead => ?_, afterString_of_word hword⟩
      exact ne_of_not_continue (by decide) (hds _ (List.mem_of_head? hhead)) rfl
    · exact ⟨'r', '#' :: c :: ds, rfl, by decide, by simp, afterString_of_mark hc⟩
  have hbroken : startsWith brokenLiteral (d :: more) = false := by
    have hparen : d ≠ '(' := ne_of_not_start (by decide) hd
    simp [startsWith, brokenLiteral, List.isPrefixOf, hparen.symm]
  rw [afterAnyLiteral, hbroken, afterLiteral, hstring, afterChar_eq_none hd hmore, afterFloat_of_start hd,
    afterInteger_of_start hd]
  rfl

/-- A name begins like no literal. -/
theorem literalFronts_of_name (h : name? cs = some (text, [])) : literalFronts.any (startsWith · cs) = false := by
  obtain ⟨c, ds, hword, hcs⟩ := exists_word_of_name? h
  obtain ⟨hc, hds⟩ := isWord_cons.mp hword
  rcases hcs with rfl | rfl
  · -- Every one of the fronts has a quote or a hash mark, which stand in no word.
    have hfronts : literalFronts.all (fun word => word.toList.any (!isIdentifierContinue ·)) = true := by decide
    rw [List.any_eq_false]
    intro word hmem hstarts
    obtain ⟨d, hd, hnot⟩ := List.any_eq_true.mp (List.all_eq_true.mp hfronts word hmem)
    have hd : d ∈ c :: ds := (List.isPrefixOf_iff_prefix.mp hstarts).subset hd
    rw [Bool.not_eq_true', hword.2 d hd] at hnot
    exact nomatch hnot
  · have hquote : '\x22' ≠ c := (ne_of_not_start (by decide) hc).symm
    have hhash : '#' ≠ c := (ne_of_not_start (by decide) hc).symm
    simp [literalFronts, startsWith, List.isPrefixOf, hquote, hhash]

theorem head_of_name (h : name? cs = some (text, [])) : ∃ c ds, cs = c :: ds ∧ isIdentifierStart c = true := by
  obtain ⟨c, ds, hword, rfl | rfl⟩ := exists_word_of_name? h
  · exact ⟨c, ds, rfl, (isWord_cons.mp hword).1⟩
  · exact ⟨'r', '#' :: c :: ds, rfl, by decide⟩

/-- A name is one token. -/
theorem leaf?_of_name (h : name? cs = some (text, [])) : leaf? cs = some (.ident text, []) := by
  have hident : ident? cs = some (text, []) := by rw [ident?, literalFronts_of_name h, if_neg (by simp), h]
  have hliteral := afterAnyLiteral_of_name h
  obtain ⟨c, ds, rfl, hc⟩ := head_of_name h
  have hpunct : startsPunct (c :: ds) = false := by
    have hmarks : punctuation.all (!isIdentifierStart ·) = true := by decide
    have hnot : c ∉ punctuation := fun hmem => by simpa [hc] using List.all_eq_true.mp hmarks c hmem
    simp [startsPunct, hnot]
  unfold leaf?
  rw [hliteral]
  dsimp only
  rw [hpunct, if_neg (by simp), hident]
  rfl

/-- A name is one tree. -/
theorem treesOf?_of_name (h : name? cs = some (text, [])) : treesOf? cs = some [.token (.ident text)] := by
  have hleaf := leaf?_of_name h
  obtain ⟨c, ds, rfl, hc⟩ := head_of_name h
  -- No group begins or ends with a name, and what is left is the token.
  have hclosing : isClosing c = false := by
    have hclosers : [Delimiter.paren, .bracket, .brace].all (fun d => !isIdentifierStart d.closing) = true := by decide
    rw [isClosing, List.any_eq_false]
    intro d hd heq
    have hnot := List.all_eq_true.mp hclosers d hd
    rw [beq_iff_eq.mp heq, hc] at hnot
    exact nomatch hnot
  have hopened : opened? (c :: ds) = none := by
    have hopeners : [Delimiter.paren, .bracket, .brace].all (fun d => !isIdentifierStart d.opening) = true := by decide
    rw [opened?]
    split
    · rfl
    · refine List.find?_eq_none.mpr fun d hd heq => ?_
      have hnot := List.all_eq_true.mp hopeners d hd
      rw [← Option.some.inj (beq_iff_eq.mp heq), hc] at hnot
      exact nomatch hnot
  rw [treesOf?, List.length_cons, treesUpTo_of_isSolid (isSolid_of_isIdentifierStart hc), hclosing, hopened, hleaf]
  rfl

/-! ### Reading identifiers -/

/-- The word of the only token of a text is a name. -/
theorem name?_of_treesOf? (h : treesOf? cs = some [.token (.ident text)]) : name? text.toList = some (text, []) := by
  simp only [treesOf?, Option.bind_eq_bind, Option.bind_eq_some_iff, Option.ite_none_right_eq_some, Option.some.injEq,
    Prod.exists] at h
  obtain ⟨trees, rest, h, -, rfl⟩ := h
  -- A comment that documents begins with a mark, and a group is no token, so the text begins with the word.
  rw [treesUpTo] at h
  split at h
  next => cases h
  next c ds _ =>
    split at h
    next trees _ hdocumentation =>
      obtain ⟨⟨inner, line, after⟩, -, htrees⟩ := Option.bind_eq_some_iff.mp hdocumentation
      rw [Option.ite_none_right_eq_some, Option.some.injEq, Prod.mk.injEq] at htrees
      obtain ⟨-, rfl, -⟩ := htrees
      obtain ⟨_, -, heq⟩ := Option.bind_eq_some_iff.mp h
      cases (List.cons.inj (Prod.mk.inj (Option.some.inj heq)).1).1
    next =>
      split at h
      next => cases h
      next =>
        split at h
        next =>
          obtain ⟨⟨inner, after⟩, -, h⟩ := Option.bind_eq_some_iff.mp h
          dsimp only at h
          split at h
          next =>
            rw [Option.ite_none_right_eq_some] at h
            obtain ⟨_, -, heq⟩ := Option.bind_eq_some_iff.mp h.2
            cases (List.cons.inj (Prod.mk.inj (Option.some.inj heq)).1).1
          next => cases h
        next =>
          obtain ⟨⟨token, after⟩, hleaf, h⟩ := Option.bind_eq_some_iff.mp h
          obtain ⟨_, -, heq⟩ := Option.bind_eq_some_iff.mp h
          obtain rfl := Tree.token.inj (List.cons.inj (Prod.mk.inj (Option.some.inj heq)).1).1
          exact name?_of_name? (name?_of_leaf? hleaf)

/-- What is read as an identifier is a name that is not reserved. -/
theorem name_of_identifier (h : identifier text = .ok name) :
    name? name.toList = some (name, []) ∧ name ∉ reservedWords := by
  obtain ⟨htrees, hfree⟩ := identifier_eq_ok_iff.mp h
  exact ⟨name?_of_treesOf? htrees, hfree⟩

/-- The texts that read back as they are. -/
theorem identifier_eq_self_iff :
    identifier text = .ok text ↔ name? text.toList = some (text, []) ∧ text ∉ reservedWords := by
  refine ⟨name_of_identifier, fun ⟨hname, hfree⟩ => ?_⟩
  -- Nothing is skipped before a name.
  have hmark : skipMark text.toList = text.toList := by
    obtain ⟨c, ds, hcs, hc⟩ := head_of_name hname
    rw [hcs, skipMark_of_isSolid (isSolid_of_isIdentifierStart hc)]
  rw [identifier_eq_ok_iff, hmark]
  exact ⟨treesOf?_of_name hname, hfree⟩

/-- A word that is not reserved reads back as it is. -/
theorem identifier_of_isWord (hne : text.toList ≠ []) (h : IsWord text.toList) (hfree : text ∉ reservedWords) :
    identifier text = .ok text :=
  identifier_eq_self_iff.mpr ⟨name?_of_isWord hne h, hfree⟩

/-- A text without the mark of raw names that is not reserved reads back as it is when it is a word. -/
theorem identifier_eq_self_iff_isWord (hne : text.toList ≠ []) (hmark : afterMark text.toList = text.toList)
    (hfree : text ∉ reservedWords) : identifier text = .ok text ↔ IsWord text.toList := by
  refine ⟨fun h => ?_, fun h => identifier_of_isWord hne h hfree⟩
  have hname := (name?_eq_self_iff.mp (name_of_identifier h).1).1
  rw [hmark] at hname
  exact (afterWord_eq_nil.mp hname).2

/-- An identifier reads back as it is. -/
theorem identifier_of_eq_ok (h : identifier text = .ok name) : identifier name = .ok name :=
  identifier_eq_self_iff.mpr (name_of_identifier h)

end

end ServiceContainer
