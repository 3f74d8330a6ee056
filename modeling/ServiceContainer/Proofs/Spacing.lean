import Mathlib.Data.List.DropRight
import ServiceContainer.Proofs.Names

/-!
# What a displayed type tells

Two types are the same when their displayed texts are. The displayed text has lost the spaces of the token text that
divide no two word characters; what it tells is which characters there are, and which of these are divided. That is
the whole token text where spaces follow from the characters beside them. In a literal they do not, so types with
different literals can be the same.

## Main definitions

* `Text.visible` — the characters of a text that are no spaces, and whether a space divides two word characters
* `Text.spread` — characters with spaces as token text has them
* `TypeExpr.HasRegularTokens` — a type of names, lifetimes, numbers and marks that are glued together as they are in types

## Main statements

* `Text.compact_eq_iff` — what is lost in compact text
* `spread_visible_chars` — what is visible of regular tokens tells their text
* `TypeExpr.same_iff` — which types are the same
-/

namespace ServiceContainer

namespace Text

/-! ### Characters without spaces -/

/-- The characters of a text that are no spaces, after a character and perhaps spaces. Each of them comes with whether
it is a word character that spaces divide from a word character before it. -/
def visibleAfter (last : Option Char) (gap : Bool) : List Char → List (Bool × Char)
  | [] => []
  | c :: rest =>
    if c = ' ' then visibleAfter last true rest
    else (gap && keepsSpace last (some c), c) :: visibleAfter (some c) false rest

/-- The characters of a text that are no spaces, and whether spaces divide two word characters. -/
def visible (cs : List Char) : List (Bool × Char) := visibleAfter none false cs

/-- The compact text of characters: a space before one that is divided from the one before, and after a comma. -/
def displayed : List (Bool × Char) → List Char
  | [] => []
  | (divided, c) :: rest => (if divided then [' '] else []) ++ (if c = ',' then [',', ' '] else [c]) ++ displayed rest

variable {last written : Option Char} {gap : Bool} {cs ws : List Char} {v : List (Bool × Char)}

theorem visibleAfter_of_ne {c : Char} (hc : c ≠ ' ') (rest : List Char) : visibleAfter last gap (c :: rest) =
    (gap && keepsSpace last (some c), c) :: visibleAfter (some c) false rest := by
  rw [visibleAfter, if_neg hc]

theorem visibleAfter_space (rest : List Char) : visibleAfter last gap (' ' :: rest) = visibleAfter last true rest := by
  rw [visibleAfter, if_pos rfl]

/-- Spaces that divide nothing are not seen. -/
theorem visibleAfter_true (h : keepsSpace last cs.head? = false) :
    visibleAfter last true cs = visibleAfter last false cs := by
  cases cs with
  | nil => rfl
  | cons c rest =>
    by_cases hc : c = ' '
    · subst hc
      rw [visibleAfter_space, visibleAfter_space]
    · rw [visibleAfter_of_ne hc, visibleAfter_of_ne hc]
      rw [List.head?_cons] at h
      rw [h]
      rfl

/-- The compact form of a text shows its visible characters. -/
theorem compactAfter_eq (hlast : ∀ next, keepsSpace written next = keepsSpace last next) (cs : List Char) :
    compactAfter written cs = displayed (visibleAfter last false cs) := by
  fun_induction compactAfter written cs generalizing last with
  | case1 => rfl
  | case2 written rest hkeeps ih =>
    -- The space is kept before a word character, which is no space itself.
    cases rest with
    | nil => simp [keepsSpace] at hkeeps
    | cons d rest =>
      have hd : isWordChar d = true := by
        simp only [keepsSpace, List.head?_cons, Option.any_some, Bool.and_eq_true] at hkeeps
        exact hkeeps.2
      have hspace : d ≠ ' ' := by
        rintro rfl
        exact absurd hd (by decide)
      rw [visibleAfter_space, visibleAfter_of_ne hspace, ih fun _ => rfl, visibleAfter_of_ne hspace, ← hlast]
      rw [List.head?_cons] at hkeeps
      simp [displayed, hkeeps]
  | case3 written rest hkeeps ih =>
    rw [visibleAfter_space, visibleAfter_true (by rw [← hlast]; simpa using hkeeps), ih hlast]
  | case4 written rest hspace ih =>
    -- Neither the comma nor the space after it is a word character.
    have hcomma (next : Option Char) : keepsSpace (some ' ') next = keepsSpace (some ',') next := by
      simp [keepsSpace, (by decide : isWordChar ' ' = false), (by decide : isWordChar ',' = false)]
    rw [visibleAfter_of_ne (by decide), ih hcomma]
    simp [displayed]
  | case5 written c rest hspace hcomma ih =>
    rw [visibleAfter_of_ne hspace, ih fun _ => rfl]
    simp [displayed, hcomma]

/-! ### The end of a text -/

theorem not_isWordChar_of_isWhiteSpace {c : Char} (h : isWhiteSpace c = true) : isWordChar c = false := by
  by_contra hword
  have hsolid := isSolid_of_isWordChar (Bool.eq_true_of_not_eq_false hword)
  have hseparates : inRanges separators c = true := by
    rw [inRanges, separators, List.any_append, Bool.or_eq_true]
    exact .inl h
  simp [isSolid, hseparates] at hsolid

theorem visibleAfter_append (cs ws : List Char) : ∃ last' gap',
    visibleAfter last gap (cs ++ ws) = visibleAfter last gap cs ++ visibleAfter last' gap' ws := by
  induction cs generalizing last gap with
  | nil => exact ⟨last, gap, rfl⟩
  | cons c cs ih =>
    by_cases hc : c = ' '
    · subst hc
      rw [List.cons_append, visibleAfter_space, visibleAfter_space]
      exact ih
    · rw [List.cons_append, visibleAfter_of_ne hc, visibleAfter_of_ne hc]
      obtain ⟨last', gap', h⟩ := ih
      exact ⟨last', gap', by rw [h, List.cons_append]⟩

theorem displayed_append (v w : List (Bool × Char)) : displayed (v ++ w) = displayed v ++ displayed w := by
  induction v with
  | nil => rfl
  | cons e v ih => simp [displayed, ih]

/-- The compact form of white space is white space. -/
theorem displayed_visibleAfter_white (hws : ∀ c ∈ ws, isWhiteSpace c = true) :
    ∀ c ∈ displayed (visibleAfter last gap ws), isWhiteSpace c = true := by
  induction ws generalizing last gap with
  | nil => exact nofun
  | cons c ws ih =>
    rw [List.forall_mem_cons] at hws
    obtain ⟨hc, hws⟩ := hws
    by_cases hspace : c = ' '
    · subst hspace
      rw [visibleAfter_space]
      exact ih hws
    · have hword : isWordChar c = false := not_isWordChar_of_isWhiteSpace hc
      have hcomma : c ≠ ',' := by
        rintro rfl
        exact absurd hc (by decide)
      rw [visibleAfter_of_ne hspace]
      simpa [displayed, keepsSpace, hword, hcomma, hc] using ih hws

theorem trimEnd_append_white (hws : ∀ c ∈ ws, isWhiteSpace c = true) : trimEnd (cs ++ ws) = trimEnd cs := by
  induction ws using List.reverseRecOn with
  | nil => rw [List.append_nil]
  | append_singleton ws c ih =>
    rw [List.forall_mem_append, List.forall_mem_singleton] at hws
    rw [← List.append_assoc]
    exact (List.rdropWhile_concat_pos _ _ _ hws.2).trans (ih hws.1)

theorem exists_trimEnd (cs : List Char) : ∃ ws, cs = trimEnd cs ++ ws ∧ ∀ c ∈ ws, isWhiteSpace c = true := by
  refine ⟨cs.rtakeWhile isWhiteSpace, List.rdropWhile_append_rtakeWhile.symm, fun c hc => ?_⟩
  exact List.mem_rtakeWhile_imp hc

/-- White space at the end of a text is not displayed. -/
theorem trimEnd_compactAfter (cs : List Char) :
    trimEnd (compactAfter none cs) = trimEnd (displayed (visible (trimEnd cs))) := by
  obtain ⟨ws, hcs, hws⟩ := exists_trimEnd cs
  rw [compactAfter_eq (fun _ => rfl) cs]
  obtain ⟨last, gap, happend⟩ := visibleAfter_append (trimEnd cs) ws
  conv_lhs => rw [hcs, happend, displayed_append]
  exact trimEnd_append_white (displayed_visibleAfter_white hws)

/-! ### Reading compact text -/

/-- The characters that a compact text shows, and which of them are divided. -/
def undisplayed : List Char → List (Bool × Char)
  | [] => []
  | ' ' :: c :: rest => (true, c) :: undisplayed rest
  | ',' :: _ :: rest => (false, ',') :: undisplayed rest
  | c :: rest => (false, c) :: undisplayed rest

/-- An entry as it can be seen: it is no space, and divided only if it is a word character. -/
def IsVisible (e : Bool × Char) : Prop := e.2 ≠ ' ' ∧ (e.1 = true → isWordChar e.2 = true)

/-- Nothing divides a comma from what stands before it. -/
theorem IsVisible.divided_eq_false {divided : Bool} (h : IsVisible (divided, ',')) : divided = false := by
  by_contra hnot
  exact (by decide : ¬ isWordChar ',' = true) (h.2 (Bool.eq_true_of_not_eq_false hnot))

theorem isVisible_of_mem {e : Bool × Char} (he : e ∈ visibleAfter last gap cs) : IsVisible e := by
  induction cs generalizing last gap with
  | nil => exact nomatch he
  | cons c cs ih =>
    by_cases hc : c = ' '
    · subst hc
      rw [visibleAfter_space] at he
      exact ih he
    · rw [visibleAfter_of_ne hc, List.mem_cons] at he
      obtain rfl | he := he
      · refine ⟨hc, fun hdivided => ?_⟩
        simp only [keepsSpace, Option.any_some, Bool.and_eq_true] at hdivided
        exact hdivided.2.2
      · exact ih he

theorem trimEnd_append_of_ne_nil {xs ys : List Char} (h : trimEnd ys ≠ []) : trimEnd (xs ++ ys) = xs ++ trimEnd ys := by
  obtain ⟨ws, hys, hws⟩ := exists_trimEnd ys
  conv_lhs => rw [hys, ← List.append_assoc, trimEnd_append_white hws]
  refine List.rdropWhile_eq_self_iff.mpr fun hne => ?_
  rw [List.getLast_append_of_ne_nil _ h]
  exact List.rdropWhile_last_not _ _ h

theorem undisplayed_displayed_append {e : Bool × Char} (he : IsVisible e) (rest : List Char) :
    undisplayed (displayed [e] ++ rest) = e :: undisplayed rest := by
  obtain ⟨divided, c⟩ := e
  have hspace : c ≠ ' ' := he.1
  by_cases hcomma : c = ','
  · subst hcomma
    obtain rfl := he.divided_eq_false
    rfl
  · cases divided with
    | true => simp [displayed, hcomma, undisplayed]
    | false =>
      simp only [displayed, hcomma, Bool.false_eq_true, if_false, List.nil_append, List.append_nil, List.cons_append]
      rw [undisplayed]
      · exact fun _ _ h => absurd h hspace
      · exact fun _ _ h => absurd h hcomma

/-- The compact text of characters that end with no white space can be read. -/
theorem undisplayed_trimEnd (hv : ∀ e ∈ v, IsVisible e) (hend : ∀ e ∈ v.getLast?, isWhiteSpace e.2 = false) :
    undisplayed (trimEnd (displayed v)) = v := by
  induction v with
  | nil => rfl
  | cons e v ih =>
    obtain ⟨he, hv⟩ := List.forall_mem_cons.mp hv
    cases v with
    | nil =>
      obtain ⟨divided, c⟩ := e
      have hspace : c ≠ ' ' := he.1
      have hwhite : ¬ isWhiteSpace c = true := by simpa using hend (divided, c)
      have htrim (front : List Char) : trimEnd (front ++ [c]) = front ++ [c] := List.rdropWhile_concat_neg _ _ _ hwhite
      by_cases hcomma : c = ','
      · subst hcomma
        obtain rfl := he.divided_eq_false
        decide
      · have hdisplayed : displayed [(divided, c)] = (if divided then [' '] else []) ++ [c] := by simp [displayed, hcomma]
        rw [hdisplayed, htrim]
        cases divided with
        | true => rfl
        | false =>
          simp only [Bool.false_eq_true, if_false, List.nil_append]
          rw [undisplayed]
          · rfl
          · exact fun _ _ h => absurd h hspace
          · exact fun _ _ h => absurd h hcomma
    | cons next v =>
      have ih := ih hv (by simpa using hend)
      have hne : trimEnd (displayed (next :: v)) ≠ [] := by
        intro hnil
        rw [hnil] at ih
        exact nomatch ih
      have hsplit : displayed (e :: next :: v) = displayed [e] ++ displayed (next :: v) := displayed_append [e] _
      rw [hsplit, trimEnd_append_of_ne_nil hne, undisplayed_displayed_append he, ih]

/-- The last character that is seen of a text is its last one, if that is no white space. -/
theorem isWhiteSpace_getLast?_visible (cs : List Char) :
    ∀ e ∈ (visible (trimEnd cs)).getLast?, isWhiteSpace e.2 = false := by
  obtain hnil | ⟨front, c, hcs⟩ := (trimEnd cs).eq_nil_or_concat'
  · rw [hnil]
    exact nofun
  · have hc : isWhiteSpace c = false := by
      have hne : trimEnd cs ≠ [] := by simp [hcs]
      have hlast : ¬ isWhiteSpace ((trimEnd cs).getLast hne) = true := List.rdropWhile_last_not isWhiteSpace cs hne
      have hgetLast : (trimEnd cs).getLast hne = c := by simp [hcs]
      rw [hgetLast] at hlast
      exact Bool.eq_false_of_not_eq_true hlast
    have hspace : c ≠ ' ' := by
      rintro rfl
      exact absurd hc (by decide)
    obtain ⟨last, gap, happend⟩ : ∃ last gap, visibleAfter none false (front ++ [c]) =
      visibleAfter none false front ++ visibleAfter last gap [c] := visibleAfter_append front [c]
    rw [hcs, visible, happend, visibleAfter_of_ne hspace]
    simp [visibleAfter, hc]

/-- **Two texts have the same compact form when the same can be seen of them.** -/
theorem compact_eq_iff (a b : String) :
    compact a = compact b ↔ visible (trimEnd a.toList) = visible (trimEnd b.toList) := by
  have hread (s : String) : undisplayed (compact s).toList = visible (trimEnd s.toList) := by
    rw [compact, String.toList_ofList, trimEnd_compactAfter]
    exact undisplayed_trimEnd (fun _ => isVisible_of_mem) (isWhiteSpace_getLast?_visible s.toList)
  constructor
  · intro h
    rw [← hread, h, hread]
  · intro h
    rw [compact, compact, trimEnd_compactAfter, trimEnd_compactAfter, h]

/-! ### Characters with spaces -/

/-- Two marks are one operator in types: `::`, `->` and `...`. The third is what follows them. -/
def isJoined (c d : Char) (e : Option Char) : Bool :=
  (c == ':' && d == ':' && e != some ':') || (c == '-' && d == '>') || (c == '.' && d == '.')

/-- Token text has a space between two characters, if they do not both stand in words: there is one inside braces, and
else none inside brackets, in an operator, after a quote and beside the mark of a raw name. -/
def isApart (c d : Char) (e : Option Char) : Bool :=
  c == '\x7b' || d == '\x7d'
    || !(c == '(' || c == '[' || d == ')' || d == ']' || c == '\x27' || c == '#' || d == '#' || isJoined c d e)

/-- Token text has a space after a character, by those that are seen of the rest. -/
def hasGap (c : Char) : List (Bool × Char) → Bool
  | [] => false
  | (divided, d) :: rest =>
    if isWordChar c && isWordChar d then divided else isApart c d (rest.head?.map (·.2))

/-- Characters with spaces as token text has them. -/
def spread : List (Bool × Char) → List Char
  | [] => []
  | (_, c) :: rest => c :: (if hasGap c rest then [' '] else []) ++ spread rest

/-- The first character of a text that is no space. -/
def firstSeen (cs : List Char) : Option Char := cs.find? (· != ' ')

/-- The spaces of a text stand where those of token text do. -/
inductive Spaced : List Char → Prop
  | nil : Spaced []
  | one {c : Char} (hc : c ≠ ' ') : Spaced [c]
  | next {c d : Char} {g : Bool} {rest : List Char} (hc : c ≠ ' ')
      (hgap : isWordChar c && isWordChar d ∨ g = isApart c d (firstSeen rest)) (hrest : Spaced (d :: rest)) :
      Spaced (c :: (if g then [' '] else []) ++ d :: rest)

theorem firstSeen_eq (cs : List Char) (last : Option Char) (gap : Bool) :
    (visibleAfter last gap cs).head?.map (·.2) = firstSeen cs := by
  induction cs generalizing last gap with
  | nil => rfl
  | cons c cs ih =>
    by_cases hc : c = ' '
    · subst hc
      rw [visibleAfter_space, ih]
      rfl
    · rw [visibleAfter_of_ne hc, firstSeen, List.find?_cons_of_pos (by simpa using hc)]
      rfl

/-- What is seen of a text tells the text, where its spaces are those of token text. -/
theorem Spaced.spread_eq (h : Spaced cs) (last : Option Char) (gap : Bool) :
    spread (visibleAfter last gap cs) = cs := by
  induction h generalizing last gap with
  | nil => rfl
  | one hc =>
    rw [visibleAfter_of_ne hc]
    rfl
  | @next c d g rest hc hgap hrest ih =>
    have hd : d ≠ ' ' := by cases hrest <;> assumption
    have hseen : visibleAfter last gap (c :: (if g then [' '] else []) ++ d :: rest) =
        (gap && keepsSpace last (some c), c) :: (g && keepsSpace (some c) (some d), d) ::
          visibleAfter (some d) false rest := by
      cases g <;> simp [visibleAfter_of_ne hc, visibleAfter_space, visibleAfter_of_ne hd]
    have hspread := ih (some c) g
    rw [visibleAfter_of_ne hd] at hspread
    have hhas : hasGap c ((g && keepsSpace (some c) (some d), d) :: visibleAfter (some d) false rest) = g := by
      rw [hasGap, firstSeen_eq]
      by_cases hword : (isWordChar c && isWordChar d) = true
      · rw [if_pos hword]
        simp [keepsSpace, Bool.and_eq_true_iff.mp hword]
      · rw [if_neg hword]
        exact (hgap.resolve_left hword).symm
    rw [hseen, spread, hhas, hspread]

/-- No token text has a space between two characters, the first of which is none itself. -/
def Joins (c d : Char) : Prop := c ≠ ' ' ∧ (isWordChar c && isWordChar d ∨ ∀ e, isApart c d e = false)

/-- Characters without spaces can be put before a spaced text. -/
theorem Spaced.append {front rest : List Char} {d : Char} (hchain : (front ++ [d]).IsChain Joins)
    (h : Spaced (d :: rest)) : Spaced (front ++ d :: rest) := by
  induction front with
  | nil => exact h
  | cons c front ih =>
    have hrest := ih hchain.of_cons
    cases front <;>
    · obtain ⟨hc, hjoins⟩ := (List.isChain_cons_cons.mp hchain).1
      exact .next (g := false) hc (hjoins.imp_right fun h => (h _).symm) hrest

end Text

/-! ### Regular tokens -/

namespace Syntax

open Text

/-- The characters are a word. -/
def isPlainWord (cs : List Char) : Bool := !cs.isEmpty && cs.all isWordChar

/-- The characters are a word, which may have the mark of raw names. -/
def isPlainName (cs : List Char) : Bool := isPlainWord cs || (['r', '#'].isPrefixOf cs && isPlainWord (cs.drop 2))

/-- The marks of types and expressions: neither the quote nor the mark of raw names is among them. -/
def plainMarks : List Char := "~!@$%^&*-=+|;:,<.>/?".toList

/-- A name, lifetime or number of word characters, a mark, or a bracket. -/
def Lexeme.isRegular : Lexeme → Bool
  | .token (.ident text) => isPlainName text.toList
  | .token (.lifetime name) => isPlainName name.toList
  | .token (.punct c _) => plainMarks.contains c
  | .token (.literal text) => isPlainWord text.toList
  | .opening _ | .closing _ => true

/-- The first characters of tokens. -/
def fronts (xs : List Lexeme) : List Char := xs.filterMap fun x => x.text.toList.head?

/-- A mark is one operator with what follows it. -/
def isJoinedTo (c : Char) : List Char → Bool
  | [] => false
  | d :: rest => isJoined c d rest.head?

/-- Marks are glued together where they are one operator, and only there. -/
def isWellGlued : List Lexeme → Bool
  | [] => true
  | .token (.punct c joint) :: rest => joint == isJoinedTo c (fronts rest) && isWellGlued rest
  | _ :: rest => isWellGlued rest

/-- The characters of the spaced text of tokens. -/
def chars : List Lexeme → List Char
  | [] => []
  | [x] => x.text.toList
  | x :: y :: rest => x.text.toList ++ (if spaceBetween x y then [' '] else []) ++ chars (y :: rest)

theorem toList_join_spacedPieces (xs : List Lexeme) : (String.join (spacedPieces xs)).toList = chars xs := by
  fun_induction spacedPieces xs with
  | case1 => rfl
  | case2 x => simp [chars, String.join]
  | case3 x y rest ih =>
    rw [chars, ← ih]
    cases spaceBetween x y <;> simp [String.join_cons]

/-- How the text of a regular token begins and ends. -/
inductive Lexeme.Ends : Lexeme → Char → Char → Prop
  | ident {text : String} {first last : Char} (hfirst : isWordChar first = true) (hlast : isWordChar last = true) :
      Lexeme.Ends (.token (.ident text)) first last
  | literal {text : String} {first last : Char} (hfirst : isWordChar first = true) (hlast : isWordChar last = true) :
      Lexeme.Ends (.token (.literal text)) first last
  | lifetime {name : String} {last : Char} (hlast : isWordChar last = true) :
      Lexeme.Ends (.token (.lifetime name)) '\x27' last
  | punct {c : Char} {joint : Bool} (hc : c ∈ plainMarks) : Lexeme.Ends (.token (.punct c joint)) c c
  | opening (d : Delimiter) : Lexeme.Ends (.opening d) d.opening d.opening
  | closing (d : Delimiter) : Lexeme.Ends (.closing d) d.closing d.closing

/-- The characters are joined, from the first to the last. -/
def Runs (cs : List Char) (first last : Char) : Prop :=
  cs.head? = some first ∧ ∃ front, cs = front ++ [last] ∧ (front ++ [last]).IsChain Joins

section

variable {cs : List Char} {x y : Lexeme} {xs : List Lexeme} {c d first last : Char}

theorem runs_singleton (c : Char) : Runs [c] c c := ⟨rfl, [], rfl, .singleton c⟩

theorem Runs.cons (h : Runs cs first last) (hc : Joins c first) : Runs (c :: cs) c last := by
  obtain ⟨hfirst, front, rfl, hchain⟩ := h
  refine ⟨rfl, c :: front, rfl, ?_⟩
  rw [List.cons_append, List.isChain_cons]
  refine ⟨?_, hchain⟩
  rintro d hd
  obtain rfl := Option.some.inj (hfirst.symm.trans hd)
  exact hc

theorem isPlainWord_runs (h : isPlainWord cs = true) :
    ∃ first last, Runs cs first last ∧ isWordChar first = true ∧ isWordChar last = true := by
  rw [isPlainWord, Bool.and_eq_true, Bool.not_eq_true', List.isEmpty_eq_false_iff, List.all_eq_true] at h
  obtain ⟨hne, hword⟩ := h
  induction cs with
  | nil => exact absurd rfl hne
  | cons c cs ih =>
    rw [List.forall_mem_cons] at hword
    cases cs with
    | nil => exact ⟨c, c, runs_singleton c, hword.1, hword.1⟩
    | cons d cs =>
      obtain ⟨first, last, hruns, hfirst, hlast⟩ := ih (List.cons_ne_nil d cs) hword.2
      refine ⟨c, last, hruns.cons ⟨?_, .inl (by rw [hword.1, hfirst]; rfl)⟩, hword.1, hlast⟩
      rintro rfl
      exact absurd hword.1 (by decide)

/-- A word character is none of the characters beside which there are no spaces. -/
theorem ne_of_isWordChar (h : isWordChar c = true) (hd : isWordChar d = false) : c ≠ d := by
  rintro rfl
  exact absurd h (by simp [hd])

theorem isPlainName_runs (h : isPlainName cs = true) :
    ∃ first last, Runs cs first last ∧ isWordChar first = true ∧ isWordChar last = true := by
  rw [isPlainName, Bool.or_eq_true, Bool.and_eq_true] at h
  obtain h | ⟨hraw, h⟩ := h
  · exact isPlainWord_runs h
  · obtain ⟨cs, rfl⟩ := List.isPrefixOf_iff_prefix.mp hraw
    obtain ⟨first, last, hruns, hfirst, hlast⟩ := isPlainWord_runs h
    have hbrace : first ≠ '\x7d' := ne_of_isWordChar hfirst (by decide)
    have hmark : Joins '#' first := ⟨by decide, .inr fun e => by simp [isApart, hbrace]⟩
    exact ⟨'r', last, (hruns.cons hmark).cons ⟨by decide, .inr fun e => by simp [isApart]⟩, by decide, hlast⟩

/-- The text of a regular token runs from its first to its last character. -/
theorem Lexeme.exists_ends (h : x.isRegular = true) : ∃ first last, x.Ends first last ∧ Runs x.text.toList first last := by
  match x, h with
  | .token (.ident text), h =>
    obtain ⟨first, last, hruns, hfirst, hlast⟩ := isPlainName_runs h
    exact ⟨first, last, .ident hfirst hlast, hruns⟩
  | .token (.lifetime name), h =>
    obtain ⟨first, last, hruns, hfirst, hlast⟩ := isPlainName_runs h
    have hbrace : first ≠ '\x7d' := ne_of_isWordChar hfirst (by decide)
    have htext : (Lexeme.token (.lifetime name)).text.toList = '\x27' :: name.toList := by
      simp [Lexeme.text, Token.text]
    rw [htext]
    exact ⟨_, last, .lifetime hlast, hruns.cons ⟨by decide, .inr fun e => by simp [isApart, hbrace]⟩⟩
  | .token (.punct c joint), h =>
    refine ⟨c, c, .punct (List.contains_iff_mem.mp h), ?_⟩
    rw [show (Lexeme.token (.punct c joint)).text.toList = [c] by simp [Lexeme.text, Token.text]]
    exact runs_singleton c
  | .token (.literal text), h =>
    obtain ⟨first, last, hruns, hfirst, hlast⟩ := isPlainWord_runs h
    exact ⟨first, last, .literal hfirst hlast, hruns⟩
  | .opening d, _ =>
    refine ⟨_, _, .opening d, ?_⟩
    rw [show (Lexeme.opening d).text.toList = [d.opening] by simp [Lexeme.text]]
    exact runs_singleton _
  | .closing d, _ =>
    refine ⟨_, _, .closing d, ?_⟩
    rw [show (Lexeme.closing d).text.toList = [d.closing] by simp [Lexeme.text]]
    exact runs_singleton _

/-- The token is a closing bracket that has no space before it. -/
def Lexeme.shuts : Lexeme → Bool
  | .closing d => d != .brace
  | _ => false

theorem Lexeme.Ends.first_ne (h : x.Ends first last) : first ≠ ' ' := by
  cases h with
  | ident hfirst => exact ne_of_isWordChar hfirst (by decide)
  | literal hfirst => exact ne_of_isWordChar hfirst (by decide)
  | lifetime => decide
  | punct hc =>
    rintro rfl
    exact absurd hc (by decide)
  | opening d => cases d <;> decide
  | closing d => cases d <;> decide

theorem Lexeme.Ends.last_ne (h : x.Ends first last) : last ≠ ' ' := by
  cases h with
  | ident _ hlast => exact ne_of_isWordChar hlast (by decide)
  | literal _ hlast => exact ne_of_isWordChar hlast (by decide)
  | lifetime hlast => exact ne_of_isWordChar hlast (by decide)
  | punct hc =>
    rintro rfl
    exact absurd hc (by decide)
  | opening d => cases d <;> decide
  | closing d => cases d <;> decide

/-- The characters after which a space depends on what follows. -/
theorem isApart_of_not_mem (hc : c ∉ "\x7b(['#".toList) (e : Option Char) :
    isApart c d e = (d == '\x7d' || !(d == ')' || d == ']' || d == '#' || isJoined c d e)) := by
  have hne {m : Char} (hm : m ∈ "\x7b(['#".toList) : (c == m) = false := by
    rw [beq_eq_false_iff_ne]
    rintro rfl
    exact hc hm
  simp only [isApart, hne (m := '\x7b') (by decide), hne (m := '(') (by decide), hne (m := '[') (by decide),
    hne (m := '\x27') (by decide), hne (m := '#') (by decide), Bool.false_or, Bool.or_false]

theorem isJoined_of_not_mem (hc : c ∉ ":-.".toList) (e : Option Char) : isJoined c d e = false := by
  have hne {m : Char} (hm : m ∈ ":-.".toList) : (c == m) = false := by
    rw [beq_eq_false_iff_ne]
    rintro rfl
    exact hc hm
  simp [isJoined, hne (m := ':') (by decide), hne (m := '-') (by decide), hne (m := '.') (by decide)]

theorem not_mem_of_isWordChar {marks : List Char} (h : isWordChar c = true)
    (hmarks : marks.all (fun m => !isWordChar m) = true) : c ∉ marks := by
  intro hc
  have hnot := List.all_eq_true.mp hmarks c hc
  simp [h] at hnot

/-- Whether a space stands before a token that follows no bracket and no glued mark. -/
theorem Lexeme.Ends.shuts_eq (h : y.Ends first last) :
    (first == '\x7d' || !(first == ')' || first == ']' || first == '#')) = !y.shuts := by
  have hword (hfirst : isWordChar first = true) :
      (first == '\x7d' || !(first == ')' || first == ']' || first == '#')) = true := by
    have hparen : first ≠ ')' := ne_of_isWordChar hfirst (by decide)
    have hbracket : first ≠ ']' := ne_of_isWordChar hfirst (by decide)
    have hmark : first ≠ '#' := ne_of_isWordChar hfirst (by decide)
    simp [hparen, hbracket, hmark]
  cases h with
  | ident hfirst => exact hword hfirst
  | literal hfirst => exact hword hfirst
  | lifetime => rfl
  | punct hc =>
    have hall : plainMarks.all (fun c => c == '\x7d' || !(c == ')' || c == ']' || c == '#')) = true := by decide
    exact List.all_eq_true.mp hall _ hc
  | opening d => cases d <;> rfl
  | closing d => cases d <;> rfl

theorem fronts_cons (h : Runs x.text.toList first last) (xs : List Lexeme) : fronts (x :: xs) = first :: fronts xs := by
  simp [fronts, h.1]

theorem firstSeen_chars (hxs : ∀ x ∈ xs, x.isRegular = true) (g : Bool) :
    firstSeen ((if g then [' '] else []) ++ chars xs) = (fronts xs).head? := by
  have hspace : firstSeen ((if g then [' '] else []) ++ chars xs) = firstSeen (chars xs) := by cases g <;> rfl
  rw [hspace]
  cases xs with
  | nil => rfl
  | cons x xs =>
    obtain ⟨first, last, hends, hruns⟩ := Lexeme.exists_ends (hxs x List.mem_cons_self)
    obtain ⟨more, hmore⟩ := List.head?_eq_some_iff.mp hruns.1
    have hchars : ∃ tail, chars (x :: xs) = first :: tail := by
      cases xs with
      | nil => exact ⟨more, hmore⟩
      | cons z rest => exact ⟨_, by rw [chars, hmore, List.cons_append, List.cons_append]⟩
    obtain ⟨tail, htail⟩ := hchars
    rw [htail, firstSeen, List.find?_cons_of_pos (by simpa using hends.first_ne), fronts_cons hruns, List.head?_cons]

theorem Lexeme.Ends.eq_punct (h : y.Ends first last) (hmark : first ∈ plainMarks) :
    ∃ joint, y = .token (.punct first joint) := by
  cases h with
  | ident hfirst => exact absurd hmark (not_mem_of_isWordChar hfirst (by decide))
  | literal hfirst => exact absurd hmark (not_mem_of_isWordChar hfirst (by decide))
  | lifetime => exact absurd hmark (by decide)
  | punct => exact ⟨_, rfl⟩
  | opening d => exact absurd hmark (by cases d <;> decide)
  | closing d => exact absurd hmark (by cases d <;> decide)

/-- A mark is an operator with a token just where it is one with the characters of the text. -/
theorem isJoinedTo_eq (hy : y.Ends d last) (hruns : Runs y.text.toList d last) (hxs : ∀ x ∈ xs, x.isRegular = true)
    {rest : List Char} (hrest : chars (y :: xs) = d :: rest) :
    isJoinedTo c (fronts (y :: xs)) = isJoined c d (firstSeen rest) := by
  rw [fronts_cons hruns, isJoinedTo]
  by_cases hcolon : d = ':'
  · -- Only a mark begins with a colon, and then the next token begins after it.
    subst hcolon
    obtain ⟨joint, rfl⟩ := hy.eq_punct (by decide)
    have hnext : (fronts xs).head? = firstSeen rest := by
      cases xs with
      | nil =>
        obtain rfl : [] = rest := by simpa [chars, Lexeme.text, Token.text] using hrest
        rfl
      | cons z xs =>
        rw [chars, List.append_assoc] at hrest
        simp only [Lexeme.text, Token.text, Char.toString, String.toList_singleton, List.cons_append,
          List.nil_append, List.cons.injEq, true_and] at hrest
        rw [← hrest, firstSeen_chars hxs]
    rw [hnext]
  · simp [isJoined, beq_eq_false_iff_ne.mpr hcolon]

/-- The token takes a space after it, unless a closing bracket follows. -/
def Lexeme.isLoose : Lexeme → Bool
  | .token (.punct _ joint) => !joint
  | .opening _ => false
  | _ => true

theorem spaceBetween_of_isLoose (hx : x.isLoose = true) (y : Lexeme) : spaceBetween x y = !y.shuts := by
  unfold spaceBetween
  split <;> simp_all [Lexeme.isLoose, Lexeme.shuts]

theorem spaceBetween_of_not_isLoose (hx : x.isLoose = false) (hbrace : x ≠ .opening .brace) (hy : y.Ends d last) :
    spaceBetween x y = (d == '\x7d') := by
  have hspace : spaceBetween x y = (y == .closing .brace) := by
    unfold Lexeme.isLoose at hx
    unfold spaceBetween
    split at hx <;> split <;> simp_all
  have hword (hfirst : isWordChar d = true) : (d == '\x7d') = false :=
    beq_eq_false_iff_ne.mpr (ne_of_isWordChar hfirst (by decide))
  rw [hspace]
  cases hy with
  | ident hfirst => rw [hword hfirst]; rfl
  | literal hfirst => rw [hword hfirst]; rfl
  | lifetime => rfl
  | punct hc =>
    have hne : d ≠ '\x7d' := by
      rintro rfl
      exact absurd hc (by decide)
    rw [beq_eq_false_iff_ne.mpr hne]
    rfl
  | opening e => cases e <;> rfl
  | closing e => cases e <;> rfl

/-- Between two regular tokens there is a space just where their characters say so. -/
theorem spaceBetween_eq (hx : x.Ends c first) (hy : y.Ends d last) (hruns : Runs y.text.toList d last)
    (hxs : ∀ x ∈ xs, x.isRegular = true) (hglued : isWellGlued (x :: y :: xs) = true) {rest : List Char}
    (hrest : chars (y :: xs) = d :: rest) : spaceBetween x y = isApart first d (firstSeen rest) := by
  have hloose (hspace : x.isLoose = true) (hfirst : first ∉ "\x7b(['#".toList)
      (hjoined : isJoined first d (firstSeen rest) = false) : spaceBetween x y = isApart first d (firstSeen rest) := by
    rw [spaceBetween_of_isLoose hspace, isApart_of_not_mem hfirst, hjoined, Bool.or_false, hy.shuts_eq]
  cases hx with
  | ident _ hlast =>
    exact hloose rfl (not_mem_of_isWordChar hlast (by decide))
      (isJoined_of_not_mem (not_mem_of_isWordChar hlast (by decide)) _)
  | literal _ hlast =>
    exact hloose rfl (not_mem_of_isWordChar hlast (by decide))
      (isJoined_of_not_mem (not_mem_of_isWordChar hlast (by decide)) _)
  | lifetime hlast =>
    exact hloose rfl (not_mem_of_isWordChar hlast (by decide))
      (isJoined_of_not_mem (not_mem_of_isWordChar hlast (by decide)) _)
  | @punct _ joint hc =>
    rw [isWellGlued, Bool.and_eq_true, beq_iff_eq, isJoinedTo_eq hy hruns hxs hrest] at hglued
    have hmarks : plainMarks.all (fun c => !"\x7b(['#".toList.contains c) = true := by decide
    have hplain : c ∉ "\x7b(['#".toList := by simpa using List.all_eq_true.mp hmarks _ hc
    cases joint with
    | false => exact hloose rfl hplain hglued.1.symm
    | true =>
      rw [spaceBetween_of_not_isLoose rfl (by simp) hy, isApart_of_not_mem hplain, ← hglued.1]
      simp
  | opening e =>
    cases e with
    | brace => rfl
    | paren =>
      rw [spaceBetween_of_not_isLoose rfl (by simp) hy]
      simp [isApart, Delimiter.opening]
    | bracket =>
      rw [spaceBetween_of_not_isLoose rfl (by simp) hy]
      simp [isApart, Delimiter.opening]
  | closing e => exact hloose rfl (by cases e <;> decide) (isJoined_of_not_mem (by cases e <;> decide) _)

/-- The text of regular tokens has the spaces of token text. -/
theorem spaced_chars (hxs : ∀ x ∈ xs, x.isRegular = true) (hglued : isWellGlued xs = true) : Spaced (chars xs) := by
  fun_induction chars xs with
  | case1 => exact .nil
  | case2 x =>
    obtain ⟨first, last, hends, -, front, htext, hchain⟩ := Lexeme.exists_ends (hxs x List.mem_cons_self)
    rw [htext]
    exact Spaced.append hchain (.one hends.last_ne)
  | case3 x y rest ih =>
    obtain ⟨hx, hrest⟩ := List.forall_mem_cons.mp hxs
    obtain ⟨first, last, hends, -, front, htext, hchain⟩ := Lexeme.exists_ends hx
    obtain ⟨first', last', hends', hruns'⟩ := Lexeme.exists_ends (hrest y List.mem_cons_self)
    have hglued' : isWellGlued (y :: rest) = true := by
      unfold isWellGlued at hglued
      split at hglued <;> simp_all
    have hspaced := ih hrest hglued'
    obtain ⟨tail, htail⟩ : ∃ tail, chars (y :: rest) = first' :: tail := by
      obtain ⟨more, hmore⟩ := List.head?_eq_some_iff.mp hruns'.1
      cases rest with
      | nil => exact ⟨more, hmore⟩
      | cons z rest => exact ⟨_, by rw [chars, hmore, List.cons_append, List.cons_append]⟩
    rw [htail] at hspaced ⊢
    have hgap := spaceBetween_eq hends hends' hruns' (List.forall_mem_cons.mp hrest).2 hglued htail
    have hstep := Spaced.append hchain (.next hends.last_ne (.inr hgap) hspaced)
    rw [htext]
    simpa using hstep

theorem Lexeme.Ends.isWhiteSpace_last (h : x.Ends first last) : isWhiteSpace last = false := by
  have hword (hlast : isWordChar last = true) : isWhiteSpace last = false := by
    by_contra hwhite
    exact absurd hlast (by simp [not_isWordChar_of_isWhiteSpace (Bool.eq_true_of_not_eq_false hwhite)])
  cases h with
  | ident _ hlast => exact hword hlast
  | literal _ hlast => exact hword hlast
  | lifetime hlast => exact hword hlast
  | punct hc =>
    have hall : plainMarks.all (fun c => !isWhiteSpace c) = true := by decide
    simpa using List.all_eq_true.mp hall _ hc
  | opening d => cases d <;> decide
  | closing d => cases d <;> decide

/-- The text of regular tokens ends with no white space. -/
theorem trimEnd_chars (hxs : ∀ x ∈ xs, x.isRegular = true) : trimEnd (chars xs) = chars xs := by
  have hlast {x : Lexeme} (hx : x.isRegular = true) : trimEnd x.text.toList = x.text.toList ∧ x.text.toList ≠ [] := by
    obtain ⟨first, last, hends, -, front, htext, -⟩ := Lexeme.exists_ends hx
    rw [htext]
    exact ⟨List.rdropWhile_concat_neg _ _ _ (by simp [hends.isWhiteSpace_last]), by simp⟩
  fun_induction chars xs with
  | case1 => rfl
  | case2 x => exact (hlast (hxs x List.mem_cons_self)).1
  | case3 x y rest ih =>
    have hrest := (List.forall_mem_cons.mp hxs).2
    have hne : chars (y :: rest) ≠ [] := by
      cases rest with
      | nil => exact (hlast (hrest y List.mem_cons_self)).2
      | cons z rest => simp [chars, (hlast (hrest y List.mem_cons_self)).2]
    rw [trimEnd_append_of_ne_nil (by rwa [ih hrest]), ih hrest]

/-- What is seen of the text of regular tokens tells the text. -/
theorem spread_visible_chars (hxs : ∀ x ∈ xs, x.isRegular = true) (hglued : isWellGlued xs = true) :
    spread (visible (trimEnd (chars xs))) = chars xs := by
  rw [trimEnd_chars hxs, visible]
  exact (spaced_chars hxs hglued).spread_eq none false

end

end Syntax

/-! ### Types -/

namespace TypeExpr

open Text Syntax

/-- The type is written with regular tokens, which are glued together as they are in types. -/
def HasRegularTokens (t : TypeExpr) : Prop :=
  (∀ x ∈ t.tree.lexemes, x.isRegular = true) ∧ isWellGlued t.tree.lexemes = true

instance (t : TypeExpr) : Decidable t.HasRegularTokens :=
  inferInstanceAs (Decidable ((∀ x ∈ t.tree.lexemes, x.isRegular = true) ∧ isWellGlued t.tree.lexemes = true))

theorem toList_text (t : TypeExpr) : t.text.toList = chars t.tree.lexemes := by
  rw [text, spacedText, toList_join_spacedPieces, lexemes, lexemes, List.append_nil]

/-- **Types are the same when the same characters are seen of them, and regular types only when they are written
alike.** -/
theorem same_iff (s t : TypeExpr) :
    ((s == t) = true ↔ visible (trimEnd s.text.toList) = visible (trimEnd t.text.toList)) ∧
    (s.HasRegularTokens → t.HasRegularTokens → ((s == t) = true ↔ s.text = t.text)) := by
  have hsame : (s == t) = true ↔ visible (trimEnd s.text.toList) = visible (trimEnd t.text.toList) := by
    rw [beq_iff, display, display, compact_eq_iff]
  refine ⟨hsame, fun hs ht => ?_⟩
  rw [hsame]
  constructor
  · intro h
    have hspread := congrArg spread h
    rw [toList_text, toList_text, spread_visible_chars hs.1 hs.2, spread_visible_chars ht.1 ht.2] at hspread
    rw [← String.toList_inj, toList_text, toList_text, hspread]
  · intro h
    rw [h]

/-- How a type over a bound and an array is spaced makes no difference, and a sign in the bound does. -/
theorem same_iff_shelf : ∃ s ∈ ofText? "Shelf<dyn 'a + Fn(&str) -> u8, [u8; 4]>",
    ∃ t ∈ ofText? "Shelf < dyn 'a+Fn(& str)->u8,[ u8;4 ] >", ∃ u ∈ ofText? "Shelf<dyn 'a + Fn(str) -> u8, [u8; 4]>",
    s.HasRegularTokens ∧ t.HasRegularTokens ∧ u.HasRegularTokens ∧ (s == t) = true ∧ (s == u) = false := by
  have hread (a : String) (h : (ofText? a).any (fun t => decide t.HasRegularTokens) = true) :
      ∃ t ∈ ofText? a, t.HasRegularTokens := by
    cases ha : ofText? a with
    | none => simp [ha] at h
    | some t => exact ⟨t, rfl, by simpa [ha] using h⟩
  obtain ⟨s, hs, hsregular⟩ := hread "Shelf<dyn 'a + Fn(&str) -> u8, [u8; 4]>" (by decide +kernel)
  obtain ⟨t, ht, htregular⟩ := hread "Shelf < dyn 'a+Fn(& str)->u8,[ u8;4 ] >" (by decide +kernel)
  obtain ⟨u, hu, huregular⟩ := hread "Shelf<dyn 'a + Fn(str) -> u8, [u8; 4]>" (by decide +kernel)
  have hst : some s.text = some t.text := by
    rw [← Option.map_some, ← hs, ← Option.map_some, ← ht]
    decide +kernel
  have hsu : some s.text ≠ some u.text := by
    rw [← Option.map_some, ← hs, ← Option.map_some, ← hu]
    decide +kernel
  refine ⟨s, hs, t, ht, u, hu, hsregular, htregular, huregular, ?_, Bool.eq_false_of_not_eq_true fun h => hsu ?_⟩
  · exact ((same_iff s t).2 hsregular htregular).mpr (Option.some.inj hst)
  · exact congrArg some (((same_iff s u).2 hsregular huregular).mp h)

/-- In a literal a space can be lost: `A<"- ">` is the same as `A<"-">`. -/
theorem not_same_iff : ¬ ∀ (a b : String) (s t : TypeExpr), ofText? a = some s → ofText? b = some t →
    (s == t) = true → s.text = t.text := by
  intro hall
  obtain ⟨s, hs⟩ := Option.isSome_iff_exists.mp (by decide +kernel : (ofText? "A<\"- \">").isSome = true)
  obtain ⟨t, ht⟩ := Option.isSome_iff_exists.mp (by decide +kernel : (ofText? "A<\"-\">").isSome = true)
  have hsame : some s.display = some t.display := by
    rw [← Option.map_some, ← hs, ← Option.map_some, ← ht]
    decide +kernel
  have hne : some s.text ≠ some t.text := by
    rw [← Option.map_some, ← hs, ← Option.map_some, ← ht]
    decide +kernel
  exact hne (congrArg some (hall _ _ s t hs ht (beq_iff.mpr (Option.some.inj hsame))))

end TypeExpr

end ServiceContainer
