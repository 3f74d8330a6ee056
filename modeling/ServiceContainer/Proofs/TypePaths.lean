import ServiceContainer.Registration

/-!
# The paths in a type

What a type says depends on where it stands in two ways: by the word `Self`, and by the paths of one segment, which are
looked up in the module around them. Here are the places where a type has either, and what becomes of them when the
type `Self` is replaced in it.

## Main definitions

* `Tree.pieces` — the trees that a tree consists of
* `Tree.hasSelfType`, `Tree.hasSelfPath` — `Self` as a type, and `Self` elsewhere
* `Tree.pathNames` — the paths of one segment

## Main statements

* `Tree.self_mem_lexemes_iff` — there is no third place for the word `Self`
* `Tree.hasSelfType_replaceSelf`, `Tree.hasSelfPath_replaceSelf`, `Tree.mem_pathNames_replaceSelf` — replacing `Self`
* `mem_pieces_of_sharedKey?` — the type argument of `Rc` is a piece of the type
-/

namespace ServiceContainer

open Syntax

namespace Syntax

/-! ### Pieces -/

mutual

/-- The trees that a tree consists of, the tree itself included. The type `Self` is not taken apart. -/
def Tree.pieces : Tree → List Tree
  | .token t => [.token t]
  | .group d inner => .group d inner :: pieces inner
  | .phrase c parts => .phrase c parts :: if (Tree.phrase c parts).isBareSelf then [] else pieces parts

/-- The trees that some trees consist of. -/
def pieces : List Tree → List Tree
  | [] => []
  | t :: ts => t.pieces ++ pieces ts

end

/-- The trees that a tree is put together from. -/
def Tree.parts : Tree → List Tree
  | .token _ => []
  | .group _ inner => inner
  | .phrase _ parts => parts

/-- The tree is the word `Self`. -/
def Tree.isSelfWord : Tree → Bool
  | .token (.ident name) => name == "Self"
  | _ => false

/-- The names of the paths of one segment among trees in a row: segments without `::` before them or after them. The
flag says whether `::` stands before the trees. -/
def lonePaths (after : Bool) : List Tree → List String
  | [] => []
  | .phrase .segment parts :: rest =>
    (if after || atOperator "::" rest then [] else (word? parts).toList) ++ lonePaths false rest
  | .token (.punct ':' true) :: .token (.punct ':' _) :: rest => lonePaths true rest
  | _ :: rest => lonePaths false rest

/-- Some type in the tree is `Self`. -/
def Tree.hasSelfType (t : Tree) : Bool := t.pieces.any Tree.isBareSelf

/-- The word `Self` stands in the tree other than as a type, as in a longer path. -/
def Tree.hasSelfPath (t : Tree) : Bool := t.pieces.any Tree.isSelfWord

/-- The names of the paths of one segment in the tree. -/
def Tree.pathNames (t : Tree) : List String := t.pieces.flatMap fun s => lonePaths false s.parts

/-- The type `Self`. -/
theorem Tree.isBareSelf_iff {t : Tree} :
    t.isBareSelf = true ↔ t = .phrase .typePath [.phrase .segment [.token (.ident "Self")]] := by
  constructor
  · intro h
    unfold Tree.isBareSelf at h
    split at h
    · rw [beq_iff_eq.mp h]
    · cases h
  · rintro rfl
    rfl

theorem Tree.isSelfWord_iff {t : Tree} : t.isSelfWord = true ↔ t = .token (.ident "Self") := by
  constructor
  · intro h
    unfold Tree.isSelfWord at h
    split at h
    · rw [beq_iff_eq.mp h]
    · cases h
  · rintro rfl
    rfl

section

variable {s t u : Tree} {ts : List Tree}

theorem Tree.mem_pieces_self (t : Tree) : t ∈ t.pieces := by
  cases t with
  | token k => exact List.mem_singleton.mpr rfl
  | group d inner => exact List.mem_cons_self
  | phrase c parts => exact List.mem_cons_self

theorem mem_pieces : s ∈ pieces ts ↔ ∃ t ∈ ts, s ∈ t.pieces := by
  induction ts with
  | nil => simp [pieces]
  | cons t ts ih => simp [pieces, ih]

theorem Tree.mem_pieces_group {d : Delimiter} {inner : List Tree} (ht : t ∈ inner) : t ∈ (Tree.group d inner).pieces :=
  List.mem_cons_of_mem _ (mem_pieces.mpr ⟨t, ht, t.mem_pieces_self⟩)

theorem Tree.mem_pieces_phrase {c : Category} {parts : List Tree} (h : (Tree.phrase c parts).isBareSelf = false)
    (ht : t ∈ parts) : t ∈ (Tree.phrase c parts).pieces := by
  rw [Tree.pieces, h]
  exact List.mem_cons_of_mem _ (mem_pieces.mpr ⟨t, ht, t.mem_pieces_self⟩)

end

mutual

/-- A piece of a piece is a piece. -/
theorem Tree.pieces_trans {s u : Tree} (hs : s ∈ u.pieces) : ∀ {t : Tree}, u ∈ t.pieces → s ∈ t.pieces
  | .token k, hu => by
    rw [List.mem_singleton.mp hu] at hs
    exact hs
  | .group d inner, hu => by
    rcases List.mem_cons.mp hu with rfl | hu
    · exact hs
    · exact List.mem_cons_of_mem _ (pieces_trans hs hu)
  | .phrase c parts, hu => by
    rcases List.mem_cons.mp hu with rfl | hu
    · exact hs
    · -- Only a phrase that is taken apart has further pieces.
      split at hu
      · exact nomatch hu
      next hc =>
        rw [Tree.pieces, if_neg hc]
        exact List.mem_cons_of_mem _ (pieces_trans hs hu)

/-- A piece of a piece of some trees is a piece of them. -/
theorem pieces_trans {s u : Tree} (hs : s ∈ u.pieces) : ∀ {ts : List Tree}, u ∈ pieces ts → s ∈ pieces ts
  | [], hu => nomatch hu
  | t :: ts, hu => by
    rcases List.mem_append.mp hu with hu | hu
    · exact List.mem_append_left _ (Tree.pieces_trans hs hu)
    · exact List.mem_append_right _ (pieces_trans hs hu)

end

mutual

/-- The tokens of a piece are tokens of the tree. -/
theorem Tree.lexemes_subset_of_mem_pieces {s : Tree} : ∀ {t : Tree}, s ∈ t.pieces → s.lexemes ⊆ t.lexemes
  | .token k, hs => by
    rw [List.mem_singleton.mp hs]
    exact List.Subset.refl _
  | .group d inner, hs => by
    rcases List.mem_cons.mp hs with rfl | hs
    · exact List.Subset.refl _
    · rw [Tree.lexemes]
      intro x hx
      exact List.mem_cons_of_mem _ (List.mem_append_left _ (lexemes_subset_of_mem_pieces hs hx))
  | .phrase c parts, hs => by
    rcases List.mem_cons.mp hs with rfl | hs
    · exact List.Subset.refl _
    · split at hs
      · exact nomatch hs
      · rw [Tree.lexemes]
        exact lexemes_subset_of_mem_pieces hs

theorem lexemes_subset_of_mem_pieces {s : Tree} : ∀ {ts : List Tree}, s ∈ pieces ts → s.lexemes ⊆ lexemes ts
  | [], hs => nomatch hs
  | t :: ts, hs => by
    intro x hx
    rw [lexemes, List.mem_append]
    rcases List.mem_append.mp hs with hs | hs
    · exact .inl (Tree.lexemes_subset_of_mem_pieces hs hx)
    · exact .inr (lexemes_subset_of_mem_pieces hs hx)

end

section

variable {s t : Tree} (hs : s ∈ t.pieces)

include hs

/-- A type that has a piece with the type `Self` has that type. -/
theorem Tree.hasSelfType_of_mem (h : s.hasSelfType = true) : t.hasSelfType = true := by
  obtain ⟨u, hu, hself⟩ := List.any_eq_true.mp h
  exact List.any_eq_true.mpr ⟨u, Tree.pieces_trans hu hs, hself⟩

theorem Tree.hasSelfPath_of_mem (h : s.hasSelfPath = true) : t.hasSelfPath = true := by
  obtain ⟨u, hu, hself⟩ := List.any_eq_true.mp h
  exact List.any_eq_true.mpr ⟨u, Tree.pieces_trans hu hs, hself⟩

theorem Tree.mem_pathNames_of_mem {name : String} (h : name ∈ s.pathNames) : name ∈ t.pathNames := by
  obtain ⟨u, hu, hname⟩ := List.mem_flatMap.mp h
  exact List.mem_flatMap.mpr ⟨u, Tree.pieces_trans hu hs, hname⟩

end

/-! ### The word `Self` -/

mutual

/-- The word `Self` stands in a tree as a type or in a path. -/
theorem Tree.self_mem_lexemes_iff :
    ∀ t : Tree, .token (.ident "Self") ∈ t.lexemes ↔ t.hasSelfType = true ∨ t.hasSelfPath = true
  | .token k => by
    have hword : (Tree.token k).isSelfWord = true ↔ k = .ident "Self" := Tree.isSelfWord_iff.trans (by simp)
    simp [Tree.lexemes, Tree.hasSelfType, Tree.hasSelfPath, Tree.pieces, Tree.isBareSelf, hword, @eq_comm _ k]
  | .group d inner => by
    rw [Tree.lexemes, List.mem_cons, List.mem_append, self_mem_lexemes_iff inner]
    simp [Tree.hasSelfType, Tree.hasSelfPath, Tree.pieces, Tree.isBareSelf, Tree.isSelfWord]
  | .phrase c parts => by
    rw [Tree.lexemes]
    cases hself : (Tree.phrase c parts).isBareSelf with
    | true =>
      have htree := Tree.isBareSelf_iff.mp hself
      injection htree with hc hparts
      subst hc hparts
      simp [Tree.hasSelfType, Tree.pieces, hself, lexemes, Tree.lexemes]
    | false =>
      rw [self_mem_lexemes_iff parts]
      simp [Tree.hasSelfType, Tree.hasSelfPath, Tree.pieces, hself, Tree.isSelfWord]

theorem self_mem_lexemes_iff : ∀ ts : List Tree, .token (.ident "Self") ∈ lexemes ts ↔
    (pieces ts).any Tree.isBareSelf = true ∨ (pieces ts).any Tree.isSelfWord = true
  | [] => by simp [lexemes, pieces]
  | t :: ts => by
    rw [lexemes, List.mem_append, Tree.self_mem_lexemes_iff t, self_mem_lexemes_iff ts, pieces, List.any_append,
      List.any_append, Bool.or_eq_true, Bool.or_eq_true, Tree.hasSelfType, Tree.hasSelfPath]
    exact or_or_or_comm

end

/-! ### Replacing `Self` -/

/-- The tree is a type. -/
def Tree.IsType (t : Tree) : Prop := ∃ c parts, t = .phrase c parts ∧ c.isType = true

section

variable {s t target : Tree} {ts : List Tree}

theorem Tree.replaceSelf_of_isBareSelf (h : t.isBareSelf = true) : Tree.replaceSelf target t = target := by
  rw [Tree.isBareSelf_iff.mp h]
  rfl

/-- A tree that is not `Self` keeps its form, and its parts are those with `Self` replaced. -/
theorem Tree.parts_replaceSelf (h : t.isBareSelf = false) :
    (Tree.replaceSelf target t).parts = replaceSelfIn target t.parts := by
  cases t with
  | token k => rfl
  | group d inner => rfl
  | phrase c parts => rw [Tree.replaceSelf, h, if_neg Bool.false_ne_true, Tree.parts, Tree.parts]

end

mutual

/-- The pieces of a type with `Self` replaced are those of the replacement, and pieces of the type with `Self` replaced
in them. -/
theorem Tree.mem_pieces_replaceSelf {s target : Tree} : ∀ {t : Tree}, s ∈ (Tree.replaceSelf target t).pieces →
    s ∈ target.pieces ∨ ∃ u ∈ t.pieces, u.isBareSelf = false ∧ s = Tree.replaceSelf target u
  | .token k, hs => by
    rw [Tree.replaceSelf] at hs
    exact .inr ⟨.token k, Tree.mem_pieces_self _, rfl, List.mem_singleton.mp hs⟩
  | .group d inner, hs => by
    rw [Tree.replaceSelf] at hs
    rcases List.mem_cons.mp hs with rfl | hs
    · exact .inr ⟨.group d inner, Tree.mem_pieces_self _, rfl, by rw [Tree.replaceSelf]⟩
    · refine (mem_pieces_replaceSelfIn hs).imp_right ?_
      rintro ⟨u, hu, hrest⟩
      exact ⟨u, List.mem_cons_of_mem _ hu, hrest⟩
  | .phrase c parts, hs => by
    cases hself : (Tree.phrase c parts).isBareSelf with
    | true =>
      rw [Tree.replaceSelf_of_isBareSelf hself] at hs
      exact .inl hs
    | false =>
      have hreplaced : Tree.replaceSelf target (Tree.phrase c parts) = .phrase c (replaceSelfIn target parts) := by
        rw [Tree.replaceSelf, hself, if_neg Bool.false_ne_true]
      rw [hreplaced] at hs
      rcases List.mem_cons.mp hs with rfl | hs
      · exact .inr ⟨.phrase c parts, Tree.mem_pieces_self _, hself, hreplaced.symm⟩
      · split at hs
        · exact nomatch hs
        · refine (mem_pieces_replaceSelfIn hs).imp_right ?_
          rintro ⟨u, hu, hrest⟩
          rw [Tree.pieces, hself]
          exact ⟨u, List.mem_cons_of_mem _ hu, hrest⟩

theorem mem_pieces_replaceSelfIn {s target : Tree} : ∀ {ts : List Tree}, s ∈ pieces (replaceSelfIn target ts) →
    s ∈ target.pieces ∨ ∃ u ∈ pieces ts, u.isBareSelf = false ∧ s = Tree.replaceSelf target u
  | [], hs => nomatch hs
  | t :: ts, hs => by
    rw [replaceSelfIn, pieces] at hs
    rcases List.mem_append.mp hs with hs | hs
    · refine (Tree.mem_pieces_replaceSelf hs).imp_right ?_
      rintro ⟨u, hu, hrest⟩
      exact ⟨u, List.mem_append_left _ hu, hrest⟩
    · refine (mem_pieces_replaceSelfIn hs).imp_right ?_
      rintro ⟨u, hu, hrest⟩
      exact ⟨u, List.mem_append_right _ hu, hrest⟩

end

section

variable {s t target : Tree} {ts : List Tree} (htarget : target.IsType)

include htarget

/-- A type in place of `Self` is no word. -/
theorem Tree.eq_of_replaceSelf_eq_token {k : Token} (h : Tree.replaceSelf target t = .token k) : t = .token k := by
  cases hself : t.isBareSelf with
  | true =>
    obtain ⟨c, parts, rfl, -⟩ := htarget
    rw [Tree.replaceSelf_of_isBareSelf hself] at h
    cases h
  | false =>
    cases t with
    | token _ => exact h
    | group d inner => cases h
    | phrase c parts =>
      rw [Tree.replaceSelf, hself, if_neg Bool.false_ne_true] at h
      cases h

/-- A type in place of `Self` is no segment. -/
theorem Tree.exists_of_replaceSelf_eq_segment {parts : List Tree}
    (h : Tree.replaceSelf target t = .phrase .segment parts) :
    ∃ parts', t = .phrase .segment parts' ∧ replaceSelfIn target parts' = parts := by
  cases hself : t.isBareSelf with
  | true =>
    obtain ⟨c, parts, rfl, hc⟩ := htarget
    rw [Tree.replaceSelf_of_isBareSelf hself] at h
    cases h
    cases hc
  | false =>
    cases t with
    | token _ => cases h
    | group d inner => cases h
    | phrase c parts' =>
      rw [Tree.replaceSelf, hself, if_neg Bool.false_ne_true] at h
      cases h
      exact ⟨parts', rfl, rfl⟩

omit htarget in
theorem replaceSelfIn_eq_singleton (h : replaceSelfIn target ts = [s]) :
    ∃ t, ts = [t] ∧ Tree.replaceSelf target t = s := by
  match ts with
  | [] => cases h
  | [t] => exact ⟨t, rfl, List.singleton_inj.mp h⟩
  | _ :: _ :: _ => cases h

/-- Replacing `Self` makes no further type `Self`. -/
theorem Tree.isBareSelf_replaceSelf (h : t.isBareSelf = false) : (Tree.replaceSelf target t).isBareSelf = false := by
  refine Bool.eq_false_iff.mpr fun hself => ?_
  have hreplaced := Tree.isBareSelf_iff.mp hself
  cases t with
  | token k => cases hreplaced
  | group d inner => cases hreplaced
  | phrase c parts =>
    rw [Tree.replaceSelf, h, if_neg Bool.false_ne_true, Tree.phrase.injEq] at hreplaced
    obtain ⟨rfl, hparts⟩ := hreplaced
    -- The only segment comes from a segment, and the word in it from a word.
    obtain ⟨segment, rfl, hsegment⟩ := replaceSelfIn_eq_singleton hparts
    obtain ⟨words, rfl, hwords⟩ := Tree.exists_of_replaceSelf_eq_segment htarget hsegment
    obtain ⟨word, rfl, hword⟩ := replaceSelfIn_eq_singleton hwords
    rw [Tree.eq_of_replaceSelf_eq_token htarget hword] at h
    cases h

/-- A phrase stays a phrase. -/
theorem Tree.exists_replaceSelf_eq_phrase (c : Category) (parts : List Tree) :
    ∃ c' parts', Tree.replaceSelf target (.phrase c parts) = .phrase c' parts' := by
  cases hself : (Tree.phrase c parts).isBareSelf with
  | true =>
    obtain ⟨c', parts', rfl, -⟩ := htarget
    exact ⟨c', parts', Tree.replaceSelf_of_isBareSelf hself⟩
  | false => exact ⟨c, replaceSelfIn target parts, by rw [Tree.replaceSelf, hself, if_neg Bool.false_ne_true]⟩

theorem word?_replaceSelfIn : word? (replaceSelfIn target ts) = word? ts := by
  match ts with
  | [] => rfl
  | .token k :: _ => cases k <;> rfl
  | .group _ _ :: _ => rfl
  | .phrase c parts :: _ =>
    obtain ⟨c', parts', hphrase⟩ := Tree.exists_replaceSelf_eq_phrase htarget c parts
    rw [replaceSelfIn, hphrase]
    rfl

omit htarget in
/-- Only punctuation begins with marks. -/
theorem afterMarks_eq_none {c : Char} {cs : List Char} (h : ∀ m joint, t ≠ .token (.punct m joint)) :
    afterMarks (c :: cs) (t :: ts) = none := by
  unfold afterMarks
  split <;> simp_all

/-- The marks at the front are tokens, which stay as they are. -/
theorem afterMarks_replaceSelfIn (cs : List Char) (ts : List Tree) :
    afterMarks cs (replaceSelfIn target ts) = (afterMarks cs ts).map (replaceSelfIn target) := by
  induction cs generalizing ts with
  | nil => rfl
  | cons c cs ih =>
    cases ts with
    | nil => cases cs <;> rfl
    | cons t rest =>
      rw [replaceSelfIn]
      by_cases hmark : ∃ m joint, t = .token (.punct m joint)
      · obtain ⟨m, joint, rfl⟩ := hmark
        rw [Tree.replaceSelf]
        cases cs with
        | nil =>
          rw [afterMarks, afterMarks]
          split <;> rfl
        | cons c' cs =>
          rw [afterMarks, afterMarks]
          · split
            · exact ih rest
            · rfl
          · exact nofun
          · exact nofun
      · have ht : ∀ m joint, t ≠ .token (.punct m joint) := fun m joint heq => hmark ⟨m, joint, heq⟩
        rw [afterMarks_eq_none ht, afterMarks_eq_none fun m joint heq =>
          ht m joint (Tree.eq_of_replaceSelf_eq_token htarget heq)]
        rfl

theorem atOperator_replaceSelfIn (text : String) : atOperator text (replaceSelfIn target ts) = atOperator text ts := by
  rw [atOperator, atOperator, afterMarks_replaceSelfIn htarget, Option.isSome_map]

omit htarget in
theorem lonePaths_cons_of_other {after : Bool} (hsegment : ∀ parts, t ≠ .phrase .segment parts)
    (hcolons : ∀ joint rest, t :: ts ≠ .token (.punct ':' true) :: .token (.punct ':' joint) :: rest) :
    lonePaths after (t :: ts) = lonePaths false ts := by
  rw [lonePaths]
  · exact hsegment
  · exact fun joint rest ht hts => hcolons joint rest (by rw [ht, hts])

/-- The paths of one segment among trees are not those in the types that stand for `Self` there. -/
theorem lonePaths_replaceSelfIn (after : Bool) : lonePaths after (replaceSelfIn target ts) = lonePaths after ts := by
  fun_induction lonePaths after ts with
  | case1 => rfl
  | case2 after parts rest ih =>
    -- A segment is no type, so it stays one, with the same word.
    have hsegment :
        Tree.replaceSelf target (.phrase .segment parts) = .phrase .segment (replaceSelfIn target parts) := by
      rw [Tree.replaceSelf]
      rfl
    rw [replaceSelfIn, hsegment, lonePaths, atOperator_replaceSelfIn htarget, word?_replaceSelfIn htarget, ih]
  | case3 after joint rest ih =>
    rw [replaceSelfIn, replaceSelfIn, Tree.replaceSelf, Tree.replaceSelf, lonePaths, ih]
  | case4 after t rest hsegment hcolons ih =>
    rw [replaceSelfIn, lonePaths_cons_of_other, ih]
    · intro parts heq
      obtain ⟨parts', rfl, -⟩ := Tree.exists_of_replaceSelf_eq_segment htarget heq
      exact hsegment parts' rfl
    · intro joint rest' heq
      obtain ⟨ht, hrest⟩ := List.cons.inj heq
      cases rest with
      | nil => cases hrest
      | cons t' rest =>
        obtain ⟨ht', -⟩ := List.cons.inj hrest
        rw [Tree.eq_of_replaceSelf_eq_token htarget ht, Tree.eq_of_replaceSelf_eq_token htarget ht'] at hcolons
        exact hcolons joint rest rfl rfl

/-! ### What is replaced -/

/-- A type with `Self` replaced has a type `Self` in it only where the replacement has one. -/
theorem Tree.hasSelfType_replaceSelf (h : (Tree.replaceSelf target t).hasSelfType = true) :
    target.hasSelfType = true := by
  obtain ⟨s, hs, hself⟩ := List.any_eq_true.mp h
  rcases Tree.mem_pieces_replaceSelf hs with hs | ⟨u, -, hu, rfl⟩
  · exact List.any_eq_true.mpr ⟨s, hs, hself⟩
  · rw [Tree.isBareSelf_replaceSelf htarget hu] at hself
    cases hself

/-- A type with `Self` replaced has the word in a path only where the type or the replacement has it. -/
theorem Tree.hasSelfPath_replaceSelf (h : (Tree.replaceSelf target t).hasSelfPath = true) :
    target.hasSelfPath = true ∨ t.hasSelfPath = true := by
  obtain ⟨s, hs, hword⟩ := List.any_eq_true.mp h
  rcases Tree.mem_pieces_replaceSelf hs with hs | ⟨u, hu, -, rfl⟩
  · exact .inl (List.any_eq_true.mpr ⟨s, hs, hword⟩)
  · refine .inr (List.any_eq_true.mpr ⟨u, hu, ?_⟩)
    rw [Tree.eq_of_replaceSelf_eq_token htarget (Tree.isSelfWord_iff.mp hword)]
    rfl

/-- The paths of one segment in a type with `Self` replaced are those of the type and of the replacement. -/
theorem Tree.mem_pathNames_replaceSelf {name : String} (h : name ∈ (Tree.replaceSelf target t).pathNames) :
    name ∈ target.pathNames ∨ name ∈ t.pathNames := by
  obtain ⟨s, hs, hname⟩ := List.mem_flatMap.mp h
  rcases Tree.mem_pieces_replaceSelf hs with hs | ⟨u, hu, hself, rfl⟩
  · exact .inl (List.mem_flatMap.mpr ⟨s, hs, hname⟩)
  · rw [Tree.parts_replaceSelf hself, lonePaths_replaceSelfIn htarget] at hname
    exact .inr (List.mem_flatMap.mpr ⟨u, hu, hname⟩)

end

/-! ### Type arguments -/

theorem Tree.stripParens_mem_pieces (t : Tree) : t.stripParens ∈ t.pieces := by
  fun_induction Tree.stripParens t with
  | case1 t ih =>
    have hgroup : Tree.group .paren [t] ∈ (Tree.phrase .parens [.group .paren [t]]).pieces :=
      Tree.mem_pieces_phrase rfl List.mem_cons_self
    exact Tree.pieces_trans ih (Tree.pieces_trans (Tree.mem_pieces_group List.mem_cons_self) hgroup)
  | case2 t _ => exact t.mem_pieces_self

theorem mem_of_lastSegment? {path parts : List Tree} (h : lastSegment? path = some parts) :
    .phrase .segment parts ∈ path := by
  unfold lastSegment? at h
  split at h
  next hlast =>
    cases h
    exact List.mem_of_getLast? hlast
  next => cases h

theorem mem_pieces_of_boundPath? {b t : Tree} {path : List Tree} (h : boundPath? b = some path) (ht : t ∈ path) :
    t ∈ b.pieces := by
  unfold boundPath? at h
  split at h
  · cases h
    have hgroup : Tree.group .paren path ∈ (Tree.phrase .traitBound [.group .paren path]).pieces :=
      Tree.mem_pieces_phrase rfl List.mem_cons_self
    exact Tree.pieces_trans (Tree.mem_pieces_group ht) hgroup
  · cases h
    exact Tree.mem_pieces_phrase rfl ht
  · cases h

end Syntax

/-- The last segment of a type, if it has arguments, is a piece of the type. -/
theorem TypeExpr.mem_pieces_of_lastSegment? {t : TypeExpr} {name : Tree} {parts : List Tree}
    (h : t.lastSegment? = some [name, .phrase .angle parts]) :
    .phrase .segment [name, .phrase .angle parts] ∈ t.tree.pieces := by
  refine Tree.pieces_trans ?_ t.tree.stripParens_mem_pieces
  unfold TypeExpr.lastSegment? at h
  split at h
  next path hpath =>
    rw [hpath]
    refine Tree.mem_pieces_phrase ?_ (mem_of_lastSegment? h)
    -- The segment of the type `Self` has no arguments.
    refine Bool.eq_false_iff.mpr fun hself => ?_
    injection Tree.isBareSelf_iff.mp hself with _ hparts
    rw [hparts] at h
    cases h
  next bounds hbounds =>
    rw [hbounds]
    obtain ⟨path, hpath, hlast⟩ := Option.bind_eq_some_iff.mp h
    obtain ⟨b, hb, hbound⟩ := List.exists_of_findSome?_eq_some hpath
    exact Tree.pieces_trans (mem_pieces_of_boundPath? hbound (mem_of_lastSegment? hlast))
      (Tree.mem_pieces_phrase rfl hb)
  next => cases h

theorem TypeExpr.mem_pieces_of_typeArguments {t key : TypeExpr} (h : key ∈ t.typeArguments) :
    key.tree ∈ t.tree.pieces := by
  unfold TypeExpr.typeArguments at h
  split at h
  next name parts hsegment =>
    obtain ⟨part, hpart, hkey⟩ := List.mem_filterMap.mp h
    have hangle : part ∈ (Tree.phrase .angle parts).pieces := Tree.mem_pieces_phrase rfl hpart
    have hargument : part ∈ (Tree.phrase .segment [name, .phrase .angle parts]).pieces :=
      Tree.pieces_trans hangle (Tree.mem_pieces_phrase rfl (List.mem_cons_of_mem _ List.mem_cons_self))
    split at hkey
    · split at hkey
      · cases hkey
        exact Tree.pieces_trans hargument (TypeExpr.mem_pieces_of_lastSegment? hsegment)
      · cases hkey
    · cases hkey
  next => cases h

/-- The key of a shared argument is a piece of the type of the parameter. -/
theorem mem_pieces_of_sharedKey? {t key : TypeExpr} (h : sharedKey? t = some key) : key.tree ∈ t.tree.pieces := by
  unfold sharedKey? at h
  split at h
  · split at h
    next harguments =>
      cases h
      exact TypeExpr.mem_pieces_of_typeArguments (by rw [harguments]; exact List.mem_cons_self)
    next => cases h
  · cases h

end ServiceContainer
