import ServiceContainer.Proofs.Refinement

/-!
# The words of what is read

A parser hands on the words that it finds: if those of the trees are words of the language, so are those of what it
reads. What a parser does may depend on values that were read before, and these have words too. That all of them are
words is carried along as a proposition, since instances are not searched among what a continuation binds. Then that a
parser hands on words follows from its shape, and is left to the search for instances.

## Main definitions

* `HasWords`, `Lexical` — the words in a value, and values in which they are words of the language
* `Lexical.From` — a value is lexical if what is known holds
* `Parser.Keeps` — what a parser reads of lexical trees is lexical if what is known holds

## Main statements

* `Parser.Keeps.bind` — parsers one after the other
* `Parser.Keeps.of_onAll` — what is read of all of some trees
-/

namespace ServiceContainer.Syntax

/-! ### Words -/

/-- The word that a token is. -/
def Lexeme.word? : Lexeme → Option String
  | .token (.ident text) => some text
  | _ => none

/-- Values with words in them. -/
class HasWords (α : Type) where
  words : α → List String

export HasWords (words)

/-- Every word in the value is one word of the language. -/
def Lexical {α : Type} [HasWords α] (x : α) : Prop := ∀ text ∈ words x, name? text.toList = some (text, [])

/-- The value is lexical if what is known holds. -/
class Lexical.From {α : Type} [HasWords α] (known : Prop) (x : α) : Prop where
  lexical : known → Lexical x

instance : HasWords Tree := ⟨fun t => t.lexemes.filterMap Lexeme.word?⟩

instance : HasWords String := ⟨fun text => [text]⟩

instance : HasWords Bool := ⟨fun _ => []⟩

instance : HasWords PUnit := ⟨fun _ => []⟩

section

variable {α β γ : Type} [HasWords α] [HasWords β] [HasWords γ]

instance : HasWords (List α) := ⟨fun xs => xs.flatMap words⟩

instance : HasWords (Option α) := ⟨fun o => o.elim [] words⟩

instance : HasWords (α × β) := ⟨fun x => words x.1 ++ words x.2⟩

/-- Where there are no words nothing is to show. -/
theorem lexical_of_words_eq_nil {x : α} (h : words x = []) : Lexical x := by
  rw [Lexical, h]
  exact List.forall_mem_nil _

theorem lexical_nil : Lexical ([] : List α) := lexical_of_words_eq_nil rfl

theorem lexical_cons {x : α} {xs : List α} : Lexical (x :: xs) ↔ Lexical x ∧ Lexical xs := by
  simp only [Lexical, words, List.flatMap_cons, List.forall_mem_append]

theorem lexical_append {xs ys : List α} : Lexical (xs ++ ys) ↔ Lexical xs ∧ Lexical ys := by
  simp only [Lexical, words, List.flatMap_append, List.forall_mem_append]

theorem lexical_iff_forall_mem {xs : List α} : Lexical xs ↔ ∀ x ∈ xs, Lexical x := by
  simp only [Lexical, words, List.mem_flatMap]
  exact ⟨fun h x hx text htext => h text ⟨x, hx, htext⟩, fun h text ⟨x, hx, htext⟩ => h x hx text htext⟩

theorem Lexical.intersperse {sep : α} {xs : List α} (hxs : Lexical xs) (hsep : Lexical sep) :
    Lexical (xs.intersperse sep) := by
  fun_induction List.intersperse sep xs with
  | case1 => exact lexical_nil
  | case2 => exact hxs
  | case3 x xs _ ih =>
    obtain ⟨hx, hrest⟩ := lexical_cons.mp hxs
    exact lexical_cons.mpr ⟨hx, lexical_cons.mpr ⟨hsep, ih hrest⟩⟩

theorem lexical_mk {x : α} {y : β} : Lexical (x, y) ↔ Lexical x ∧ Lexical y := List.forall_mem_append

theorem Lexical.of_subset {xs ys : List α} (h : Lexical ys) (hsub : xs ⊆ ys) : Lexical xs :=
  lexical_iff_forall_mem.mpr fun x hx => lexical_iff_forall_mem.mp h x (hsub hx)

end

theorem mem_words_tree {text : String} {t : Tree} : text ∈ words t ↔ .token (.ident text) ∈ t.lexemes := by
  refine List.mem_filterMap.trans ⟨?_, fun h => ⟨_, h, rfl⟩⟩
  rintro ⟨x, hx, hword⟩
  unfold Lexeme.word? at hword
  split at hword
  · cases hword
    exact hx
  · cases hword

theorem words_trees (xs : List Tree) : words xs = (lexemes xs).filterMap Lexeme.word? := by
  induction xs with
  | nil => rfl
  | cons t ts ih =>
    rw [lexemes, List.filterMap_append, ← ih]
    rfl

theorem lexical_group {d : Delimiter} {inner : List Tree} : Lexical (Tree.group d inner) ↔ Lexical inner := by
  have hwords : words (Tree.group d inner) = words inner := by
    rw [words_trees]
    change List.filterMap _ (lexemes inner ++ [.closing d]) = _
    rw [List.filterMap_append]
    exact List.append_nil _
  rw [Lexical, hwords, Lexical]

theorem lexical_phrase {c : Category} {parts : List Tree} : Lexical (Tree.phrase c parts) ↔ Lexical parts := by
  have hwords : words (Tree.phrase c parts) = words parts := by rw [words_trees]; rfl
  rw [Lexical, hwords, Lexical]

/-- Other tokens have no words. -/
theorem lexical_token {t : Token} (h : ∀ text, t ≠ .ident text) : Lexical (Tree.token t) := by
  cases t with
  | ident text => exact absurd rfl (h text)
  | lifetime | punct | literal => exact lexical_of_words_eq_nil rfl

theorem lexical_marks (cs : List Char) : Lexical (marks cs) := by
  induction cs with
  | nil => exact lexical_nil
  | cons c cs ih => exact lexical_cons.mpr ⟨lexical_token nofun, ih⟩

theorem lexical_operator (text : String) : Lexical (operator text) := lexical_marks _

/-! ### Values that are made of others -/

namespace Lexical

variable {α β γ : Type} [HasWords α] [HasWords β] [HasWords γ] {known more : Prop}

theorem From.mono {x : α} (h : From known x) (hmore : more → known) : From more x :=
  ⟨fun hknown => h.lexical (hmore hknown)⟩

/-! The shape of a value comes before what is known. -/

instance (priority := low) {x : α} [h : From known x] : From (known ∧ more) x := h.mono And.left

instance {x : α} : From (Lexical x) x := ⟨id⟩

instance {x : α} : From (known ∧ Lexical x) x := ⟨And.right⟩

instance {b : Bool} : From known b := ⟨fun _ => lexical_of_words_eq_nil rfl⟩

instance {x : α × β} [h : From known x] : From known x.1 := ⟨fun hknown => (lexical_mk.mp (h.lexical hknown)).1⟩

instance {x : α × β} [h : From known x] : From known x.2 := ⟨fun hknown => (lexical_mk.mp (h.lexical hknown)).2⟩

instance {x : α} {y : β} [hx : From known x] [hy : From known y] : From known (x, y) :=
  ⟨fun hknown => lexical_mk.mpr ⟨hx.lexical hknown, hy.lexical hknown⟩⟩

instance : From known (none : Option α) := ⟨fun _ => lexical_of_words_eq_nil rfl⟩

instance {x : α} [h : From known x] : From known (some x) := ⟨h.lexical⟩

instance {x : α} [h : From known x] : From known (pure x : Option α) := ⟨h.lexical⟩

instance {o : Option α} {f : α → β} [ho : From known o] [hf : ∀ x, From (known ∧ Lexical x) (f x)] :
    From known (o.map f) := by
  refine ⟨fun hknown => ?_⟩
  cases o with
  | none => exact lexical_of_words_eq_nil rfl
  | some x => exact (hf x).lexical ⟨hknown, ho.lexical hknown⟩

instance {o : Option α} {f : α → Option β} [ho : From known o] [hf : ∀ x, From (known ∧ Lexical x) (f x)] :
    From known (o >>= f) := by
  refine ⟨fun hknown => ?_⟩
  cases o with
  | none => exact lexical_of_words_eq_nil rfl
  | some x => exact (hf x).lexical ⟨hknown, ho.lexical hknown⟩

instance {o : Option α} {x : α} [ho : From known o] [hx : From known x] : From known (o.getD x) := by
  cases o with
  | none => exact hx
  | some y => exact ⟨ho.lexical⟩

instance {c : Prop} [Decidable c] {x y : α} [hx : From known x] [hy : From known y] :
    From known (if c then x else y) := by
  split
  · exact hx
  · exact hy

section lists

variable {xs ys : List α}

instance : From known ([] : List α) := ⟨fun _ => lexical_nil⟩

instance {x : α} [hx : From known x] [hxs : From known xs] : From known (x :: xs) :=
  ⟨fun hknown => lexical_cons.mpr ⟨hx.lexical hknown, hxs.lexical hknown⟩⟩

instance [hxs : From known xs] [hys : From known ys] : From known (xs ++ ys) :=
  ⟨fun hknown => lexical_append.mpr ⟨hxs.lexical hknown, hys.lexical hknown⟩⟩

theorem From.of_subset [h : From known ys] (hsub : xs ⊆ ys) : From known xs :=
  ⟨fun hknown => (h.lexical hknown).of_subset hsub⟩

instance {n : Nat} [From known xs] : From known (xs.take n) := .of_subset (List.take_subset n xs)

instance {p : α → Bool} [From known xs] : From known (xs.filter p) := .of_subset (List.filter_subset_self xs)

instance {f : α → β} [h : From known xs] [hf : ∀ x, From (known ∧ Lexical x) (f x)] : From known (xs.map f) := by
  refine ⟨fun hknown => lexical_iff_forall_mem.mpr fun y hy => ?_⟩
  obtain ⟨x, hx, rfl⟩ := List.mem_map.mp hy
  exact (hf x).lexical ⟨hknown, lexical_iff_forall_mem.mp (h.lexical hknown) x hx⟩

instance {xss : List (List α)} [h : From known xss] : From known xss.flatten := by
  refine ⟨fun hknown => lexical_iff_forall_mem.mpr fun x hx => ?_⟩
  obtain ⟨xs, hxs, hx⟩ := List.mem_flatten.mp hx
  exact lexical_iff_forall_mem.mp (lexical_iff_forall_mem.mp (h.lexical hknown) xs hxs) x hx

instance {f : α → List β} [From known xs] [∀ x, From (known ∧ Lexical x) (f x)] : From known (xs.flatMap f) := by
  rw [List.flatMap_def]
  infer_instance

instance {sep : α} [hsep : From known sep] [hxs : From known xs] : From known (xs.intersperse sep) :=
  ⟨fun hknown => (hxs.lexical hknown).intersperse (hsep.lexical hknown)⟩

instance {o : Option α} [h : From known o] : From known o.toList := by
  cases o with
  | none => exact ⟨fun _ => lexical_nil⟩
  | some x => exact ⟨fun hknown => lexical_cons.mpr ⟨h.lexical hknown, lexical_nil⟩⟩

end lists

instance {d : Delimiter} {inner : List Tree} [h : From known inner] : From known (Tree.group d inner) :=
  ⟨fun hknown => lexical_group.mpr (h.lexical hknown)⟩

instance {c : Category} {parts : List Tree} [h : From known parts] : From known (Tree.phrase c parts) :=
  ⟨fun hknown => lexical_phrase.mpr (h.lexical hknown)⟩

instance {text : String} [h : From known text] : From known (Tree.ident text) := ⟨h.lexical⟩

instance {text : String} : From known (Tree.literal text) := ⟨fun _ => lexical_token nofun⟩

instance {text : String} : From known (operator text) := ⟨fun _ => lexical_operator text⟩

instance {xs : List (List Tree × List Tree)} [From known xs] : From known (Parser.flatten xs) := by
  unfold Parser.flatten
  infer_instance

end Lexical

/-! ### Parsers -/

namespace Parser

open Lexical (From)

variable {α β γ : Type} [HasWords α] [HasWords β] [HasWords γ] {known more : Prop} {p q : Parser α}
  {trees rest : List Tree}

/-- What the parser reads of these trees is lexical, and so is what it leaves. -/
def KeepsAt (trees : List Tree) (p : Parser α) : Prop := ∀ x rest, p trees = some (x, rest) → Lexical x ∧ Lexical rest

/-- What the parser reads of lexical trees is lexical, and so is what it leaves, if what is known holds. -/
class Keeps (known : Prop) (p : Parser α) : Prop where
  keeps : known → ∀ trees, Lexical trees → KeepsAt trees p

theorem Keeps.mono (h : Keeps known p) (hmore : more → known) : Keeps more p := ⟨fun hknown => h.keeps (hmore hknown)⟩

theorem Keeps.bind {f : α → Parser β} (hp : Keeps known p) (hf : ∀ x, Keeps (known ∧ Lexical x) (f x)) :
    Keeps known (p >>= f) := by
  refine ⟨fun hknown trees htrees y rest h => ?_⟩
  obtain ⟨x, middle, hx, hy⟩ := bind_eq_some.mp h
  obtain ⟨hlexical, hmiddle⟩ := hp.keeps hknown trees htrees x middle hx
  exact (hf x).keeps ⟨hknown, hlexical⟩ middle hmiddle y rest hy

/-- Where a parser may answer with nothing both answers are followed. -/
theorem Keeps.bindOption {p : Parser (Option α)} {f : Option α → Parser β} (hp : Keeps known p)
    (hsome : ∀ x, Keeps (known ∧ Lexical x) (f (some x))) (hnone : Keeps known (f none)) : Keeps known (p >>= f) := by
  refine hp.bind fun o => ?_
  cases o with
  | none => exact hnone.mono And.left
  | some x => exact hsome x

theorem Keeps.ite {c : Prop} [Decidable c] (hp : Keeps known p) (hq : Keeps known q) :
    Keeps known (if c then p else q) := by
  split
  · exact hp
  · exact hq

/-- What follows two ways to read is looked at once. -/
theorem Keeps.choose {c : Prop} [Decidable c] {f : α → Parser β} (hp : Keeps known p) (hq : Keeps known q)
    (hf : ∀ x, Keeps (known ∧ Lexical x) (f x)) : Keeps known (if c then p >>= f else q >>= f) :=
  (hp.bind hf).ite (hq.bind hf)

/-- More is known than what was read. -/
theorem Keeps.learn {x : β} (hx : known → Lexical x) (h : Keeps (known ∧ Lexical x) p) : Keeps known p :=
  h.mono fun hknown => ⟨hknown, hx hknown⟩

/-- Parsers that begin with a look at the trees. -/
theorem Keeps.of_get {f : List Tree → Parser β} (h : known → ∀ trees, Lexical trees → KeepsAt trees (f trees)) :
    Keeps known (MonadState.get >>= f) := ⟨h⟩

theorem Keeps.of_onAll {x : α} [hp : Keeps True p] (htrees : Lexical trees) (h : onAll p trees = some x) :
    Lexical x := by
  obtain ⟨⟨y, rest⟩, hread, hend⟩ := Option.bind_eq_some_iff.mp h
  rw [Option.ite_none_right_eq_some, Option.some.injEq] at hend
  exact hend.2 ▸ (hp.keeps trivial trees htrees y rest hread).1

instance {x : α} [hx : From known x] : Keeps known (pure x) := by
  refine ⟨fun hknown trees htrees y rest h => ?_⟩
  obtain ⟨rfl, rfl⟩ := pure_eq_some.mp h
  exact ⟨hx.lexical hknown, htrees⟩

instance : Keeps known (failure : Parser α) := ⟨fun _ _ _ _ _ h => (Option.some_ne_none _ h.symm).elim⟩

instance : Keeps known (MonadState.get : Parser (List Tree)) := by
  refine ⟨fun _ trees htrees y rest h => ?_⟩
  obtain ⟨rfl, rfl⟩ := get_eq_some.mp h
  exact ⟨htrees, htrees⟩

instance [h : From known rest] : Keeps known (set rest : Parser PUnit) := by
  refine ⟨fun hknown trees htrees u front hread => ?_⟩
  obtain ⟨rfl, rfl⟩ := Prod.mk.inj (Option.some.inj hread)
  exact ⟨lexical_of_words_eq_nil rfl, h.lexical hknown⟩

instance {o : Option α} [h : From known o] : Keeps known (liftM o : Parser α) := by
  refine ⟨fun hknown trees htrees y rest hread => ?_⟩
  cases o with
  | none => exact (Option.some_ne_none _ hread.symm).elim
  | some x =>
    obtain ⟨rfl, rfl⟩ := Prod.mk.inj (Option.some.inj hread)
    exact ⟨h.lexical hknown, htrees⟩

instance {f : α → Parser β} [hp : Keeps known p] [hf : ∀ x, Keeps (known ∧ Lexical x) (f x)] : Keeps known (p >>= f) :=
  hp.bind hf

instance {p : Parser (Option α)} {f : Option α → Parser β} [hp : Keeps known p]
    [hsome : ∀ x, Keeps (known ∧ Lexical x) (f (some x))] [hnone : Keeps known (f none)] : Keeps known (p >>= f) :=
  hp.bindOption hsome hnone

instance {c : Prop} [Decidable c] [hp : Keeps known p] [hq : Keeps known q] : Keeps known (if c then p else q) :=
  hp.ite hq

instance {f : α → Parser β} : Keeps known ((failure : Parser α) >>= f) :=
  ⟨fun _ _ _ _ _ h => (Option.some_ne_none _ h.symm).elim⟩

instance {f : α → β} [hp : Keeps known p] [hf : ∀ x, From (known ∧ Lexical x) (f x)] : Keeps known (f <$> p) := by
  rw [map_eq_pure_bind]
  infer_instance

section both

variable {p q : Parser (List Tree)} {ps : List (Parser (List Tree))}

instance [hp : Keeps known p] [hq : Keeps known q] : Keeps known (both p q) :=
  hp.bind fun _ => (hq.mono And.left).bind fun _ => inferInstance

instance : Keeps known nothing := by unfold nothing; infer_instance

instance : Keeps known (inOrder []) := inferInstanceAs (Keeps known nothing)

instance [hp : Keeps known p] [hps : Keeps known (inOrder ps)] : Keeps known (inOrder (p :: ps)) :=
  inferInstanceAs (Keeps known (both p (inOrder ps)))

end both

/-! ### What stands at the front -/

instance : Keeps known one := by
  refine ⟨fun _ trees htrees t rest h => ?_⟩
  rw [one_eq_some h] at htrees
  exact lexical_cons.mp htrees

instance {text : String} : Keeps known (op text) := by
  refine ⟨fun _ trees htrees x rest h => ?_⟩
  obtain ⟨hmarks, rfl⟩ := op_eq_some.mp h
  exact ⟨lexical_operator text, htrees.of_subset (afterMarks_suffix hmarks).subset⟩

instance {text : String} : Keeps known (opIf text) := by unfold opIf; infer_instance

instance {text : String} : Keeps known (word text) := by unfold word; infer_instance

instance {text : String} : Keeps known (wordIf text) := by unfold wordIf; infer_instance

instance : Keeps known anyWord := by unfold anyWord; infer_instance

instance : Keeps known ident := by unfold ident; infer_instance

instance : Keeps known lifetime := by unfold lifetime; infer_instance

instance : Keeps known string := by unfold string; infer_instance

instance : Keeps known atEnd := by unfold atEnd; infer_instance

instance : Keeps known name := by
  refine ⟨fun _ trees htrees text rest h => ?_⟩
  -- The name that was read is the word of the first tree.
  obtain ⟨rfl, -⟩ := name_eq_some.mp h
  exact lexical_cons.mp htrees

instance : Keeps known literal := by
  unfold literal
  refine .bind inferInstance fun trees => .ite (.bind inferInstance fun t => ?_) inferInstance
  split <;> infer_instance

instance {start : List Tree} [From known start] : Keeps known (readSince start) := by unfold readSince; infer_instance

instance [hp : Keeps known p] : Keeps known (asWritten p) :=
  .bind inferInstance fun _ => (hp.mono And.left).bind fun _ => inferInstance

/-! ### Groups -/

instance {d : Delimiter} : Keeps known (groupInner d) := by
  refine ⟨fun _ trees htrees inner rest h => ?_⟩
  rw [groupInner_eq_some.mp h] at htrees
  exact (lexical_cons.mp htrees).imp_left lexical_group.mp

instance : Keeps known anyGroup := by
  unfold anyGroup
  refine .bind inferInstance fun t => ?_
  split <;> infer_instance

instance {d : Delimiter} [hp : Keeps known p] : Keeps known (within d p) := by
  refine ⟨fun hknown trees htrees x rest h => ?_⟩
  obtain ⟨inner, rfl, hx⟩ := within_eq_some.mp h
  obtain ⟨hgroup, hrest⟩ := lexical_cons.mp htrees
  exact ⟨(hp.keeps hknown inner (lexical_group.mp hgroup) x [] hx).1, hrest⟩

instance {d : Delimiter} {p : Parser (List Tree)} [Keeps known p] : Keeps known (inside d p) := by
  unfold inside
  infer_instance

/-! ### Repetition -/

section repetition

variable {sep : String} {stop again : List Tree → Bool} {fuel : Nat} [hp : ∀ known, Keeps known p]

instance : Keeps known (separatedUpTo p sep stop fuel) := by
  induction fuel generalizing known with
  | zero => unfold separatedUpTo; infer_instance
  | succ fuel ih => unfold separatedUpTo; infer_instance

instance : Keeps known (chainedUpTo p sep stop fuel) := by
  induction fuel generalizing known with
  | zero => unfold chainedUpTo; infer_instance
  | succ fuel ih => unfold chainedUpTo; infer_instance

instance : Keeps known (repeatUpTo p again fuel) := by
  induction fuel generalizing known with
  | zero => unfold repeatUpTo; infer_instance
  | succ fuel ih => unfold repeatUpTo; infer_instance

instance : Keeps known (separated p sep stop) := by unfold separated; infer_instance

instance : Keeps known (chained p sep stop) := by unfold chained; infer_instance

instance : Keeps known (repeatWhile p again) := by unfold repeatWhile; infer_instance

instance : Keeps known (untilEnd p) := by unfold untilEnd; infer_instance

instance : Keeps known (commaList p) := by unfold commaList; infer_instance

end repetition

instance {p : Parser (List Tree)} [∀ known, Keeps known p] : Keeps known (commaTrees p) := by
  unfold commaTrees
  infer_instance

end Parser

end ServiceContainer.Syntax
