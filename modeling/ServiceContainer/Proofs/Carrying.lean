import ServiceContainer.Proofs.Refinement

/-!
# Reading up to an ending

What a parser reads from the front of a list need not depend on what follows it. It does not between two lists that are
empty or begin with a comma, if no test of the parser finds one of these where it looks; nor between two lists that begin
with the mark that closes angle brackets. So that a parser carries over follows from its shape, and is left to instance
search.

## Main definitions

* `Ending` — two lists of trees that can follow a type
* `Parser.Carries` — what a parser reads before one list, another reads before the other

## Main statements

* `Carries.bind` — parsers one after the other
* `Carries.loop` — loops that may run as often as there are trees
* `Carries.angle` — arguments in angle brackets
-/

namespace ServiceContainer.Syntax

open ServiceContainer.Syntax.Parser

set_option synthInstance.maxSize 4000

/-! ### Endings -/

/-- Nothing follows, or a comma. -/
def IsEnd (trees : List Tree) : Prop := trees = [] ∨ ∃ joint rest, trees = .token (.punct ',' joint) :: rest

/-- Both lists begin with the same mark that closes arguments in angle brackets. -/
class inductive AngleEnding : List Tree → List Tree → Prop
  | intro (joint : Bool) (a b : List Tree) :
    AngleEnding (.token (.punct '>' joint) :: a) (.token (.punct '>' joint) :: b)

/-- Two lists of trees that can follow a type. -/
class inductive Ending : List Tree → List Tree → Prop
  | comma {a b : List Tree} (ha : IsEnd a) (hb : IsEnd b) : Ending a b
  | angle (joint : Bool) (a b : List Tree) :
    Ending (.token (.punct '>' joint) :: a) (.token (.punct '>' joint) :: b)

instance {a b : List Tree} [h : AngleEnding a b] : Ending a b := by
  cases h with
  | intro joint a b => exact .angle joint a b

/-- An operator without commas in which `>` can only be the last mark. -/
class Inner (text : String) : Prop where
  comma : ',' ∉ text.toList
  angle : '>' ∉ text.toList.dropLast

/-- Two tests have the same outcome. -/
class Same (c d : Bool) : Prop where
  eq : c = d

variable {a b t : List Tree}

instance (priority := low) {c : Bool} : Same c c := ⟨rfl⟩

instance {c c' d d' : Bool} [hc : Same c c'] [hd : Same d d'] : Same (c && d) (c' && d') := ⟨by rw [hc.eq, hd.eq]⟩

instance {c c' d d' : Bool} [hc : Same c c'] [hd : Same d d'] : Same (c || d) (c' || d') := ⟨by rw [hc.eq, hd.eq]⟩

instance {c c' : Bool} [hc : Same c c'] : Same (!c) (!c') := ⟨by rw [hc.eq]⟩

/-- The first tree is the same, unless it is a comma or there is none. -/
theorem eq_of_head {α : Type} (look : List Tree → α) (x : α) (hhead : ∀ u xs ys, look (u :: xs) = look (u :: ys))
    (hend : ∀ trees, IsEnd trees → look trees = x) (a b t : List Tree) [h : Ending a b] :
    look (t ++ a) = look (t ++ b) := by
  cases t with
  | cons u t => exact hhead u _ _
  | nil =>
    cases h with
    | comma ha hb => exact (hend a ha).trans (hend b hb).symm
    | angle joint a b => exact hhead _ a b

/-- In angle brackets the first tree is the same. -/
theorem eq_of_angle {α : Type} {look : List Tree → α} (hhead : ∀ u xs ys, look (u :: xs) = look (u :: ys))
    (a b t : List Tree) [h : AngleEnding a b] : look (t ++ a) = look (t ++ b) := by
  cases h with
  | intro joint a b =>
    cases t with
    | nil => exact hhead _ a b
    | cons u t => exact hhead u _ _

section tests

variable [Ending a b]

theorem word?_append (a b t : List Tree) [Ending a b] : word? (t ++ a) = word? (t ++ b) := by
  refine eq_of_head word? none (fun u xs ys => ?_) (fun trees h => ?_) a b t
  · match u with
    | .token (.ident _) | .token (.lifetime _) | .token (.punct _ _) | .token (.literal _) => rfl
    | .group _ _ | .phrase _ _ => rfl
  · obtain rfl | ⟨joint, rest, rfl⟩ := h <;> rfl

instance {text : String} : Same (atWord text (t ++ a)) (atWord text (t ++ b)) :=
  ⟨by rw [atWord, atWord, word?_append a b]⟩

instance {texts : List String} : Same (atAnyWord texts (t ++ a)) (atAnyWord texts (t ++ b)) :=
  ⟨by rw [atAnyWord, atAnyWord, word?_append a b]⟩

instance : Same (atIdent (t ++ a)) (atIdent (t ++ b)) := ⟨by rw [atIdent, atIdent, word?_append a b]⟩

instance : Same (word? (t ++ a)).isSome (word? (t ++ b)).isSome := ⟨by rw [word?_append a b]⟩

instance : Same (atLifetime (t ++ a)) (atLifetime (t ++ b)) := by
  refine ⟨eq_of_head atLifetime false (fun u xs ys => ?_) (fun trees h => ?_) a b t⟩
  · match u with
    | .token (.ident _) | .token (.lifetime _) | .token (.punct _ _) | .token (.literal _) => rfl
    | .group _ _ | .phrase _ _ => rfl
  · obtain rfl | ⟨joint, rest, rfl⟩ := h <;> rfl

instance : Same (atString (t ++ a)) (atString (t ++ b)) := by
  refine ⟨eq_of_head atString false (fun u xs ys => ?_) (fun trees h => ?_) a b t⟩
  · match u with
    | .token (.ident _) | .token (.lifetime _) | .token (.punct _ _) | .token (.literal _) => rfl
    | .group _ _ | .phrase _ _ => rfl
  · obtain rfl | ⟨joint, rest, rfl⟩ := h <;> rfl

instance {d : Delimiter} : Same (atGroup d (t ++ a)) (atGroup d (t ++ b)) := by
  refine ⟨eq_of_head (atGroup d) false (fun u xs ys => ?_) (fun trees h => ?_) a b t⟩
  · match u with
    | .token _ | .group _ _ | .phrase _ _ => rfl
  · obtain rfl | ⟨joint, rest, rfl⟩ := h <;> rfl

/-- A literal is one tree, or a minus sign and one more. -/
theorem atLiteral_append (a b t : List Tree) [h : Ending a b] : atLiteral (t ++ a) = atLiteral (t ++ b) := by
  cases t with
  | nil =>
    cases h with
    | comma ha hb => obtain ⟨rfl | ⟨_, _, rfl⟩, rfl | ⟨_, _, rfl⟩⟩ := And.intro ha hb <;> rfl
    | angle joint a b => rfl
  | cons u t =>
    match u with
    | .token (.punct m joint) =>
      by_cases hm : m = '-'
      · subst hm
        refine eq_of_head (fun xs => atLiteral (.token (.punct '-' joint) :: xs)) false
          (fun v xs ys => ?_) (fun trees htrees => ?_) a b t
        · match v with
          | .token (.ident _) | .token (.lifetime _) | .token (.punct _ _) | .token (.literal _) => rfl
          | .group _ _ | .phrase _ _ => rfl
        · obtain rfl | ⟨_, _, rfl⟩ := htrees <;> rfl
      · have hnone (xs : List Tree) : atLiteral (.token (.punct m joint) :: xs) = false := by simp [atLiteral, hm]
        rw [List.cons_append, List.cons_append, hnone, hnone]
    | .token (.ident _) | .token (.lifetime _) | .token (.literal _) | .group _ _ | .phrase _ _ => rfl

instance : Same (atLiteral (t ++ a)) (atLiteral (t ++ b)) := ⟨atLiteral_append a b t⟩

/-! Operators -/

theorem afterMarks_of_isEnd {c : Char} {cs : List Char} {trees : List Tree} (hcomma : ',' ∉ c :: cs)
    (h : IsEnd trees) : afterMarks (c :: cs) trees = none := by
  have hc : (',' == c) = false := beq_eq_false_iff_ne.mpr (List.ne_of_not_mem_cons hcomma)
  obtain rfl | ⟨joint, rest, rfl⟩ := h
  · cases cs <;> rfl
  · cases cs <;> simp [afterMarks, hc]

theorem isSome_afterMarks_append {cs : List Char} (hcomma : ',' ∉ cs) (hangle : '>' ∉ cs.dropLast) (a b t : List Tree)
    [h : Ending a b] : (afterMarks cs (t ++ a)).isSome = (afterMarks cs (t ++ b)).isSome := by
  induction cs generalizing t with
  | nil => rfl
  | cons c cs ih =>
    cases t with
    | nil =>
      cases h with
      | comma ha hb =>
        rw [List.nil_append, List.nil_append, afterMarks_of_isEnd hcomma ha, afterMarks_of_isEnd hcomma hb]
      | angle joint a b =>
        cases cs with
        | nil => by_cases hc : ('>' == c) = true <;> simp [afterMarks, hc]
        | cons d cs =>
          have hc : ('>' == c) = false := beq_eq_false_iff_ne.mpr fun hc => hangle (hc ▸ List.mem_cons_self)
          simp [afterMarks, hc]
    | cons u t =>
      by_cases hmark : ∃ m joint, u = .token (.punct m joint)
      · obtain ⟨m, joint, rfl⟩ := hmark
        cases cs with
        | nil => by_cases hc : (m == c) = true <;> simp [afterMarks, hc]
        | cons d cs =>
          have ih := ih (fun hd => hcomma (List.mem_cons_of_mem c hd)) (fun hd => hangle (List.mem_cons_of_mem c hd)) t
          by_cases hc : (m == c && joint) = true <;> simp [afterMarks, hc, ih]
      · have hother : ∀ m joint, u ≠ .token (.punct m joint) := fun m joint heq => hmark ⟨m, joint, heq⟩
        rw [List.cons_append, List.cons_append, afterMarks_eq_none hother, afterMarks_eq_none hother]

instance {text : String} [h : Inner text] : Same (atOperator text (t ++ a)) (atOperator text (t ++ b)) :=
  ⟨isSome_afterMarks_append h.comma h.angle a b t⟩

instance : Same (atAnyOperator [] (t ++ a)) (atAnyOperator [] (t ++ b)) := ⟨rfl⟩

instance {text : String} {texts : List String} [h : Same (atOperator text (t ++ a)) (atOperator text (t ++ b))]
    [hs : Same (atAnyOperator texts (t ++ a)) (atAnyOperator texts (t ++ b))] :
    Same (atAnyOperator (text :: texts) (t ++ a)) (atAnyOperator (text :: texts) (t ++ b)) :=
  inferInstanceAs (Same (atOperator text (t ++ a) || atAnyOperator texts (t ++ a))
    (atOperator text (t ++ b) || atAnyOperator texts (t ++ b)))

instance : Inner "::" := ⟨by decide, by decide⟩
instance : Inner "->" := ⟨by decide, by decide⟩
instance : Inner "<" := ⟨by decide, by decide⟩
instance : Inner "<=" := ⟨by decide, by decide⟩
instance : Inner "<<=" := ⟨by decide, by decide⟩
instance : Inner ">" := ⟨by decide, by decide⟩
instance : Inner "=" := ⟨by decide, by decide⟩
instance : Inner ":" := ⟨by decide, by decide⟩
instance : Inner "+" := ⟨by decide, by decide⟩
instance : Inner "*" := ⟨by decide, by decide⟩
instance : Inner "&" := ⟨by decide, by decide⟩
instance : Inner "!" := ⟨by decide, by decide⟩
instance : Inner "!=" := ⟨by decide, by decide⟩
instance : Inner "?" := ⟨by decide, by decide⟩
instance : Inner "#" := ⟨by decide, by decide⟩

instance : Same (atBound (t ++ a)) (atBound (t ++ b)) := by unfold atBound; infer_instance

end tests

/-! A test of trees further back comes after one that only trees in front of the ending pass. -/

theorem Ending.begins (h : Ending a b) :
    a = [] ∨ ∃ c joint rest, (c = ',' ∨ c = '>') ∧ a = .token (.punct c joint) :: rest := by
  cases h with
  | comma ha hb =>
    obtain rfl | ⟨joint, rest, rfl⟩ := ha
    · exact .inl rfl
    · exact .inr ⟨_, _, _, .inl rfl, rfl⟩
  | angle joint a b => exact .inr ⟨_, _, _, .inr rfl, rfl⟩

theorem Same.ahead (look : List Tree → Bool) {c d : Bool} {n : Nat} [hsame : Same c d] (hlong : c = true → n ≤ t.length)
    (hlook : ∀ t, Same (look (t ++ a)) (look (t ++ b))) :
    Same (c && look ((t ++ a).drop n)) (d && look ((t ++ b).drop n)) := by
  refine ⟨?_⟩
  rw [← hsame.eq]
  cases c with
  | false => rfl
  | true =>
    rw [List.drop_append_of_le_length (hlong rfl), List.drop_append_of_le_length (hlong rfl), (hlook _).eq]

theorem two_le_length_of_colons (h : Ending a b) (hcolons : atOperator "::" (t ++ a) = true) : 2 ≤ t.length := by
  have hnone {m : Char} (hm : m = ',' ∨ m = '>') : (m == ':') = false := by obtain rfl | rfl := hm <;> rfl
  rcases t with _ | ⟨u, _ | ⟨v, t⟩⟩
  · obtain rfl | ⟨c, joint, rest, hc, rfl⟩ := h.begins
    · cases hcolons
    · simp [atOperator, afterMarks, hnone hc] at hcolons
  · by_cases hmark : ∃ m joint, u = .token (.punct m joint)
    · obtain ⟨m, joint, rfl⟩ := hmark
      obtain rfl | ⟨c, joint, rest, hc, rfl⟩ := h.begins
      · simp [atOperator, afterMarks] at hcolons
      · simp [atOperator, afterMarks, hnone hc] at hcolons
    · have hother : ∀ m joint, u ≠ .token (.punct m joint) := fun m joint heq => hmark ⟨m, joint, heq⟩
      simp [atOperator, afterMarks_eq_none hother] at hcolons
  · simp

theorem length_pos_of_word? {text : String} (h : Ending a b) (hword : word? (t ++ a) = some text) : 1 ≤ t.length := by
  cases t with
  | cons u t => exact Nat.succ_pos _
  | nil => obtain rfl | ⟨c, joint, rest, -, rfl⟩ := h.begins <;> exact nomatch hword

theorem length_pos_of_atLifetime (h : Ending a b) (hlife : atLifetime (t ++ a) = true) : 1 ≤ t.length := by
  cases t with
  | cons u t => exact Nat.succ_pos _
  | nil => obtain rfl | ⟨c, joint, rest, -, rfl⟩ := h.begins <;> exact nomatch hlife

/-! ### Carrying over -/

namespace Parser

variable {α β γ : Type} {k : Nat} {a b t trees rest : List Tree} {p p' q q' : Parser α} {f f' : α → Parser β}

/-- What the parser leaves is the end of what it was given. -/
class Suffixed (p : Parser α) : Prop where
  suffix : ∀ trees x rest, p trees = some (x, rest) → rest <:+ trees

theorem Suffixed.of_refines (h : ∀ s, Refines s p p) : Suffixed p :=
  ⟨fun trees x rest hread => ((h (4 * size trees + 4)).reads trees le_rfl x rest hread).1⟩

instance [h : ∀ s, Refines s p p] : Suffixed p := .of_refines h

/-- The parser leaves fewer trees than it was given. -/
class Shortens (p : Parser α) : Prop where
  length_lt : ∀ trees x rest, p trees = some (x, rest) → rest.length < trees.length

/-- What `p` reads before `a`, of fewer than `k` trees, `q` reads before `b`. -/
class Carries (k : Nat) (a b : List Tree) (p q : Parser α) : Prop where
  reads : ∀ front x rest, front.length < k → p (front ++ a) = some (x, rest ++ a) → q (front ++ b) = some (x, rest ++ b)

theorem Carries.of_le {m : Nat} (h : Carries k a b p q) (hle : m ≤ k) : Carries m a b p q :=
  ⟨fun front x rest hfront => h.reads front x rest (hfront.trans_le hle)⟩

instance : Carries 0 a b p q := ⟨fun _ _ _ hfront => absurd hfront (Nat.not_lt_zero _)⟩

instance (x : α) : Carries k a b (pure x) (pure x) := by
  refine ⟨fun front y rest _ h => ?_⟩
  obtain ⟨rfl, hrest⟩ := pure_eq_some.mp h
  rw [List.append_cancel_right hrest]
  rfl

instance : Carries k a b (failure : Parser α) q := ⟨fun _ _ _ _ h => nomatch h⟩

instance {q : Parser β} : Carries k a b ((failure : Parser α) >>= f) q := ⟨fun _ _ _ _ h => nomatch h⟩

/-- What is left before `a` in the end was there before `a` in between. -/
theorem exists_append_of_suffix {middle : List Tree} (h : rest ++ a <:+ middle) : ∃ m, middle = m ++ rest ++ a := by
  obtain ⟨m, hm⟩ := h
  exact ⟨m, by rw [← hm, List.append_assoc]⟩

theorem Carries.bind [hp' : Suffixed p] [hf' : ∀ x, Suffixed (f x)] (hp : Carries k a b p q)
    (hf : ∀ x, Carries k a b (f x) (f' x)) : Carries k a b (p >>= f) (q >>= f') := by
  refine ⟨fun front y rest hfront h => ?_⟩
  obtain ⟨x, middle, hx, hy⟩ := bind_eq_some.mp h
  obtain ⟨m, rfl⟩ := exists_append_of_suffix ((hf' x).suffix middle y (rest ++ a) hy)
  have hle := (hp'.suffix _ x _ hx).length_le
  simp only [List.length_append] at hle
  refine bind_eq_some.mpr ⟨x, _, hp.reads front x (m ++ rest) hfront hx, ?_⟩
  exact (hf x).reads (m ++ rest) y rest (by simp only [List.length_append]; omega) hy

/-- A parser that has read a tree goes on with fewer. -/
theorem Carries.bind_of_shortens [hp' : Shortens p] [hf' : ∀ x, Suffixed (f x)] (hp : Carries (k + 1) a b p q)
    (hf : ∀ x, Carries k a b (f x) (f' x)) : Carries (k + 1) a b (p >>= f) (q >>= f') := by
  refine ⟨fun front y rest hfront h => ?_⟩
  obtain ⟨x, middle, hx, hy⟩ := bind_eq_some.mp h
  obtain ⟨m, rfl⟩ := exists_append_of_suffix ((hf' x).suffix middle y (rest ++ a) hy)
  have hlt := hp'.length_lt _ x _ hx
  simp only [List.length_append] at hlt
  refine bind_eq_some.mpr ⟨x, _, hp.reads front x (m ++ rest) hfront hx, ?_⟩
  exact (hf x).reads (m ++ rest) y rest (by simp only [List.length_append]; omega) hy

theorem Carries.get_bind {f f' : List Tree → Parser β} (hf : ∀ t, Carries k a b (f (t ++ a)) (f' (t ++ b))) :
    Carries k a b (get >>= f) (get >>= f') := ⟨fun front => (hf front).reads front⟩

/-- A look at the trees tells how many there are. -/
theorem Carries.get_bind_length {f f' : List Tree → Parser β}
    (hf : ∀ t, Carries (t.length + 1) a b (f (t ++ a)) (f' (t ++ b))) :
    Carries k a b (get >>= f) (get >>= f') :=
  ⟨fun front x rest _ => (hf front).reads front x rest (Nat.lt_succ_self _)⟩

theorem Carries.ite {c c' : Bool} [h : Same c c'] (hp : Carries k a b p p') (hq : Carries k a b q q') :
    Carries k a b (if c = true then p else q) (if c' = true then p' else q') := by
  rw [h.eq]
  split
  · exact hp
  · exact hq

instance [Suffixed p] [∀ x, Suffixed (f x)] [hp : Carries k a b p q] [hf : ∀ x, Carries k a b (f x) (f' x)] :
    Carries k a b (p >>= f) (q >>= f') := hp.bind hf

instance {p q : Parser (Option α)} {f f' : Option α → Parser β} [Suffixed p] [hsome' : ∀ x, Suffixed (f (some x))]
    [hnone' : Suffixed (f none)] [hp : Carries k a b p q] [hsome : ∀ x, Carries k a b (f (some x)) (f' (some x))]
    [hnone : Carries k a b (f none) (f' none)] : Carries k a b (p >>= f) (q >>= f') := by
  have : ∀ o, Suffixed (f o) := fun o => match o with
    | some x => hsome' x
    | none => hnone'
  exact hp.bind fun o => match o with
    | some x => hsome x
    | none => hnone

instance [Shortens p] [∀ x, Suffixed (f x)] [hp : Carries (k + 1) a b p q] [hf : ∀ x, Carries k a b (f x) (f' x)] :
    Carries (k + 1) a b (p >>= f) (q >>= f') := hp.bind_of_shortens hf

instance {f f' : List Tree → Parser β} [hf : ∀ t, Carries (t.length + 1) a b (f (t ++ a)) (f' (t ++ b))] :
    Carries k a b (MonadState.get >>= f) (MonadState.get >>= f') := .get_bind_length hf

instance {f f' : List Tree → Parser β} [hf : ∀ t, Carries k a b (f (t ++ a)) (f' (t ++ b))] :
    Carries k a b (MonadState.get >>= f) (MonadState.get >>= f') := .get_bind hf

/-- The second test may look at what the first has found. -/
instance {c c' d d' : Bool} {r r' : Parser α} [hc : Same c c'] [hd : Same (c && d) (c' && d')] [hp : Carries k a b p p']
    [hq : Carries k a b q q'] [hr : Carries k a b r r'] :
    Carries k a b (if c = true then if d = true then p else q else r)
      (if c' = true then if d' = true then p' else q' else r') := by
  obtain rfl := hc.eq
  cases c with
  | false => exact hr
  | true =>
    obtain rfl : d = d' := hd.eq
    exact hp.ite hq

instance {c c' : Bool} [Same c c'] [hp : Carries k a b p p'] [hq : Carries k a b q q'] :
    Carries k a b (if c = true then p else q) (if c' = true then p' else q') := hp.ite hq

instance {c c' : Bool} [Same c c'] [Suffixed p] [Suffixed q] [∀ x, Suffixed (f x)] [hp : Carries k a b p p']
    [hq : Carries k a b q q'] [hf : ∀ x, Carries k a b (f x) (f' x)] :
    Carries k a b (if c = true then p >>= f else q >>= f) (if c' = true then p' >>= f' else q' >>= f') :=
  (hp.bind hf).ite (hq.bind hf)

section both

variable {p p' q q' : Parser (List Tree)} {ps qs : List (Parser (List Tree))}

instance [hp : Carries k a b (do return (← p) ++ (← p')) (do return (← q) ++ (← q'))] :
    Carries k a b (both p p') (both q q') := hp

instance : Carries k a b nothing nothing := inferInstanceAs (Carries k a b (pure []) (pure []))

instance : Carries k a b (inOrder []) (inOrder []) := inferInstanceAs (Carries k a b (pure []) (pure []))

instance [hp : Carries k a b (both p (inOrder ps)) (both q (inOrder qs))] :
    Carries k a b (inOrder (p :: ps)) (inOrder (q :: qs)) := hp

end both

/-! #### What stands at the front -/

/-- What was read before `a` was read from the trees in front of it. -/
theorem eq_append_of_append_eq {front : List Tree} (read : List Tree) (h : front ++ a = read ++ (rest ++ a)) :
    front = read ++ rest := by
  rw [← List.append_assoc] at h
  exact List.append_cancel_right h

instance : Carries k a b one one := by
  refine ⟨fun front u rest _ h => ?_⟩
  rw [eq_append_of_append_eq [u] (one_eq_some h)]
  rfl

theorem afterMarks_singleton {c : Char} :
    afterMarks [c] trees = some rest ↔ ∃ joint, trees = .token (.punct c joint) :: rest := by
  unfold afterMarks
  split
  next => simp_all
  next m joint more => simp_all
  next => simp_all
  next => simp_all

/-- Marks are read alike before all trees. -/
theorem exists_marks {cs : List Char} (h : afterMarks cs trees = some rest) :
    ∃ read, trees = read ++ rest ∧ ∀ after, afterMarks cs (read ++ after) = some after := by
  fun_induction afterMarks cs trees with
  | case1 =>
    obtain rfl := Option.some.inj h
    exact ⟨[], rfl, fun _ => rfl⟩
  | case2 c m joint trees hmark =>
    obtain rfl := Option.some.inj h
    exact ⟨[.token (.punct m joint)], rfl, fun after => by simp [afterMarks, hmark]⟩
  | case4 c cs m joint trees hcs hmark ih =>
    obtain ⟨read, rfl, hread⟩ := ih h
    refine ⟨.token (.punct m joint) :: read, rfl, fun after => ?_⟩
    rw [List.cons_append, afterMarks, if_pos hmark]
    · exact hread after
    · exact hcs
  | case3 | case5 | case6 => cases h

instance {text : String} : Carries k a b (op text) (op text) := by
  refine ⟨fun front x rest _ h => ?_⟩
  obtain ⟨hmarks, rfl⟩ := op_eq_some.mp h
  obtain ⟨read, hfront, hread⟩ := exists_marks hmarks
  rw [eq_append_of_append_eq read hfront, List.append_assoc]
  exact op_eq_some.mpr ⟨hread _, rfl⟩

instance {text : String} [Inner text] [Ending a b] : Carries k a b (opIf text) (opIf text) := by
  unfold opIf
  infer_instance

instance {text : String} [Ending a b] : Carries k a b (word text) (word text) := by unfold word; infer_instance

instance {text : String} [Ending a b] : Carries k a b (wordIf text) (wordIf text) := by unfold wordIf; infer_instance

instance [Ending a b] : Carries k a b anyWord anyWord := by unfold anyWord; infer_instance

instance [Ending a b] : Carries k a b ident ident := by unfold ident; infer_instance

instance [Ending a b] : Carries k a b lifetime lifetime := by unfold lifetime; infer_instance

instance [Ending a b] : Carries k a b string string := by unfold string; infer_instance

instance [Ending a b] : Carries k a b literal literal := by
  unfold literal
  refine .get_bind fun trees => .ite ?_ inferInstance
  have hsuffixed (t : Tree) : Suffixed (match t with
      | .token (.punct _ _) => (do return operator "-" ++ [← one] : Parser (List Tree))
      | t => return [t]) := by
    split <;> infer_instance
  refine .bind inferInstance fun t => ?_
  split <;> infer_instance

instance {d : Delimiter} {p : Parser α} : Carries k a b (within d p) (within d p) := by
  refine ⟨fun front x rest _ h => ?_⟩
  obtain ⟨inner, hfront, hx⟩ := within_eq_some.mp h
  rw [eq_append_of_append_eq [.group d inner] hfront]
  exact within_eq_some.mpr ⟨inner, rfl, hx⟩

instance {d : Delimiter} {p : Parser α} : Suffixed (within d p) := by
  refine ⟨fun trees x rest h => ?_⟩
  obtain ⟨inner, rfl, -⟩ := within_eq_some.mp h
  exact List.suffix_cons _ _

/-- A group is read alike before all trees, whatever is inside. -/
instance {d : Delimiter} {p : Parser (List Tree)} : Carries k a b (inside d p) (inside d p) := by
  unfold inside
  infer_instance

instance : Carries k a b anyGroup anyGroup := by
  have hsuffixed (t : Tree) : Suffixed (match t with
      | .group d inner => (return .group d inner : Parser Tree)
      | _ => failure) := by
    split <;> infer_instance
  unfold anyGroup
  refine .bind inferInstance fun t => ?_
  split <;> infer_instance

theorem Carries.groupInner {d : Delimiter} : Carries k a b (groupInner d) (groupInner d) := by
  refine ⟨fun front inner rest _ h => ?_⟩
  rw [eq_append_of_append_eq [.group d inner] (groupInner_eq_some.mp h)]
  exact groupInner_eq_some.mpr rfl

instance {d : Delimiter} : Carries k a b (Parser.groupInner d) (Parser.groupInner d) := .groupInner

/-- The trees that were read are the same. -/
instance : Carries k a b (readSince (t ++ a)) (readSince (t ++ b)) := by
  refine ⟨fun front x rest _ h => ?_⟩
  obtain ⟨now, _, hget, hread⟩ := bind_eq_some.mp h
  obtain ⟨rfl, rfl⟩ := get_eq_some.mp hget
  obtain ⟨rfl, hrest⟩ := pure_eq_some.mp hread
  obtain rfl := List.append_cancel_right hrest
  have hlength (c : List Tree) : (t ++ c).length - (rest ++ c).length = t.length - rest.length := by
    simp only [List.length_append]
    omega
  refine bind_eq_some.mpr ⟨_, _, get_eq_some.mpr ⟨rfl, rfl⟩, pure_eq_some.mpr ⟨?_, rfl⟩⟩
  rw [hlength, hlength, List.take_append_of_le_length (Nat.sub_le _ _), List.take_append_of_le_length (Nat.sub_le _ _)]

instance [∀ s, Refines s p p] [Carries k a b p q] : Carries k a b (asWritten p) (asWritten q) := by
  unfold asWritten
  infer_instance

/-! #### Repetition -/

/-- A loop that may run as often as there are trees. -/
theorem Carries.loop {loop loop' : Nat → Parser α} (h : ∀ n m, Carries m a b (loop n) (loop' m)) :
    Carries (t.length + 1) a b (loop ((t ++ a).length + 1)) (loop' ((t ++ b).length + 1)) := by
  refine (h _ _).of_le ?_
  simp only [List.length_append]
  omega

theorem shortens_op {text : String} (htext : text.toList ≠ []) : Shortens (op text) := by
  refine ⟨fun trees x rest h => ?_⟩
  have hsuffix := afterMarks_suffix (op_eq_some.mp h).1
  have hsize := size_lt_of_afterMarks htext (op_eq_some.mp h).1
  refine lt_of_le_of_ne hsuffix.length_le fun hlength => ?_
  rw [hsuffix.eq_of_length hlength] at hsize
  exact lt_irrefl _ hsize

variable {sep : String} {stop more : List Tree → Bool}

instance : Shortens (op ",") := shortens_op (by decide)
instance : Shortens (op "+") := shortens_op (by decide)
instance : Shortens (op "::") := shortens_op (by decide)
instance : Shortens (op "#") := shortens_op (by decide)

instance [hp : Shortens p] [hf : ∀ x, Suffixed (f x)] : Shortens (p >>= f) := by
  refine ⟨fun trees y rest h => ?_⟩
  obtain ⟨x, middle, hx, hy⟩ := bind_eq_some.mp h
  exact ((hf x).suffix middle y rest hy).length_le.trans_lt (hp.length_lt trees x middle hx)

section repetition

variable [∀ s, Refines s p p] [∀ k, Carries k a b p q]

instance [Shortens (op sep)] [∀ t, Same (stop (t ++ a)) (stop (t ++ b))] :
    Carries k a b (separated p sep stop) (separated q sep stop) := by
  have hloop (n m : Nat) : Carries m a b (separatedUpTo p sep stop n) (separatedUpTo q sep stop m) := by
    induction n generalizing m with
    | zero => exact inferInstanceAs (Carries m a b failure _)
    | succ n ih =>
      cases m with
      | zero => infer_instance
      | succ m => unfold separatedUpTo; infer_instance
  exact .get_bind_length fun t => .loop hloop

instance [Shortens (op sep)] [Inner sep] [Ending a b] [∀ t, Same (stop (t ++ a)) (stop (t ++ b))] :
    Carries k a b (chained p sep stop) (chained q sep stop) := by
  have hloop (n m : Nat) : Carries m a b (chainedUpTo p sep stop n) (chainedUpTo q sep stop m) := by
    induction n generalizing m with
    | zero => exact inferInstanceAs (Carries m a b failure _)
    | succ n ih =>
      cases m with
      | zero => infer_instance
      | succ m => unfold chainedUpTo; infer_instance
  exact .get_bind_length fun t => .loop hloop

instance [Shortens p] [∀ t, Same (more (t ++ a)) (more (t ++ b))] :
    Carries k a b (repeatWhile p more) (repeatWhile q more) := by
  have hloop (n m : Nat) : Carries m a b (repeatUpTo p more n) (repeatUpTo q more m) := by
    induction n generalizing m with
    | zero => exact inferInstanceAs (Carries m a b failure _)
    | succ n ih =>
      cases m with
      | zero => infer_instance
      | succ m => unfold repeatUpTo; infer_instance
  exact .get_bind_length fun t => .loop hloop

end repetition

/-- Arguments in angle brackets are read up to the closing mark, which stands before `a` and `b`. -/
theorem Carries.angle {p : Parser α} {f : List (α × List Tree) → List Tree → Parser β} [hp' : ∀ s, Refines s p p]
    [hf' : ∀ xs close, Suffixed (f xs close)] (hp : ∀ k a b, AngleEnding a b → Carries k a b p p)
    (hf : ∀ xs close, Carries k a b (f xs close) (f xs close)) :
    Carries k a b (separated p "," (atOperator ">") >>= fun xs => op ">" >>= f xs)
      (separated p "," (atOperator ">") >>= fun xs => op ">" >>= f xs) := by
  refine ⟨fun front y rest hfront h => ?_⟩
  obtain ⟨xs, middle, hxs, h⟩ := bind_eq_some.mp h
  obtain ⟨close, after, hclose, hy⟩ := bind_eq_some.mp h
  obtain ⟨m, rfl⟩ := exists_append_of_suffix ((hf' xs close).suffix after y (rest ++ a) hy)
  obtain ⟨hmark, rfl⟩ := op_eq_some.mp hclose
  obtain ⟨joint, rfl⟩ : ∃ joint, middle = .token (.punct '>' joint) :: (m ++ rest ++ a) := afterMarks_singleton.mp hmark
  -- The mark is in front of `a`, so the arguments before it are followed by what is the same in both lists.
  obtain ⟨read, hread⟩ : .token (.punct '>' joint) :: (m ++ rest ++ a) <:+ front ++ a :=
    Suffixed.suffix (front ++ a) xs _ hxs
  obtain rfl : front = read ++ .token (.punct '>' joint) :: (m ++ rest) := eq_append_of_append_eq read hread.symm
  have hangle := AngleEnding.intro joint (m ++ rest ++ a) (m ++ rest ++ b)
  have hp := fun k => hp k _ _ hangle
  have hseparated : Carries (read.length + 1) (.token (.punct '>' joint) :: (m ++ rest ++ a))
      (.token (.punct '>' joint) :: (m ++ rest ++ b)) (separated p "," (atOperator ">"))
      (separated p "," (atOperator ">")) := inferInstance
  have hxs' := hseparated.reads read xs [] (Nat.lt_succ_self _) (by simpa using hxs)
  have hclose' : op ">" (.token (.punct '>' joint) :: (m ++ rest ++ b)) = some (operator ">", m ++ rest ++ b) :=
    op_eq_some.mpr ⟨afterMarks_singleton.mpr ⟨joint, rfl⟩, rfl⟩
  simp only [List.length_append, List.length_cons] at hfront
  have hy' := (hf xs (operator ">")).reads (m ++ rest) y rest (by simp only [List.length_append]; omega) hy
  exact bind_eq_some.mpr ⟨xs, _, by simpa using hxs', bind_eq_some.mpr ⟨_, _, hclose', hy'⟩⟩

end Parser

end ServiceContainer.Syntax
