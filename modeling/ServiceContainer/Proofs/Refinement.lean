import ServiceContainer.Proofs.Names

/-!
# One parser reads what another reads

A grammar of one level of nesting and a grammar of another are made of the same parsers over different parts. What a
parser reads of few tokens depends on its parts only as far as they are used on few tokens, and on fewer of them once a
token has been read. So that two parsers read alike follows from their shape, and is left to instance search.

## Main definitions

* `Parser.Refines` — a parser reads of few tokens what another reads
* `Parser.Eats` — a parser that never succeeds without reading a token

## Main statements

* `Refines.bind`, `Refines.bind_of_eats` — parsers one after the other
* `Refines.within` — the inside of a group
-/

namespace ServiceContainer.Syntax

theorem size_append (xs ys : List Tree) : size (xs ++ ys) = size xs + size ys := by
  induction xs with
  | nil => simp [size]
  | cons t ts ih => simp [size, ih, Nat.add_assoc]

theorem size_le_of_suffix {xs ys : List Tree} (h : xs <:+ ys) : size xs ≤ size ys := by
  obtain ⟨front, rfl⟩ := h
  rw [size_append]
  exact Nat.le_add_left _ _

namespace Parser

variable {α β γ : Type} {s : Nat} {p p' q q' : Parser α} {f f' : α → Parser β} {trees rest : List Tree}

/-- What `p` reads of the trees, `q` reads too, and it stands at their front. -/
def RefinesAt (trees : List Tree) (p q : Parser α) : Prop :=
  ∀ x rest, p trees = some (x, rest) → rest <:+ trees ∧ q trees = some (x, rest)

/-- What `p` reads of few trees, `q` reads too: each of their tokens can pay for four calls out of `s`. -/
class Refines (s : Nat) (p q : Parser α) : Prop where
  reads : ∀ trees, 4 * size trees + 4 ≤ s → RefinesAt trees p q

/-- The parser reads a token if it succeeds. -/
class Eats (p : Parser α) : Prop where
  size_lt : ∀ trees x rest, p trees = some (x, rest) → size rest < size trees

/-! ### Sequences -/

theorem Refines.of_suffix (h : ∀ trees x rest, p trees = some (x, rest) → rest <:+ trees) : Refines s p p :=
  ⟨fun trees _ x rest hread => ⟨h trees x rest hread, hread⟩⟩

theorem Refines.of_le {r : Nat} (h : Refines s p q) (hle : r ≤ s) : Refines r p q :=
  ⟨fun trees hsize => h.reads trees (hsize.trans hle)⟩

instance Refines.pure (x : α) : Refines s (Pure.pure x) (Pure.pure x) := by
  apply Refines.of_suffix
  intro trees y rest h
  obtain ⟨-, rfl⟩ := pure_eq_some.mp h
  exact List.suffix_rfl

instance Refines.failure : Refines s (failure : Parser α) failure := ⟨fun _ _ _ _ h => nomatch h⟩

instance Refines.get : Refines s (MonadState.get : Parser (List Tree)) MonadState.get := by
  apply Refines.of_suffix
  intro trees y rest h
  obtain ⟨-, rfl⟩ := get_eq_some.mp h
  exact List.suffix_rfl

instance Refines.liftM (o : Option α) : Refines s (liftM o : Parser α) (liftM o) := by
  apply Refines.of_suffix
  intro trees y rest h
  cases o with
  | none => exact nomatch h
  | some x =>
    obtain ⟨-, rfl⟩ := Prod.mk.inj (Option.some.inj h)
    exact List.suffix_rfl

theorem get_bind_apply {f : List Tree → Parser β} : (MonadState.get >>= f : Parser β) trees = f trees trees := rfl

theorem Refines.bind (hp : Refines s p q) (hf : ∀ x, Refines s (f x) (f' x)) : Refines s (p >>= f) (q >>= f') := by
  refine ⟨fun trees hsize y rest h => ?_⟩
  obtain ⟨x, middle, hx, hy⟩ := bind_eq_some.mp h
  obtain ⟨hmiddle, hx'⟩ := hp.reads trees hsize x middle hx
  have hle := size_le_of_suffix hmiddle
  obtain ⟨hrest, hy'⟩ := (hf x).reads middle (by omega) y rest hy
  exact ⟨hrest.trans hmiddle, bind_eq_some.mpr ⟨x, middle, hx', hy'⟩⟩

/-- Once a token is read there are fewer of them. -/
theorem Refines.bind_of_eats [heats : Eats p] (hp : Refines s p q) (hf : ∀ x, Refines (s - 4) (f x) (f' x)) :
    Refines s (p >>= f) (q >>= f') := by
  refine ⟨fun trees hsize y rest h => ?_⟩
  obtain ⟨x, middle, hx, hy⟩ := bind_eq_some.mp h
  obtain ⟨hmiddle, hx'⟩ := hp.reads trees hsize x middle hx
  have hlt := heats.size_lt trees x middle hx
  obtain ⟨hrest, hy'⟩ := (hf x).reads middle (by omega) y rest hy
  exact ⟨hrest.trans hmiddle, bind_eq_some.mpr ⟨x, middle, hx', hy'⟩⟩

theorem Refines.ite {c : Prop} [Decidable c] (hp : Refines s p p') (hq : Refines s q q') :
    Refines s (if c then p else q) (if c then p' else q') := by
  split
  · exact hp
  · exact hq

/-- What follows two ways to read is looked at once. -/
theorem Refines.choose {c : Prop} [Decidable c] (hp : Refines s p p') (hq : Refines s q q')
    (hf : ∀ x, Refines s (f x) (f' x)) :
    Refines s (if c then p >>= f else q >>= f) (if c then p' >>= f' else q' >>= f') :=
  (hp.bind hf).ite (hq.bind hf)

theorem Refines.map {g : α → γ} (hp : Refines s p q) : Refines s (g <$> p) (g <$> q) := by
  rw [map_eq_pure_bind, map_eq_pure_bind]
  exact hp.bind fun x => .pure _

/-- Parsers that begin with a look at the trees. -/
theorem Refines.of_get {f f' : List Tree → Parser β}
    (h : ∀ trees, 4 * size trees + 4 ≤ s → RefinesAt trees (f trees) (f' trees)) :
    Refines s (MonadState.get >>= f) (MonadState.get >>= f') := ⟨h⟩

/-- What is left in the end is measured against the trees at the front. -/
theorem RefinesAt.bind (hp : RefinesAt trees p q) (hf : ∀ x middle, middle <:+ trees → ∀ y rest,
    f x middle = some (y, rest) → rest <:+ trees ∧ f' x middle = some (y, rest)) :
    RefinesAt trees (p >>= f) (q >>= f') := by
  intro y rest h
  obtain ⟨x, middle, hx, hy⟩ := bind_eq_some.mp h
  obtain ⟨hmiddle, hx'⟩ := hp x middle hx
  obtain ⟨hrest, hy'⟩ := hf x middle hmiddle y rest hy
  exact ⟨hrest, bind_eq_some.mpr ⟨x, middle, hx', hy'⟩⟩

/-- Parsers that go on with trees that stand further back. -/
theorem RefinesAt.set_bind {f f' : PUnit → Parser β} [h : Refines s (f ⟨⟩) (f' ⟨⟩)] (hsize : 4 * size trees + 4 ≤ s)
    (hsuffix : rest <:+ trees) : RefinesAt trees (set rest >>= f) (set rest >>= f') := by
  intro x after hread
  have hle := size_le_of_suffix hsuffix
  obtain ⟨hafter, hread'⟩ := h.reads rest (by omega) x after hread
  exact ⟨hafter.trans hsuffix, hread'⟩

/-! The rules are tried from the last to the first: the calls that follow a token are fewer, and where a parser may answer
with nothing both answers are followed. -/

instance [hp : Refines s p q] [hf : ∀ x, Refines s (f x) (f' x)] : Refines s (p >>= f) (q >>= f') := hp.bind hf

instance {p q : Parser (Option α)} {f f' : Option α → Parser β} [hp : Refines s p q]
    [hsome : ∀ x, Refines s (f (some x)) (f' (some x))] [hnone : Refines s (f none) (f' none)] :
    Refines s (p >>= f) (q >>= f') :=
  hp.bind fun o => match o with
    | some x => hsome x
    | none => hnone

instance [hp : Refines s p q] [Eats p] [hf : ∀ x, Refines (s - 4) (f x) (f' x)] : Refines s (p >>= f) (q >>= f') :=
  hp.bind_of_eats hf

instance {c : Prop} [Decidable c] [hp : Refines s p p'] [hq : Refines s q q'] :
    Refines s (if c then p else q) (if c then p' else q') := hp.ite hq

instance : Refines s ((failure : Parser α) >>= f) (failure >>= f') := ⟨fun _ _ _ _ h => nomatch h⟩

instance {g : α → γ} [hp : Refines s p q] : Refines s (g <$> p) (g <$> q) := hp.map

section both

variable {p p' q q' : Parser (List Tree)} {ps qs : List (Parser (List Tree))} {f f' : List Tree → Parser β}

instance [hp : Refines s (do return (← p) ++ (← p')) (do return (← q) ++ (← q'))] :
    Refines s (both p p') (both q q') := hp

instance [hp : Refines s (p >>= fun x => p' >>= fun y => f (x ++ y)) (q >>= fun x => q' >>= fun y => f' (x ++ y))] :
    Refines s (both p p' >>= f) (both q q' >>= f') := by
  simpa only [both, bind_assoc, pure_bind] using hp

instance : Refines s nothing nothing := .pure []

instance : Refines s (inOrder []) (inOrder []) := .pure []

instance [hp : Refines s (both p (inOrder ps)) (both q (inOrder qs))] :
    Refines s (inOrder (p :: ps)) (inOrder (q :: qs)) := hp

instance [hp : Refines s (both p (inOrder ps) >>= f) (both q (inOrder qs) >>= f')] :
    Refines s (inOrder (p :: ps) >>= f) (inOrder (q :: qs) >>= f') := hp

end both

/-! ### What stands at the front -/

instance : Refines s one one := by
  apply Refines.of_suffix
  intro trees t rest h
  rw [one_eq_some h]
  exact List.suffix_cons t rest

theorem afterMarks_suffix {cs : List Char} (h : afterMarks cs trees = some rest) : rest <:+ trees := by
  fun_induction afterMarks cs trees with
  | case1 =>
    obtain rfl := Option.some.inj h
    exact List.suffix_rfl
  | case2 =>
    obtain rfl := Option.some.inj h
    exact List.suffix_cons _ _
  | case4 _ _ _ _ _ _ _ ih => exact (ih h).trans (List.suffix_cons _ _)
  | case3 | case5 | case6 => exact nomatch h

theorem size_lt_of_afterMarks {cs : List Char} (hcs : cs ≠ []) (h : afterMarks cs trees = some rest) :
    size rest < size trees := by
  have hfirst : ∃ m joint more, trees = .token (.punct m joint) :: more ∧ rest <:+ more := by
    unfold afterMarks at h
    split at h
    next => exact absurd rfl hcs
    next m joint more =>
      rw [Option.ite_none_right_eq_some] at h
      obtain rfl := Option.some.inj h.2
      exact ⟨_, _, _, rfl, List.suffix_rfl⟩
    next m joint more _ =>
      rw [Option.ite_none_right_eq_some] at h
      exact ⟨_, _, _, rfl, afterMarks_suffix h.2⟩
    next => exact nomatch h
  obtain ⟨m, joint, more, rfl, hsuffix⟩ := hfirst
  have hle := size_le_of_suffix hsuffix
  simp only [size, Tree.size]
  omega

theorem op_eq_some {text : String} {x : List Tree} : op text trees = some (x, rest) ↔
    afterMarks text.toList trees = some rest ∧ operator text = x := by
  have hread : op text trees = (afterMarks text.toList trees).map fun rest => (operator text, rest) := by
    rw [op, get_bind_apply]
    cases afterMarks text.toList trees <;> rfl
  simp [hread, and_comm]

instance {text : String} : Refines s (op text) (op text) :=
  .of_suffix fun _ _ _ h => afterMarks_suffix (op_eq_some.mp h).1

theorem eats_op {text : String} (htext : text.toList ≠ []) : Eats (op text) :=
  ⟨fun _ _ _ h => size_lt_of_afterMarks htext (op_eq_some.mp h).1⟩

instance {text : String} : Refines s (opIf text) (opIf text) := by unfold opIf; infer_instance

instance {text : String} : Refines s (word text) (word text) := by unfold word; infer_instance

instance {text : String} : Refines s (wordIf text) (wordIf text) := by unfold wordIf; infer_instance

instance : Refines s anyWord anyWord := by unfold anyWord; infer_instance

instance : Refines s ident ident := by unfold ident; infer_instance

instance : Refines s lifetime lifetime := by unfold lifetime; infer_instance

instance : Refines s string string := by unfold string; infer_instance

instance : Refines s atEnd atEnd := by unfold atEnd; infer_instance

instance : Refines s name name := by
  unfold name
  refine .bind inferInstance fun x => ?_
  split <;> infer_instance

instance : Refines s literal literal := by
  unfold literal
  refine .bind inferInstance fun trees => .ite (.bind inferInstance fun t => ?_) inferInstance
  split <;> infer_instance

instance {start : List Tree} : Refines s (readSince start) (readSince start) := by unfold readSince; infer_instance

instance [Refines s p q] : Refines s (asWritten p) (asWritten q) := by unfold asWritten; infer_instance

/-- A parser of one tree that begins with a token. -/
theorem eats_one {test : List Tree → Bool} (htest : ∀ t trees, test (t :: trees) = true → t.size = 1) :
    Eats (do if test (← MonadState.get) then return [← one] else failure : Parser (List Tree)) := by
  refine ⟨fun trees x rest h => ?_⟩
  obtain ⟨_, _, hget, hread⟩ := bind_eq_some.mp h
  obtain ⟨rfl, rfl⟩ := get_eq_some.mp hget
  split at hread
  next hfront =>
    obtain ⟨t, _, hone, hpure⟩ := bind_eq_some.mp hread
    obtain ⟨-, rfl⟩ := pure_eq_some.mp hpure
    rw [one_eq_some hone] at hfront ⊢
    have hsize := htest t _ hfront
    simp only [size]
    omega
  next => exact nomatch hread

theorem size_of_word? {t : Tree} {text : String} (h : word? (t :: trees) = some text) : t.size = 1 := by
  obtain ⟨rest, hrest⟩ := word?_eq_some h
  obtain ⟨rfl, -⟩ := List.cons.inj hrest
  rfl

instance {text : String} : Eats (word text) :=
  eats_one fun _ _ h => size_of_word? (beq_iff_eq.mp h)

instance : Eats anyWord := eats_one fun _ _ h => by
  obtain ⟨text, htext⟩ := Option.isSome_iff_exists.mp h
  exact size_of_word? htext

instance : Eats ident := eats_one fun _ _ h => by
  obtain ⟨text, htext, -⟩ := (Option.any_eq_true ..).mp h
  exact size_of_word? htext

/-! ### Groups -/

theorem groupInner_eq_some {d : Delimiter} {inner : List Tree} :
    groupInner d trees = some (inner, rest) ↔ trees = .group d inner :: rest := by
  constructor
  · intro h
    obtain ⟨t, middle, hone, hread⟩ := bind_eq_some.mp h
    rw [one_eq_some hone]
    split at hread
    next e content =>
      split at hread
      next hd =>
        obtain ⟨rfl, rfl⟩ := pure_eq_some.mp hread
        rw [beq_iff_eq.mp hd]
      next => exact nomatch hread
    next => exact nomatch hread
  · rintro rfl
    refine bind_eq_some.mpr ⟨_, _, rfl, ?_⟩
    simp only [beq_self_eq_true, if_true]
    rfl

theorem within_eq_some {d : Delimiter} {x : α} : within d p trees = some (x, rest) ↔
    ∃ inner, trees = .group d inner :: rest ∧ p inner = some (x, []) := by
  have hall (inner : List Tree) : onAll p inner = some x ↔ p inner = some (x, []) := by
    simp [onAll, Option.bind_eq_some_iff]
  have hlift {o : Option α} {front : List Tree} :
      (MonadLift.monadLift o : Parser α) front = some (x, rest) ↔ o = some x ∧ rest = front := by
    cases o with
    | none =>
      change none = some (x, rest) ↔ _
      simp
    | some y =>
      change some (y, front) = some (x, rest) ↔ _
      simp [eq_comm]
  constructor
  · intro h
    obtain ⟨inner, middle, hinner, hread⟩ := bind_eq_some.mp h
    obtain ⟨hx, rfl⟩ := hlift.mp hread
    exact ⟨inner, groupInner_eq_some.mp hinner, (hall inner).mp hx⟩
  · rintro ⟨inner, rfl, hx⟩
    exact bind_eq_some.mpr ⟨inner, rest, groupInner_eq_some.mpr rfl, hlift.mpr ⟨(hall inner).mpr hx, rfl⟩⟩

instance {d : Delimiter} : Refines s (groupInner d) (groupInner d) := by
  apply Refines.of_suffix
  intro trees inner rest h
  rw [groupInner_eq_some.mp h]
  exact List.suffix_cons _ _

instance : Refines s anyGroup anyGroup := by
  unfold anyGroup
  refine .bind inferInstance fun t => ?_
  split <;> infer_instance

/-- The inside of a group has fewer tokens than the group. -/
theorem Refines.within {d : Delimiter} (h : Refines (s - 4) p q) : Refines s (within d p) (within d q) := by
  refine ⟨fun trees hsize x rest hread => ?_⟩
  obtain ⟨inner, rfl, hx⟩ := within_eq_some.mp hread
  simp only [size, Tree.size] at hsize
  exact ⟨List.suffix_cons _ _, within_eq_some.mpr ⟨inner, rfl, (h.reads inner (by omega) x [] hx).2⟩⟩

instance {d : Delimiter} [h : Refines (s - 4) p q] : Refines s (within d p) (within d q) := h.within

instance {d : Delimiter} {p q : Parser (List Tree)} [Refines (s - 4) p q] : Refines s (inside d p) (inside d q) := by
  unfold inside
  infer_instance

/-! ### Repetition -/

section repetition

variable {sep : String} {stop more : List Tree → Bool} {fuel : Nat} [Refines s p q]

instance : Refines s (separatedUpTo p sep stop fuel) (separatedUpTo q sep stop fuel) := by
  induction fuel with
  | zero => exact .failure
  | succ fuel ih => unfold separatedUpTo; infer_instance

instance : Refines s (chainedUpTo p sep stop fuel) (chainedUpTo q sep stop fuel) := by
  induction fuel with
  | zero => exact .failure
  | succ fuel ih => unfold chainedUpTo; infer_instance

instance : Refines s (repeatUpTo p more fuel) (repeatUpTo q more fuel) := by
  induction fuel with
  | zero => exact .failure
  | succ fuel ih => unfold repeatUpTo; infer_instance

instance : Refines s (separated p sep stop) (separated q sep stop) := by unfold separated; infer_instance

instance : Refines s (chained p sep stop) (chained q sep stop) := by unfold chained; infer_instance

instance : Refines s (repeatWhile p more) (repeatWhile q more) := by unfold repeatWhile; infer_instance

instance : Refines s (untilEnd p) (untilEnd q) := by unfold untilEnd; infer_instance

instance : Refines s (commaList p) (commaList q) := by unfold commaList; infer_instance

end repetition

instance {p q : Parser (List Tree)} [Refines s p q] : Refines s (commaTrees p) (commaTrees q) := by
  unfold commaTrees
  infer_instance

end Parser

end ServiceContainer.Syntax
