import ServiceContainer.Proofs.Refusals
import ServiceContainer.Proofs.TypeEnds

/-!
# The grammar of markers

In the brackets of a marker stand arguments with commas between them, and a comma may stand after the last. An argument
is an identifier alone, which names a lifetime, or an identifier with a type after `=`. A marker may have one argument
of each kind, and the identifier before `=` is `key`. What is read depends on the arguments alone, neither on their
order nor on a last comma. Arguments that break a rule are refused for the first of them that does.

## Main definitions

* `MarkerArgument.Written` — the trees of an argument
* `MarkerArgument.Listed` — the trees of a list of arguments
* `MarkerArgument.Admissible`, `MarkerArgument.Offends` — the rules for the arguments of a marker

## Main statements

* `markerArguments_listed` — a marker is read by taking its arguments one after the other
* `exists_listed_of_markerArguments` — whatever is read as a marker is a list of arguments
* `Marker.ofAttribute_grammar` — which trees are read, and what is read of them
-/

namespace ServiceContainer

open Syntax

/-- An argument of a marker. -/
inductive MarkerArgument where
  | lifetime (name : String)
  /-- A name with a type after `=`. -/
  | assigned (name : String) (type : TypeExpr)

namespace MarkerArgument

/-- The lifetimes that the arguments name. -/
def lifetimes (args : List MarkerArgument) : List String :=
  args.filterMap fun
    | .lifetime name => some name
    | .assigned _ _ => none

/-- The types that the arguments give. -/
def types (args : List MarkerArgument) : List TypeExpr :=
  args.filterMap fun
    | .lifetime _ => none
    | .assigned _ type => some type

/-- The trees of an argument. -/
inductive Written : List Tree → MarkerArgument → Prop
  | lifetime {name : String} (hname : name ∉ reservedWords) : Written [.ident name] (.lifetime name)
  | assigned {name : String} {trees : List Tree} {type : Tree} (joint : Bool) (hname : name ∉ reservedWords)
    (htype : readTrees? (·.type true) trees = some type) :
    Written (.ident name :: .token (.punct '=' joint) :: trees) (.assigned name ⟨type⟩)

/-- A comma. -/
def comma (joint : Bool) : Tree := .token (.punct ',' joint)

/-- Arguments with commas between them. -/
inductive Separated : List Tree → List MarkerArgument → Prop
  | one {x : List Tree} {arg : MarkerArgument} (h : Written x arg) : Separated x [arg]
  | more {x trees : List Tree} {arg : MarkerArgument} {args : List MarkerArgument} (h : Written x arg) (joint : Bool)
    (hs : Separated trees args) : Separated (x ++ comma joint :: trees) (arg :: args)

/-- No arguments, or arguments with commas between them and perhaps after the last. -/
inductive Listed : List Tree → List MarkerArgument → Prop
  | none : Listed [] []
  | plain {trees : List Tree} {args : List MarkerArgument} (h : Separated trees args) : Listed trees args
  | trailing {trees : List Tree} {args : List MarkerArgument} (h : Separated trees args) (joint : Bool) :
    Listed (trees ++ [comma joint]) args

/-- At most one lifetime and one type, which is named `key`. -/
structure Admissible (args : List MarkerArgument) : Prop where
  named : ∀ name type, .assigned name type ∈ args → name = "key"
  lifetimes : (lifetimes args).length ≤ 1
  types : (types args).length ≤ 1

/-- The error of an argument that breaks a rule after others. -/
inductive Offends (before : List MarkerArgument) : MarkerArgument → ModuleError → Prop
  | unknown {name : String} {type : TypeExpr} (hname : name ≠ "key") :
    Offends before (.assigned name type) (.unknownMarkerArgument name)
  | repeatedKey {type : TypeExpr} (h : ∃ given, .assigned "key" given ∈ before) :
    Offends before (.assigned "key" type) .repeatedKey
  | repeatedLifetime {name : String} (h : ∃ given, .lifetime given ∈ before) :
    Offends before (.lifetime name) .repeatedLifetime

variable {trees x y rest : List Tree} {args before after : List MarkerArgument} {arg : MarkerArgument}

theorem mem_lifetimes {name : String} : name ∈ lifetimes args ↔ .lifetime name ∈ args := by
  simp only [lifetimes, List.mem_filterMap]
  constructor
  · rintro ⟨_ | _, hmem, hname⟩
    · exact Option.some.inj hname ▸ hmem
    · cases hname
  · intro h
    exact ⟨_, h, rfl⟩

theorem mem_types {type : TypeExpr} : type ∈ types args ↔ ∃ name, .assigned name type ∈ args := by
  simp only [types, List.mem_filterMap]
  constructor
  · rintro ⟨_ | ⟨name, _⟩, hmem, htype⟩
    · cases htype
    · exact ⟨name, Option.some.inj htype ▸ hmem⟩
  · rintro ⟨name, h⟩
    exact ⟨_, h, rfl⟩

@[simp] theorem lifetimes_append : lifetimes (before ++ args) = lifetimes before ++ lifetimes args :=
  List.filterMap_append

@[simp] theorem types_append : types (before ++ args) = types before ++ types args := List.filterMap_append

/-- Arguments come one after the other, each but the last with a comma. -/
theorem listed_iff : Listed trees args ↔ (trees = [] ∧ args = []) ∨ (∃ arg, Written trees arg ∧ args = [arg]) ∨
    ∃ x arg joint more others, trees = x ++ comma joint :: more ∧ args = arg :: others ∧ Written x arg ∧
      Listed more others := by
  constructor
  · intro h
    cases h with
    | none => exact .inl ⟨rfl, rfl⟩
    | plain h =>
      cases h with
      | one h => exact .inr (.inl ⟨_, h, rfl⟩)
      | more h joint hs => exact .inr (.inr ⟨_, _, joint, _, _, rfl, rfl, h, .plain hs⟩)
    | trailing h last =>
      cases h with
      | one h => exact .inr (.inr ⟨_, _, last, [], [], rfl, rfl, h, .none⟩)
      | more h joint hs =>
        exact .inr (.inr ⟨_, _, joint, _, _, List.append_assoc .., rfl, h, .trailing hs last⟩)
  · intro h
    obtain ⟨rfl, rfl⟩ | ⟨arg, h, rfl⟩ | ⟨x, arg, joint, more, others, rfl, rfl, h, hs⟩ := h
    · exact .none
    · exact .plain (.one h)
    · cases hs with
      | none => exact .trailing (.one h) joint
      | plain hs => exact .plain (.more h joint hs)
      | trailing hs last => simpa using Listed.trailing (.more h joint hs) last

theorem Admissible.nil : Admissible [] := ⟨by simp, Nat.zero_le 1, Nat.zero_le 1⟩

theorem Admissible.of_append (h : Admissible (before ++ args)) : Admissible before where
  named name type hmem := h.named name type (List.mem_append_left args hmem)
  lifetimes := by
    have := h.lifetimes
    simp only [lifetimes_append, List.length_append] at this
    omega
  types := by
    have := h.types
    simp only [types_append, List.length_append] at this
    omega

end MarkerArgument

open MarkerArgument

namespace Marker

variable {args before : List MarkerArgument} {arg : MarkerArgument} {m : Marker} {e : ModuleError}

/-! ### Taking arguments -/

/-- The marker that the arguments make. -/
def ofArguments (args : List MarkerArgument) : Marker := ⟨(lifetimes args).head?, (types args).head?⟩

/-- The marker with one more argument. -/
def take (m : Marker) : MarkerArgument → Except ModuleError Marker
  | .lifetime name =>
    if m.lifetime.isSome then .error .repeatedLifetime else .ok { m with lifetime := some name }
  | .assigned name type =>
    if name != "key" then .error (.unknownMarkerArgument name)
    else if m.key.isSome then .error .repeatedKey
    else .ok { m with key := some type }

theorem isSome_lifetime_ofArguments : (ofArguments args).lifetime.isSome = true ↔ ∃ given, .lifetime given ∈ args := by
  simp only [ofArguments, List.isSome_head?, ← mem_lifetimes]
  exact ⟨List.exists_mem_of_ne_nil _, fun ⟨given, hmem⟩ => List.ne_nil_of_mem hmem⟩

theorem isSome_key_ofArguments (h : Admissible args) :
    (ofArguments args).key.isSome = true ↔ ∃ given, .assigned "key" given ∈ args := by
  simp only [ofArguments, List.isSome_head?]
  constructor
  · intro hne
    obtain ⟨given, hgiven⟩ := List.exists_mem_of_ne_nil _ hne
    obtain ⟨name, hmem⟩ := mem_types.mp hgiven
    exact ⟨given, h.named name given hmem ▸ hmem⟩
  · intro ⟨given, hmem⟩
    exact List.ne_nil_of_mem (mem_types.mpr ⟨_, hmem⟩)

/-- An argument is not taken if it breaks a rule after those that were. -/
theorem take_eq_error (h : Admissible before) : (ofArguments before).take arg = .error e ↔ Offends before arg e := by
  cases arg with
  | lifetime name =>
    rw [take, ite_eq_iff, isSome_lifetime_ofArguments]
    constructor
    · intro herror
      obtain ⟨hgiven, heq⟩ | ⟨-, hok⟩ := herror
      · exact Except.error.inj heq ▸ .repeatedLifetime hgiven
      · cases hok
    · intro hoffends
      cases hoffends with
      | repeatedLifetime hgiven => exact .inl ⟨hgiven, rfl⟩
  | assigned name type =>
    by_cases hname : name = "key"
    · subst hname
      rw [take, if_neg (by simp), ite_eq_iff, isSome_key_ofArguments h]
      constructor
      · intro herror
        obtain ⟨hgiven, heq⟩ | ⟨-, hok⟩ := herror
        · exact Except.error.inj heq ▸ .repeatedKey hgiven
        · cases hok
      · intro hoffends
        cases hoffends with
        | unknown hname => exact absurd rfl hname
        | repeatedKey hgiven => exact .inl ⟨hgiven, rfl⟩
    · rw [take, if_pos (by simpa using hname)]
      constructor
      · intro herror
        cases herror
        exact .unknown hname
      · intro hoffends
        cases hoffends with
        | unknown => rfl
        | repeatedKey => exact absurd rfl hname

/-- An argument is taken if the arguments with it keep the rules. -/
theorem take_eq_ok (h : Admissible before) : (ofArguments before).take arg = .ok m ↔
    Admissible (before ++ [arg]) ∧ ofArguments (before ++ [arg]) = m := by
  cases arg with
  | lifetime name =>
    have hnames : lifetimes [.lifetime name] = [name] := rfl
    have htypes : types [.lifetime name] = [] := rfl
    have hadmissible : Admissible (before ++ [.lifetime name]) ↔ lifetimes before = [] := by
      constructor
      · intro hall
        have := hall.lifetimes
        rw [lifetimes_append, hnames, List.length_append, List.length_singleton] at this
        exact List.eq_nil_of_length_eq_zero (by omega)
      · intro hnone
        refine ⟨fun name' type hmem => h.named name' type ?_, ?_, ?_⟩
        · simpa using hmem
        · rw [lifetimes_append, hnone, hnames, List.nil_append, List.length_singleton]
        · rw [types_append, htypes, List.append_nil]
          exact h.types
    rw [take, ofArguments, ofArguments, hadmissible, lifetimes_append, types_append, hnames, htypes]
    cases lifetimes before <;> simp
  | assigned name type =>
    have hnames : lifetimes [.assigned name type] = [] := rfl
    have htypes : types [.assigned name type] = [type] := rfl
    have hadmissible : Admissible (before ++ [.assigned name type]) ↔ name = "key" ∧ types before = [] := by
      constructor
      · intro hall
        have := hall.types
        rw [types_append, htypes, List.length_append, List.length_singleton] at this
        exact ⟨hall.named name type (by simp), List.eq_nil_of_length_eq_zero (by omega)⟩
      · intro ⟨hname, hnone⟩
        refine ⟨fun name' type' hmem => ?_, ?_, ?_⟩
        · rw [List.mem_append, List.mem_singleton, MarkerArgument.assigned.injEq] at hmem
          obtain hmem | ⟨rfl, -⟩ := hmem
          · exact h.named name' type' hmem
          · exact hname
        · rw [lifetimes_append, hnames, List.append_nil]
          exact h.lifetimes
        · rw [types_append, hnone, htypes, List.nil_append, List.length_singleton]
    rw [take, ofArguments, ofArguments, hadmissible, lifetimes_append, types_append, hnames, htypes]
    by_cases hname : name = "key" <;> cases types before <;> simp [hname]

/-- All arguments are taken if they keep the rules. -/
theorem foldlM_take_eq_ok (h : Admissible before) : args.foldlM take (ofArguments before) = .ok m ↔
    Admissible (before ++ args) ∧ ofArguments (before ++ args) = m := by
  induction args generalizing before with
  | nil => simp [h, pure, Except.pure]
  | cons arg args ih =>
    rw [List.foldlM_cons, bind_eq_ok, List.append_cons]
    constructor
    · intro ⟨m', htake, hrest⟩
      obtain ⟨hadmissible, rfl⟩ := (take_eq_ok h).mp htake
      exact (ih hadmissible).mp hrest
    · intro hall
      have hadmissible := hall.1.of_append
      exact ⟨_, (take_eq_ok h).mpr ⟨hadmissible, rfl⟩, (ih hadmissible).mpr hall⟩

/-- The first argument that breaks a rule is the one that is not taken. -/
theorem foldlM_take_eq_error (h : Admissible before) :
    args.foldlM take (ofArguments before) = .error e ↔ FirstOffence Offends before args e := by
  induction args generalizing before with
  | nil => simp [not_firstOffence_nil, pure, Except.pure]
  | cons arg args ih =>
    rw [List.foldlM_cons, firstOffence_cons, ← take_eq_error h]
    cases htake : (ofArguments before).take arg with
    | error e' =>
      have hoffends : ¬ ∀ e, ¬ Offends before arg e := fun hnone => hnone e' ((take_eq_error h).mp htake)
      simp [hoffends, bind, Except.bind]
    | ok m =>
      obtain ⟨hadmissible, rfl⟩ := (take_eq_ok h).mp htake
      have hnone : ∀ e, ¬ Offends before arg e := fun e he => by
        rw [(take_eq_error h).mpr he] at htake
        cases htake
      simpa [hnone, bind, Except.bind] using ih hadmissible

end Marker

/-! ### Reading arguments -/

section reading

variable {trees x front rest : List Tree} {args : List MarkerArgument} {arg : MarkerArgument} {m m' : Marker}
  {word : String} {joint : Bool} {level fuel : Nat}

theorem refines_type (s : Nat) (g h : Grammar) (_ : g.PartsRefine s h) : Parser.Refines s (g.type true) (h.type true) :=
  inferInstance

/-- An argument before a comma or the end is read and taken. -/
theorem argument_written (h : Written x arg) (hrest : IsEnd rest) (hlevel : 4 * size x + 4 ≤ level) :
    ∃ word front, x = .ident word :: front ∧ word ∉ reservedWords ∧
      markerArgumentsUpTo.argument (.upTo level) m word (front ++ rest) = (m.take arg).map (·, rest) := by
  cases h with
  | @lifetime name hname =>
    refine ⟨name, [], rfl, hname, ?_⟩
    have hmark : afterMarks ['='] rest = none := afterMarks_of_isEnd (by decide) hrest
    simp only [markerArgumentsUpTo.argument, List.nil_append, hmark, Marker.take]
    split <;> rfl
  | @assigned name trees type joint hname htype =>
    refine ⟨name, _, rfl, hname, ?_⟩
    have hmark : afterMarks ['='] (.token (.punct '=' joint) :: (trees ++ rest)) = some (trees ++ rest) :=
      Parser.afterMarks_singleton.mpr ⟨joint, rfl⟩
    obtain ⟨n, hn⟩ := (Grammar.readTrees?_eq_some refines_type).mp htype
    have hread : (Grammar.upTo level).type true (trees ++ rest) = some (type, rest) := by
      simp only [size, Tree.size] at hlevel
      exact (Grammar.type_append_iff hrest).mpr (Grammar.upTo_eq_some refines_type (by omega) hn)
    simp only [markerArgumentsUpTo.argument, List.cons_append, hmark, hread, Marker.take]
    split
    · rfl
    · split <;> rfl

/-- What is read and taken before a comma or the end is an argument. -/
theorem exists_written_of_argument (hword : word ∉ reservedWords) (hrest : IsEnd rest)
    (h : markerArgumentsUpTo.argument (.upTo level) m word front = .ok (m', rest)) :
    ∃ x arg, .ident word :: front = x ++ rest ∧ Written x arg ∧ m.take arg = .ok m' := by
  unfold markerArgumentsUpTo.argument at h
  split at h
  next after hmark =>
    obtain ⟨joint, rfl⟩ := Parser.afterMarks_singleton.mp hmark
    split at h
    · cases h
    next hname =>
      split at h
      · cases h
      next hkey =>
        split at h
        next type rest' hread =>
          cases h
          obtain ⟨trees, rfl⟩ := Grammar.suffix_of_type hread
          have htype := (Grammar.readTrees?_eq_some refines_type).mpr ⟨level, (Grammar.type_append_iff hrest).mp hread⟩
          exact ⟨_, _, rfl, .assigned joint hword htype, by simp [Marker.take, hname, hkey]⟩
        next => cases h
  next =>
    split at h
    · cases h
    next hlifetime =>
      cases h
      exact ⟨_, _, rfl, .lifetime hword, by simp [Marker.take, hlifetime]⟩

theorem markerArgumentsUpTo_append (h : Written x arg) (hrest : IsEnd rest) (hlevel : 4 * size x + 4 ≤ level) :
    markerArgumentsUpTo (.upTo level) m (fuel + 1) (x ++ rest) = m.take arg >>= fun m =>
      if rest.isEmpty then .ok m
      else
        match afterMarks [','] rest with
        | some rest => markerArgumentsUpTo (.upTo level) m fuel rest
        | none => .error .malformed := by
  obtain ⟨word, front, rfl, hword, hargument⟩ := argument_written (m := m) h hrest hlevel
  have hname : Parser.name (.ident word :: (front ++ rest)) = some (word, front ++ rest) :=
    Parser.name_eq_some.mpr ⟨rfl, hword⟩
  rw [List.cons_append, markerArgumentsUpTo, hname, if_neg (by simp)]
  simp only [hargument]
  cases m.take arg <;> rfl

/-- Arguments are read by taking one after the other. -/
theorem markerArgumentsUpTo_listed (h : Listed trees args) (hlevel : 4 * size trees + 4 ≤ level)
    (hfuel : trees.length < fuel) :
    markerArgumentsUpTo (.upTo level) m fuel trees = args.foldlM Marker.take m := by
  induction fuel generalizing m trees args with
  | zero => exact absurd hfuel (Nat.not_lt_zero _)
  | succ fuel ih =>
    obtain ⟨rfl, rfl⟩ | ⟨arg, hx, rfl⟩ | ⟨x, arg, joint, more, others, rfl, rfl, hx, hs⟩ := listed_iff.mp h
    · rfl
    · rw [← List.append_nil trees, markerArgumentsUpTo_append hx (.inl rfl) hlevel, List.foldlM_cons]
      rfl
    · have hend : IsEnd (comma joint :: more) := .inr ⟨joint, more, rfl⟩
      have hcomma : afterMarks [','] (comma joint :: more) = some more := Parser.afterMarks_singleton.mpr ⟨joint, rfl⟩
      rw [size_append, comma, size, Tree.size] at hlevel
      rw [List.length_append, List.length_cons] at hfuel
      rw [markerArgumentsUpTo_append hx hend (by omega), List.foldlM_cons, hcomma]
      simp only [List.isEmpty_cons, Bool.false_eq_true, if_false]
      congr
      ext m : 1
      exact ih hs (by omega) (by omega)

/-- What is read as a marker is a list of arguments, of which each was taken. -/
theorem exists_listed_of_markerArgumentsUpTo (h : markerArgumentsUpTo (.upTo level) m fuel trees = .ok m') :
    ∃ args, Listed trees args ∧ args.foldlM Marker.take m = .ok m' := by
  induction fuel generalizing m trees with
  | zero => cases h
  | succ fuel ih =>
    rw [markerArgumentsUpTo] at h
    split at h
    next hempty =>
      cases h
      exact ⟨[], List.isEmpty_iff.mp hempty ▸ .none, rfl⟩
    next =>
      split at h
      · cases h
      next word front hname =>
        obtain ⟨rfl, hword⟩ := Parser.name_eq_some.mp hname
        obtain ⟨⟨middle, rest⟩, hargument, h⟩ := bind_eq_ok.mp h
        dsimp only at h
        split at h
        next hempty =>
          cases h
          obtain rfl := List.isEmpty_iff.mp hempty
          obtain ⟨x, arg, htrees, hwritten, htake⟩ := exists_written_of_argument hword (.inl rfl) hargument
          rw [List.append_nil] at htrees
          exact ⟨[arg], htrees ▸ .plain (.one hwritten), by rw [List.foldlM_cons, htake]; rfl⟩
        next =>
          split at h
          next more hcomma =>
            obtain ⟨joint, rfl⟩ := Parser.afterMarks_singleton.mp hcomma
            obtain ⟨x, arg, htrees, hwritten, htake⟩ :=
              exists_written_of_argument hword (.inr ⟨joint, more, rfl⟩) hargument
            obtain ⟨args, hlisted, hfold⟩ := ih h
            refine ⟨arg :: args, ?_, by rw [List.foldlM_cons, htake]; exact hfold⟩
            exact listed_iff.mpr (.inr (.inr ⟨x, arg, joint, more, args, htrees, rfl, hwritten, hlisted⟩))
          next => cases h

/-- **Arguments make a marker by being taken one after the other.** -/
theorem markerArguments_listed (h : Listed trees args) :
    markerArguments trees = args.foldlM Marker.take (.ofArguments []) :=
  markerArgumentsUpTo_listed h (by omega) (Nat.lt_succ_self _)

theorem exists_listed_of_markerArguments (h : markerArguments trees = .ok m) :
    ∃ args, Listed trees args ∧ args.foldlM Marker.take (.ofArguments []) = .ok m :=
  exists_listed_of_markerArgumentsUpTo h

end reading

/-! ### The grammar -/

section grammar

variable {args args' : List MarkerArgument}

theorem head?_eq_of_perm {α : Type} {xs ys : List α} (h : xs.Perm ys) (hlength : xs.length ≤ 1) :
    xs.head? = ys.head? := by
  cases xs with
  | nil => rw [List.nil_perm.mp h]
  | cons x xs =>
    obtain rfl : xs = [] := List.eq_nil_of_length_eq_zero (by simpa using hlength)
    rw [List.singleton_perm.mp h]

/-- The rules do not depend on the order of the arguments. -/
theorem MarkerArgument.Admissible.perm (h : Admissible args) (hperm : args.Perm args') : Admissible args' where
  named name type hmem := h.named name type (hperm.mem_iff.mpr hmem)
  lifetimes := (hperm.filterMap _).length_eq ▸ h.lifetimes
  types := (hperm.filterMap _).length_eq ▸ h.types

/-- The order of arguments that keep the rules does not matter. -/
theorem Marker.ofArguments_perm (h : Admissible args) (hperm : args.Perm args') :
    Marker.ofArguments args = Marker.ofArguments args' := by
  rw [ofArguments, ofArguments]
  congr 1
  · exact head?_eq_of_perm (hperm.filterMap _) h.lifetimes
  · exact head?_eq_of_perm (hperm.filterMap _) h.types

theorem markerArguments_eq_ok {trees : List Tree} {m : Marker} : markerArguments trees = .ok m ↔
    ∃ args, Listed trees args ∧ Admissible args ∧ Marker.ofArguments args = m := by
  constructor
  · intro h
    obtain ⟨args, hlisted, htaken⟩ := exists_listed_of_markerArguments h
    exact ⟨args, hlisted, (Marker.foldlM_take_eq_ok .nil).mp htaken⟩
  · intro ⟨args, hlisted, hmarker⟩
    rw [markerArguments_listed hlisted]
    exact (Marker.foldlM_take_eq_ok .nil).mpr hmarker

/-- Arguments in another order, with or without a last comma, make the same marker. -/
theorem markerArguments_perm {trees trees' : List Tree} {m : Marker} (hlisted : Listed trees args)
    (hlisted' : Listed trees' args') (hperm : args.Perm args') (h : markerArguments trees = .ok m) :
    markerArguments trees' = .ok m := by
  rw [markerArguments_listed hlisted] at h
  obtain ⟨hadmissible, hmarker⟩ := (Marker.foldlM_take_eq_ok .nil).mp h
  refine markerArguments_eq_ok.mpr ⟨args', hlisted', hadmissible.perm hperm, ?_⟩
  rw [← Marker.ofArguments_perm hadmissible hperm]
  exact hmarker

end grammar

/-- **Markers have a grammar.** What stands in the brackets is read just where it is a list of arguments that keep the
rules, and then it makes the marker with the lifetime and the type that are there. Arguments that break a rule are
refused with the error of the first that does. Arguments in another order make the same marker, and a last comma changes
nothing at all. -/
theorem Marker.ofAttribute_grammar (path : List Tree) (d : Delimiter) :
    (∀ trees m, Marker.ofAttribute ⟨path, .list d trees⟩ = .ok m ↔
      ∃ args, Listed trees args ∧ Admissible args ∧ Marker.ofArguments args = m) ∧
    (∀ trees args, Listed trees args → ∀ e,
      Marker.ofAttribute ⟨path, .list d trees⟩ = .error e ↔ FirstOffence Offends [] args e) ∧
    (∀ trees trees' args args', Listed trees args → Listed trees' args' → args.Perm args' → ∀ m,
      Marker.ofAttribute ⟨path, .list d trees⟩ = .ok m ↔ Marker.ofAttribute ⟨path, .list d trees'⟩ = .ok m) ∧
    ∀ trees args joint, Separated trees args →
      Marker.ofAttribute ⟨path, .list d (trees ++ [comma joint])⟩ = Marker.ofAttribute ⟨path, .list d trees⟩ := by
  refine ⟨fun trees m => markerArguments_eq_ok, fun trees args hlisted e => ?_,
    fun trees trees' args args' hlisted hlisted' hperm m => ?_, fun trees args joint hseparated => ?_⟩
  · change markerArguments trees = .error e ↔ _
    rw [markerArguments_listed hlisted]
    exact Marker.foldlM_take_eq_error .nil
  · exact ⟨markerArguments_perm hlisted hlisted' hperm, markerArguments_perm hlisted' hlisted hperm.symm⟩
  · change markerArguments (trees ++ [comma joint]) = markerArguments trees
    rw [markerArguments_listed (.trailing hseparated joint), markerArguments_listed (.plain hseparated)]

namespace Sample

/-- The type `dyn Greeter`. -/
def greeterType : Tree :=
  .phrase .object [.ident "dyn", .phrase .traitBound [.phrase .segment [.ident "Greeter"]]]

/-- The type `dyn Greeter` after `=` and a name. -/
def greeterTrees (name : String) : List Tree :=
  [.ident name, .token (.punct '=' false), .ident "dyn", .ident "Greeter"]

theorem greeterTrees_written {name : String} (hname : name ∉ reservedWords) :
    Written (greeterTrees name) (.assigned name ⟨greeterType⟩) := .assigned false hname (by cbv)

end Sample

open Sample in
/-- `singleton, key = dyn Greeter` in both orders, and `scoped, name = dyn Greeter, pooled`, of which the second
argument is refused, though the third breaks a rule too. -/
theorem Marker.ofAttribute_grammar_greeter :
    Marker.ofAttribute ⟨[.ident "service"], .list .paren (.ident "singleton" :: comma false :: greeterTrees "key")⟩ =
      .ok ⟨some "singleton", some ⟨greeterType⟩⟩ ∧
    Marker.ofAttribute ⟨[.ident "service"], .list .paren (greeterTrees "key" ++ comma false :: [.ident "singleton"] ++
      [comma false])⟩ = .ok ⟨some "singleton", some ⟨greeterType⟩⟩ ∧
    Marker.ofAttribute ⟨[.ident "service"], .list .paren (.ident "scoped" :: comma false :: (greeterTrees "name" ++
      [comma false, .ident "pooled"]))⟩ = .error (.unknownMarkerArgument "name") := by
  obtain ⟨hok, herror, hperm, hlast⟩ := Marker.ofAttribute_grammar [.ident "service"] .paren
  have hlifetime (name : String) (hname : name ∉ reservedWords) : Separated [.ident name] [.lifetime name] :=
    .one (.lifetime hname)
  have hkey : Written (greeterTrees "key") _ := greeterTrees_written (by decide)
  have hfirst : Separated (.ident "singleton" :: comma false :: greeterTrees "key") _ :=
    .more (.lifetime (by decide)) false (.one hkey)
  have hsecond := Separated.more hkey false (hlifetime "singleton" (by decide))
  have hmarker := (hok _ _).mpr ⟨_, .plain hfirst, ⟨by simp, by decide, by decide⟩, rfl⟩
  refine ⟨hmarker, ?_, ?_⟩
  · rw [hlast _ _ false hsecond]
    exact (hperm _ _ _ _ (.plain hfirst) (.plain hsecond) (.swap _ _ _) _).mp hmarker
  · have hthird : Separated (.ident "scoped" :: comma false :: (greeterTrees "name" ++ [comma false, .ident "pooled"])) _ :=
      .more (.lifetime (by decide)) false (.more (greeterTrees_written (by decide)) false (hlifetime _ (by decide)))
    refine (herror _ _ (.plain hthird) _).mpr (firstOffence_cons.mpr (.inr ⟨?_, ?_⟩))
    · intro e hoffends
      cases hoffends with
      | repeatedLifetime hgiven =>
        obtain ⟨given, hmem⟩ := hgiven
        cases hmem
    · exact firstOffence_cons.mpr (.inl (.unknown (by decide)))

end ServiceContainer
