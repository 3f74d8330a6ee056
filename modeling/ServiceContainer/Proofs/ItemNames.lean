import ServiceContainer.Proofs.Names
import ServiceContainer.Syntax.Reader

/-!
# Names of definitions

The definitions in a module have names that are no reserved words; in particular none is named `Self`.

## Main definitions

* `Parser.Yields` — everything that a parser reads has a property
* `Read` — the items of a module or of a file

## Main statements

* `not_reserved_of_read` — the definitions among items that were read
-/

namespace ServiceContainer.Syntax

namespace Parser

variable {α β : Type} {P : α → Prop} {Q : β → Prop}

/-- Everything that the parser reads has the property. -/
def Yields (p : Parser α) (P : α → Prop) : Prop := ∀ front x rest, p front = some (x, rest) → P x

theorem Yields.pure {x : α} (h : P x) : Yields (pure x) P := by
  intro front y rest hread
  obtain ⟨rfl, -⟩ := pure_eq_some.mp hread
  exact h

theorem Yields.failure : Yields failure P := fun _ _ _ hread => nomatch hread

theorem Yields.bind {p : Parser α} {f : α → Parser β} (hp : p.Yields P) (hf : ∀ x, P x → (f x).Yields Q) :
    Yields (p >>= f) Q := by
  intro front y rest hread
  obtain ⟨x, middle, hx, hy⟩ := bind_eq_some.mp hread
  exact hf x (hp front x middle hx) middle y rest hy

/-- What is read first may be anything. -/
theorem Yields.after {p : Parser α} {f : α → Parser β} (hf : ∀ x, (f x).Yields Q) : Yields (p >>= f) Q :=
  Yields.bind (P := fun _ => True) (fun _ _ _ _ => trivial) fun x _ => hf x

theorem Yields.ite {c : Prop} [Decidable c] {p q : Parser α} (hp : c → p.Yields P) (hq : ¬ c → q.Yields P) :
    Yields (if c then p else q) P := by
  split
  next hc => exact hp hc
  next hc => exact hq hc

/-- What is read in one of two ways may be anything. -/
theorem Yields.choose {c : Prop} [Decidable c] {p q : Parser α} {f : α → Parser β} (hf : ∀ x, (f x).Yields Q) :
    Yields (if c then p >>= f else q >>= f) Q :=
  Yields.ite (fun _ => Yields.after hf) fun _ => Yields.after hf

end Parser

/-- A definition has a name that is no reserved word. -/
def Item.IsNamed : Item → Prop
  | .definition d => d.name ∉ reservedWords
  | _ => True

theorem Parser.yields_name : Parser.name.Yields (· ∉ reservedWords) :=
  fun _ _ _ hread => (Parser.name_eq_some.mp hread).2

namespace Grammar

open Syntax.Parser

variable (g : Grammar) (attributes : List Attribute)

theorem yields_structItem : (g.structItem attributes).Yields Item.IsNamed := by
  unfold structItem
  refine Yields.after fun lead => Yields.bind yields_name fun name hname => Yields.after fun generics => ?_
  refine Yields.after fun early => Yields.after fun trees => Yields.ite (fun _ => ?_) fun _ => Yields.ite ?_ ?_
  · -- Conditions before the fields of a tuple end it.
    refine Yields.ite (fun _ => Yields.bind (P := fun _ => False) Yields.failure fun _ h => h.elim) fun _ => ?_
    exact Yields.after fun fields => Yields.after fun late => Yields.after fun semi => Yields.pure hname
  · exact fun _ => Yields.after fun fields => Yields.pure hname
  · exact fun _ => Yields.after fun semi => Yields.pure hname

theorem yields_enumItem : (g.enumItem attributes).Yields Item.IsNamed := by
  unfold enumItem
  refine Yields.after fun lead => Yields.bind yields_name fun name hname => Yields.after fun generics => ?_
  exact Yields.after fun conditions => Yields.after fun variants => Yields.pure hname

theorem yields_traitItem : (g.traitItem attributes).Yields Item.IsNamed := by
  unfold traitItem
  refine Yields.after fun view => Yields.after fun modifiers => Yields.after fun lead => ?_
  refine Yields.bind yields_name fun name hname => Yields.after fun generics => Yields.after fun trees => ?_
  refine Yields.ite (fun _ => ?_) fun _ => Yields.after fun trees => ?_
  · refine Yields.after fun sign => Yields.after fun bounds => Yields.after fun conditions => ?_
    exact Yields.after fun semi => Yields.pure trivial
  · have hbody : ∀ bounds : List Tree, Yields (do
        let conditions ← g.whereClause
        let inside ← within .brace do
          let inner ← g.innerAttributes
          return (inner, (← untilEnd g.traitMember).flatten)
        return .definition ⟨attributes ++ inside.1, .trait, name, generics.1, false,
          (view ++ modifiers ++ lead ++ Tree.ident name :: generics.2) ++ bounds ++ conditions, some inside.2⟩)
        Item.IsNamed :=
      fun bounds => Yields.after fun conditions => Yields.after fun body => Yields.pure hname
    refine Yields.ite (fun _ => ?_) fun _ => Yields.after hbody
    exact Yields.after fun colon => Yields.after fun bounds => Yields.after hbody

theorem yields_implementationItem (start : List Tree) :
    (g.implementationItem start attributes).Yields Item.IsNamed := by
  unfold implementationItem
  -- Each way through it ends with an item that is no definition.
  repeat' first
    | exact Yields.pure trivial
    | refine Yields.ite (fun _ => ?_) fun _ => ?_
    | refine Yields.after fun _ => ?_

theorem yields_itemOf : g.itemOf.Yields Item.IsNamed := by
  unfold itemOf
  refine Yields.after fun start => Yields.after fun attributes => Yields.after fun trees => ?_
  have hkept : ∀ p : Parser (Option (List Tree)), Yields (do
      let x ← p
      let y ← orSince start (x.map (outerTrees attributes ++ ·))
      return Item.other y) Item.IsNamed :=
    fun p => Yields.after fun x => Yields.after fun y => Yields.pure trivial
  refine Yields.ite (fun _ => ?_) fun _ => Yields.ite (fun _ => ?_) fun _ => ?_
  · exact Yields.after fun view => Yields.after fun f => Yields.after fun kept => Yields.pure trivial
  · refine Yields.ite (fun _ => hkept _) fun _ => Yields.ite (fun _ => ?_) fun _ => Yields.failure
    exact Yields.after fun trees => Yields.pure trivial
  refine Yields.ite (fun _ => hkept _) fun _ => Yields.ite (fun _ => hkept _) fun _ => ?_
  refine Yields.ite (fun _ => hkept _) fun _ => Yields.ite (fun _ => ?_) fun _ => ?_
  · refine Yields.ite (fun _ => g.yields_traitItem attributes) fun _ => ?_
    refine Yields.ite (fun _ => g.yields_implementationItem attributes start) fun _ => ?_
    refine Yields.ite (fun _ => ?_) fun _ => Yields.ite (fun _ => ?_) fun _ => Yields.failure
    · exact Yields.after fun trees => Yields.pure trivial
    · exact Yields.after fun m => Yields.pure trivial
  refine Yields.ite (fun _ => Yields.after fun m => Yields.pure trivial) fun _ => ?_
  refine Yields.ite (fun _ => hkept _) fun _ => ?_
  refine Yields.ite (fun _ => g.yields_structItem attributes) fun _ => ?_
  refine Yields.ite (fun _ => g.yields_enumItem attributes) fun _ => ?_
  refine Yields.ite (fun _ => hkept _) fun _ => ?_
  refine Yields.ite (fun _ => g.yields_traitItem attributes) fun _ => ?_
  refine Yields.ite (fun _ => g.yields_implementationItem attributes start) fun _ => ?_
  refine Yields.ite (fun _ => hkept _) fun _ => Yields.ite (fun _ => hkept _) fun _ => Yields.failure

end Grammar

/-! ### Items that were read -/

section

open Syntax.Parser

variable {α : Type} {P : α → Prop} {p : Parser α}

theorem Parser.Yields.repeatUpTo (h : p.Yields P) (more : List Tree → Bool) (fuel : Nat) :
    Yields (repeatUpTo p more fuel) fun xs => ∀ x ∈ xs, P x := by
  induction fuel with
  | zero => exact Yields.failure
  | succ fuel ih =>
    refine Yields.after fun trees => Yields.ite (fun _ => ?_) fun _ => Yields.pure fun x hx => nomatch hx
    exact Yields.bind h fun x hx => Yields.bind ih fun xs hxs => Yields.pure (List.forall_mem_cons.mpr ⟨hx, hxs⟩)

theorem Parser.Yields.untilEnd (h : p.Yields P) : Yields (untilEnd p) fun xs => ∀ x ∈ xs, P x :=
  Yields.after fun _ => h.repeatUpTo _ _

theorem Parser.Yields.of_onAll (h : p.Yields P) {trees : List Tree} {x : α} (hread : onAll p trees = some x) : P x := by
  obtain ⟨⟨y, rest⟩, hp, hend⟩ := Option.bind_eq_some_iff.mp hread
  rw [Option.ite_none_right_eq_some, Option.some.injEq] at hend
  exact hend.2 ▸ h trees y rest hp

theorem Parser.Yields.within (h : p.Yields P) (d : Delimiter) : Yields (within d p) P := by
  refine Yields.after fun inner front x rest hread => ?_
  obtain ⟨y, hy, hlift⟩ := Option.bind_eq_some_iff.mp hread
  cases hlift
  exact h.of_onAll hy

theorem Grammar.yields_moduleItem (g : Grammar) (hitem : g.item.Yields Item.IsNamed) :
    g.moduleItem.Yields fun m => ∀ items, m.items = some items → ∀ i ∈ items, i.IsNamed := by
  refine Yields.after fun attributes => ?_
  unfold moduleAfter
  refine Yields.after fun lead => Yields.after fun trees => Yields.choose fun name => ?_
  refine Yields.after fun trees => Yields.ite (fun _ => Yields.after fun semi => Yields.pure nofun) fun _ => ?_
  have hinside : Yields (do
      let inner ← g.innerAttributes
      return (inner, ← untilEnd g.item)) fun x => ∀ i ∈ x.2, i.IsNamed :=
    Yields.after fun inner => Yields.bind hitem.untilEnd fun items hitems => Yields.pure hitems
  refine Yields.bind (hinside.within .brace) fun x hx => Yields.pure fun items hitems => ?_
  cases hitems
  exact hx

theorem yields_fileItems (g : Grammar) (hitem : g.item.Yields Item.IsNamed) :
    (fileItems g).Yields fun items => ∀ i ∈ items, i.IsNamed :=
  Yields.after fun _ => hitem.untilEnd

theorem Grammar.yields_item (n : Nat) : (Grammar.upTo n).item.Yields Item.IsNamed := by
  cases n with
  | zero => exact Yields.failure
  | succ n => exact (Grammar.upTo n).yields_itemOf

end

/-- The items are those of a module or of a file that was read. -/
inductive Read : List Item → Prop
  | module {trees : List Tree} {m : ModuleItem} {items : List Item} (h : readModule? trees = some m)
    (hitems : m.items = some items) : Read items
  | file {text : String} {items : List Item} (h : readItems? text = some items) : Read items

/-- A definition that was read has a name that is no reserved word. -/
theorem not_reserved_of_read {items : List Item} (h : Read items) {d : Definition} (hd : .definition d ∈ items) :
    d.name ∉ reservedWords := by
  suffices hitems : ∀ i ∈ items, i.IsNamed from hitems _ hd
  cases h with
  | module h hsome => exact (Grammar.yields_moduleItem _ (Grammar.yields_item _)).of_onAll h items hsome
  | file h =>
    obtain ⟨trees, -, hread⟩ := Option.bind_eq_some_iff.mp h
    exact (yields_fileItems _ (Grammar.yields_item _)).of_onAll hread

end ServiceContainer.Syntax
