import ServiceContainer.Proofs.Attempt
import ServiceContainer.World.Scope

/-!
# What a handle is put together from

Scopes and compositions answer nothing themselves: a handle asks the providers inside them one after another, and the
first answer that is an instance or a refusal is its own. So handles with the same providers inside, in the same order,
answer alike, however they are grouped. A request does not depend on scopes either, and ends none.

## Main definitions

* `Handle.bases` — the providers that a handle asks one after another
* `FirstAnswer` — the first answer of some handles that is one
* `Attempt.Blind` — a computation that neither reads nor changes what scopes there are

## Main statements

* `askParts_iff_firstAnswer` — what a composition answers
* `Handle.lookup_eq` — handles with the same bases answer alike
* `Handle.blind_lookup` — a request does not depend on scopes
-/

namespace ServiceContainer

/-! ### The providers inside -/

mutual

/-- The providers that a handle asks one after another, without the scopes and compositions around them. -/
def Handle.bases : Handle → List Handle
  | .root a store => [.root a store]
  | .scoped a parent store => [.scoped a parent store]
  | .scope _ _ inner => inner.bases
  | .composed parts => basesOf parts
  | .foreign f => [.foreign f]

/-- The providers that some handles ask one after another. -/
def basesOf : List Handle → List Handle
  | [] => []
  | h :: rest => h.bases ++ basesOf rest

end

theorem basesOf_append (hs gs : List Handle) : basesOf (hs ++ gs) = basesOf hs ++ basesOf gs := by
  induction hs with
  | nil => rfl
  | cons h rest ih => rw [List.cons_append, basesOf, basesOf, ih, List.append_assoc]

theorem servicesOf_append (hs gs : List Handle) : servicesOf (hs ++ gs) = servicesOf hs + servicesOf gs := by
  induction hs with
  | nil => rw [List.nil_append, servicesOf, Nat.zero_add]
  | cons h rest ih => rw [List.cons_append, servicesOf, servicesOf, ih, Nat.add_assoc]

mutual

theorem Handle.services_eq : ∀ h : Handle, h.services = servicesOf h.bases
  | .root _ _ => rfl
  | .scoped _ _ _ => rfl
  | .scope _ _ inner => by rw [Handle.services, Handle.bases, Handle.services_eq inner]
  | .composed parts => by rw [Handle.services, Handle.bases, servicesOf_bases parts]
  | .foreign _ => rfl

theorem servicesOf_bases : ∀ hs : List Handle, servicesOf hs = servicesOf (basesOf hs)
  | [] => rfl
  | h :: rest => by rw [servicesOf, basesOf, servicesOf_append, Handle.services_eq h, servicesOf_bases rest]

end

/-! ### The first answer -/

section

variable {make : Maker} {type : String} {w v w' : World} {r : Except DependencyError (Option Delivery)}

/-- What the handles answer when they are asked in order: the first instance, unless one of them refuses before, and
nothing if all answer with nothing. -/
inductive FirstAnswer (make : Maker) (type : String) :
    List Handle → World → Except DependencyError (Option Delivery) → World → Prop where
  | nothing {w : World} : FirstAnswer make type [] w (.ok none) w
  | later {h : Handle} {rest : List Handle} {w v w' : World} {r : Except DependencyError (Option Delivery)}
    (first : (h.askWith make type).run w = some (.ok none, v)) (others : FirstAnswer make type rest v r w') :
    FirstAnswer make type (h :: rest) w r w'
  | found {h : Handle} {rest : List Handle} {w v : World} {d : Delivery}
    (first : (h.askWith make type).run w = some (.ok (some d), v)) :
    FirstAnswer make type (h :: rest) w (.ok (some d)) v
  | refused {h : Handle} {rest : List Handle} {w v : World} {e : DependencyError}
    (first : (h.askWith make type).run w = some (.error e, v)) : FirstAnswer make type (h :: rest) w (.error e) v

/-- A composition answers with the first answer of its parts. -/
theorem askParts_iff_firstAnswer {hs : List Handle} :
    (askParts make hs type).run w = some (r, w') ↔ FirstAnswer make type hs w r w' := by
  induction hs generalizing w with
  | nil =>
    rw [askParts]
    constructor
    · intro h
      obtain ⟨rfl, rfl⟩ := Prod.mk.inj (Option.some.inj h)
      exact .nothing
    · intro h
      cases h
      rfl
  | cons h rest ih =>
    rw [askParts, Attempt.run_bind]
    constructor
    · intro hrun
      obtain ⟨⟨r₁, v⟩, hfirst, hrest⟩ := Option.bind_eq_some_iff.mp hrun
      obtain e | _ | d := r₁
      · obtain ⟨rfl, rfl⟩ := Prod.mk.inj (Option.some.inj hrest)
        exact .refused hfirst
      · exact .later hfirst (ih.mp hrest)
      · obtain ⟨rfl, rfl⟩ := Prod.mk.inj (Option.some.inj hrest)
        exact .found hfirst
    · intro hanswer
      cases hanswer with
      | later first others =>
        rw [first]
        exact ih.mpr others
      | found first | refused first =>
        rw [first]
        rfl

theorem askParts_append (make : Maker) (hs gs : List Handle) (type : String) : askParts make (hs ++ gs) type =
    askParts make hs type >>= fun answer =>
      match answer with
      | some d => pure (some d)
      | none => askParts make gs type := by
  induction hs with
  | nil =>
    rw [List.nil_append, askParts, pure_bind]
  | cons h rest ih =>
    rw [List.cons_append, askParts, askParts, ih, bind_assoc]
    congr 1
    funext answer
    cases answer with
    | none => rfl
    | some d => rw [pure_bind]

theorem askParts_singleton (make : Maker) (h : Handle) (type : String) :
    askParts make [h] type = h.askWith make type := by
  have heta : (fun answer : Option Delivery => (match answer with
      | some d => pure (some d)
      | none => askParts make [] type : Attempt (Option Delivery))) = pure := by
    funext answer
    cases answer <;> rfl
  rw [askParts]
  exact (congrArg (h.askWith make type >>= ·) heta).trans (bind_pure _)

mutual

/-- A handle answers with the first answer of the providers inside. -/
theorem Handle.askWith_eq (make : Maker) : ∀ (h : Handle) (type : String),
    h.askWith make type = askParts make h.bases type
  | .root _ _, type => (askParts_singleton make _ type).symm
  | .scoped _ _ _, type => (askParts_singleton make _ type).symm
  | .scope _ _ inner, type => by rw [Handle.askWith, Handle.bases, Handle.askWith_eq make inner type]
  | .composed parts, type => by rw [Handle.askWith, Handle.bases, askParts_eq make parts type]
  | .foreign _, type => (askParts_singleton make _ type).symm

theorem askParts_eq (make : Maker) : ∀ (hs : List Handle) (type : String),
    askParts make hs type = askParts make (basesOf hs) type
  | [], _ => rfl
  | h :: rest, type => by
    have happend := askParts_append make h.bases (basesOf rest) type
    rw [← Handle.askWith_eq make h type, ← askParts_eq make rest type] at happend
    exact happend.symm

end

/-- Handles with the same providers inside answer alike. -/
theorem Handle.lookup_eq {h g : Handle} (heq : h.bases = g.bases) : h.lookup = g.lookup := by
  funext type
  rw [Handle.lookup, Handle.lookup, ask, ask, Handle.services_eq h, Handle.services_eq g, heq,
    Handle.askWith_eq, Handle.askWith_eq, heq]

theorem Handle.get_congr {h g : Handle} (heq : h.bases = g.bases) (type : String) : h.get type = g.get type := by
  rw [Handle.get, Handle.get, Asker.get, Asker.get, Handle.lookup_eq heq]

theorem Handle.require_congr {h g : Handle} (heq : h.bases = g.bases) (type : String) :
    h.require type = g.require type := by
  rw [Handle.require, Handle.require, Asker.require, Asker.require, ← Handle.get, ← Handle.get, Handle.get_congr heq]

end

/-! ### Requests and scopes -/

/-- The world with other scopes. -/
def World.withScopes (w : World) (next : Nat) (ended : List Nat) : World :=
  { w with nextScope := next, ended := ended }

@[simp] theorem World.withScopes_self (w : World) : w.withScopes w.nextScope w.ended = w := rfl

namespace Attempt

variable {α β : Type}

/-- The computation neither reads nor changes what scopes there are. -/
def Blind (m : Attempt α) : Prop :=
  ∀ w next ended, m.run (w.withScopes next ended) = (m.run w).map fun x => (x.1, x.2.withScopes next ended)

variable {m : Attempt α} {f : α → Attempt β}

theorem Blind.pure (x : α) : (pure x : Attempt α).Blind := fun _ _ _ => rfl

theorem Blind.throw (e : DependencyError) : (throw e : Attempt α).Blind := fun _ _ _ => rfl

theorem Blind.endless : (endless : Attempt α).Blind := fun _ _ _ => rfl

theorem Blind.bind (hm : m.Blind) (hf : ∀ x, (f x).Blind) : (m >>= f).Blind := by
  intro w next ended
  rw [run_bind, run_bind, hm w next ended]
  rcases m.run w with _ | ⟨_ | x, w'⟩
  · rfl
  · rfl
  · exact hf x w' next ended

theorem Blind.get_bind {f : World → Attempt β} (hf : ∀ w, (f w).Blind)
    (hread : ∀ w next ended, f (w.withScopes next ended) = f w) : (get >>= f : Attempt β).Blind := by
  intro w next ended
  rw [run_bind, run_bind]
  change (f (w.withScopes next ended)).run (w.withScopes next ended) = ((f w).run w).map _
  rw [hread, hf]

theorem Blind.change {g : World → World}
    (hg : ∀ w next ended, g (w.withScopes next ended) = (g w).withScopes next ended) : (change g).Blind :=
  fun w next ended => congrArg (fun v => some ((Except.ok () : Except DependencyError Unit), v)) (hg w next ended)

theorem Blind.changeGet {g : World → α × World}
    (hg : ∀ w next ended, g (w.withScopes next ended) = ((g w).1, (g w).2.withScopes next ended)) :
    (changeGet g).Blind :=
  fun w next ended =>
    congrArg (fun x : α × World => some ((Except.ok x.1 : Except DependencyError α), x.2)) (hg w next ended)

theorem Blind.observe (hm : m.Blind) : m.observe.Blind := by
  intro w next ended
  change (m.run (w.withScopes next ended)).bind _ = ((m.run w).bind _).map _
  rw [hm w next ended]
  cases m.run w <;> rfl

theorem Blind.mapM {g : α → Attempt β} {xs : List α} (hg : ∀ x, (g x).Blind) : (xs.mapM g).Blind := by
  induction xs with
  | nil => exact .pure []
  | cons x rest ih =>
    rw [List.mapM_cons]
    exact (hg x).bind fun y => ih.bind fun ys => .pure (y :: ys)

end Attempt

section

variable {asker : Asker} {h : Handle} {a : Assembly}

theorem Asker.blind_get (hask : ∀ h type, (asker h type).Blind) (h : Handle) (type : String) :
    (asker.get h type).Blind := by
  rw [Asker.get]
  refine (hask h type).bind fun answer => ?_
  cases answer with
  | none => exact .pure none
  | some d =>
    refine Attempt.Blind.bind ?_ fun x => .pure (some x)
    rw [Delivery.unwrap]
    split
    · exact .pure d.id
    · exact .throw _

theorem Asker.blind_require (hask : ∀ h type, (asker h type).Blind) (h : Handle) (type : String) :
    (asker.require h type).Blind := by
  rw [Asker.require]
  refine (Asker.blind_get hask h type).bind fun answer => ?_
  cases answer with
  | none => exact .throw _
  | some x => exact .pure x

theorem answersTo_blind (hask : ∀ h type, (asker h type).Blind) (h : Handle) (types : List String) :
    (answersTo asker h types).Blind := by
  induction types with
  | nil => exact .pure []
  | cons type rest ih =>
    rw [answersTo]
    exact (Asker.blind_get hask h type).observe.bind fun _ => ih.bind fun _ => .pure _

theorem Assembly.blind_make (hask : ∀ h type, (asker h type).Blind) (h : Handle) (a : Assembly) (k : Construct) :
    (a.make asker h k).Blind := by
  rw [Assembly.make]
  refine (Attempt.Blind.mapM fun argument => ?_).bind fun gs => ?_
  · cases argument with
    | provider => exact .pure _
    | shared key | cloned key =>
      rw [Argument.give]
      exact (Asker.blind_require hask h _).bind fun _ => .pure _
  · exact (answersTo_blind hask h _).bind fun _ => .changeGet fun _ _ _ => rfl

theorem Accessor.blind_deliver {make : Construct → Attempt Nat} (hmake : ∀ k, (make k).Blind) (store : Nat)
    (accessor : Accessor) : (accessor.deliver make store).Blind := by
  rw [Accessor.deliver]
  split
  next cell _ k _ =>
    -- The cells are read, but no scopes.
    refine Attempt.Blind.get_bind (fun w => ?_) fun _ _ _ => rfl
    split
    · exact .pure _
    · exact (hmake k).bind fun x => (Attempt.Blind.change fun _ _ _ => rfl).bind fun _ => .pure x
  next => exact hmake _

theorem Foreign.blind_make (f : Foreign) (type : String) : (f.make type).Blind :=
  Attempt.Blind.bind (.changeGet fun _ _ _ => rfl) fun _ => .pure _

theorem Foreign.blind_answer (f : Foreign) (type : String) : (f.answer type).Blind := by
  rw [Foreign.answer]
  refine (Attempt.Blind.change fun _ _ _ => rfl).bind fun _ => ?_
  -- The calls and the instances are read, but no scopes.
  refine Attempt.Blind.get_bind (fun w => ?_) fun _ _ _ => rfl
  split
  · exact .pure none
  · exact (f.blind_make _).bind fun _ => .pure _
  · refine Attempt.Blind.get_bind (fun w => ?_) fun _ _ _ => rfl
    split
    · exact .pure _
    · exact (f.blind_make _).bind fun _ => .pure _
  · exact .throw _

mutual

theorem Handle.blind_askWith {make : Maker} (hmake : ∀ h a k, (make h a k).Blind) :
    ∀ (h : Handle) (type : String), (h.askWith make type).Blind
  | .root a store, type => by
    rw [Handle.askWith]
    split
    · exact (Accessor.blind_deliver (hmake _ a) store _).bind fun _ => .pure _
    · exact .pure none
  | .scoped a parent store, type => by
    rw [Handle.askWith]
    split
    · exact (Accessor.blind_deliver (hmake _ a) store _).bind fun _ => .pure _
    · exact Handle.blind_askWith hmake parent type
  | .scope _ _ inner, type => Handle.blind_askWith hmake inner type
  | .composed parts, type => askParts_blind hmake parts type
  | .foreign f, type => f.blind_answer type

theorem askParts_blind {make : Maker} (hmake : ∀ h a k, (make h a k).Blind) :
    ∀ (hs : List Handle) (type : String), (askParts make hs type).Blind
  | [], _ => .pure none
  | h :: rest, type => by
    rw [askParts]
    refine (Handle.blind_askWith hmake h type).bind fun answer => ?_
    cases answer with
    | some d => exact .pure (some d)
    | none => exact askParts_blind hmake rest type

end

theorem blind_ask (depth : Nat) (h : Handle) (type : String) : (ask depth h type).Blind := by
  induction depth generalizing h type with
  | zero => exact .endless
  | succ depth ih => exact Handle.blind_askWith (fun h a k => Assembly.blind_make ih h a k) h type

theorem Handle.blind_lookup (h : Handle) (type : String) : (h.lookup type).Blind := blind_ask _ h type

theorem Handle.blind_get (h : Handle) (type : String) : (h.get type).Blind := Asker.blind_get Handle.blind_lookup h type

theorem Handle.blind_require (h : Handle) (type : String) : (h.require type).Blind :=
  Asker.blind_require Handle.blind_lookup h type

end

end ServiceContainer
